import ConsoleGateway.Model.Snapshot

namespace ConsoleGateway

/-- Names one navigation of a session by how many have begun with it. The count has no bound here;
64 bits hold it below 2^64 navigations. -/
structure Token where
  number : Nat
  deriving DecidableEq, Repr

structure Session where
  user : Option CurrentUser := none
  projectMembers : List ProjectMember := []
  -- How many navigations have begun.
  begun : Nat := 0
  deriving DecidableEq, Repr

namespace Session

def begin (s : Session) : Session := { s with begun := s.begun + 1 }

def newest (s : Session) : Token := ⟨s.begun⟩

def isCurrent (s : Session) (token : Token) : Bool := s.begun = token.number

def clear (s : Session) : Session := { s with user := none, projectMembers := [] }

def snapshot (s : Session) : SessionSnapshot := ⟨s.user, s.projectMembers⟩

end Session

end ConsoleGateway
