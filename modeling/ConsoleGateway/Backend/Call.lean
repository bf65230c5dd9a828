import ConsoleGateway.Model.Project

namespace ConsoleGateway

inductive GuardError where
  | unauthenticated
  | notAMember (projectId : Int64)
  | projectNotFound (projectId : Int64)
  | backend (status : UInt16) (message : String)
  | transport (message : String)
  deriving DecidableEq, Repr

namespace GuardError

def message : GuardError → String
  | unauthenticated => "no authenticated session"
  | notAMember id => "caller is not a member of project " ++ toString id.toInt
  | projectNotFound id => "project " ++ toString id.toInt ++ " not found"
  | backend status message => "backend answered " ++ toString status.toNat ++ ": " ++ message
  | transport message => "backend unreachable: " ++ message

def isTransport : GuardError → Bool
  | transport _ => true
  | _ => false

end GuardError

inductive BackendCall where
  | currentUser
  | signOut
  | project (id : Int64)
  | projectMembers (id : Int64)
  deriving DecidableEq, Repr

namespace BackendCall

@[reducible] def Value : BackendCall → Type
  | currentUser => CurrentUser
  | signOut => Unit
  | project _ => Project
  | projectMembers _ => List ProjectMember

abbrev Answer (c : BackendCall) : Type := Except GuardError c.Value

end BackendCall

inductive CallKind where
  | currentUser
  | signOut
  | project
  | projectMembers
  deriving DecidableEq, Repr

def BackendCall.kind : BackendCall → CallKind
  | currentUser => .currentUser
  | signOut => .signOut
  | project _ => .project
  | projectMembers _ => .projectMembers

end ConsoleGateway
