import ConsoleGateway.Backend.Call

namespace ConsoleGateway

structure MemoryBackend where
  user : Option CurrentUser := none
  signOutFails : Bool := false
  projects : List (Int64 × Project) := []
  -- The member lists that callers may see, by the number of their project.
  members : List (Int64 × List ProjectMember) := []
  projectsUnreachable : Bool := false
  -- The calls that reached the registry, the first one first.
  log : List BackendCall := []
  deriving DecidableEq, Repr

namespace MemoryBackend

def assign (key : Int64) (value : α) (pairs : List (Int64 × α)) : List (Int64 × α) :=
  (key, value) :: pairs.filter (·.1 ≠ key)

def addProject (b : MemoryBackend) (p : Project) : MemoryBackend :=
  { b with projects := assign p.id p b.projects }

def addMembers (b : MemoryBackend) (id : Int64) (members : List ProjectMember) : MemoryBackend :=
  { b with members := assign id members b.members }

def refused : GuardError := .transport "connection refused"

def record (b : MemoryBackend) (c : BackendCall) : MemoryBackend := { b with log := b.log ++ [c] }

def reply (b : MemoryBackend) : (c : BackendCall) → c.Answer × MemoryBackend
  | .currentUser =>
    (match b.user with
      | some u => .ok u
      | none => .error .unauthenticated, b)
  | .signOut => if b.signOutFails then (.error refused, b) else (.ok (), { b with user := none })
  | .project id =>
    (if b.projectsUnreachable then .error refused
      else match b.projects.lookup id with
        | some p => .ok p
        | none => .error (.projectNotFound id), b)
  | .projectMembers id =>
    (match b.members.lookup id with
      | some ms => .ok ms
      | none => .error (.notAMember id), b)

def answer (b : MemoryBackend) (c : BackendCall) : c.Answer × MemoryBackend := (b.record c).reply c

end MemoryBackend

end ConsoleGateway
