import ConsoleGateway.Backend.Memory
import ConsoleGateway.Guard.Flow

namespace ConsoleGateway

inductive Incident where
  -- It fails and never reaches its registry.
  | failure (error : GuardError)
  -- A newer navigation begins on the session of the caller.
  | overtaking
  deriving DecidableEq, Repr

/-- An incident that waits for a call of a kind to come. -/
structure Arrangement where
  kind : CallKind
  -- The how-manieth call of the kind it happens to, counted from now.
  countdown : Nat
  incident : Incident
  deriving DecidableEq, Repr

namespace Arrangement

def isDue (a : Arrangement) (c : BackendCall) : Bool := a.kind = c.kind && a.countdown = 1

def after (a : Arrangement) (c : BackendCall) : Option Arrangement :=
  if a.isDue c then none
  else if a.kind = c.kind then some { a with countdown := a.countdown - 1 }
  else some a

end Arrangement

structure Passage where
  -- How many newer navigations begin meanwhile.
  overtakings : Nat
  -- The failure it ends in instead of reaching its registry.
  failure : Option GuardError
  deriving DecidableEq, Repr

namespace Passage

def clear : Passage := ⟨0, none⟩

def meet (p : Passage) : Incident → Passage
  | .failure error => { p with failure := some error }
  | .overtaking => { p with overtakings := p.overtakings + 1 }

def disturb (p : Passage) (s : Session) : Session := { s with begun := s.begun + p.overtakings }

end Passage

structure ScriptedBackend where
  shared : MemoryBackend := {}
  -- The registries that belong to one cookie.
  own : List (String × MemoryBackend) := []
  -- How long the shared registry takes to find out who a caller is, in milliseconds.
  userDelay : Option Nat := none
  arrangements : List Arrangement := []
  -- The calls seen and the cookies they came with, the first one first.
  issued : List (BackendCall × Option String) := []
  deriving DecidableEq, Repr

namespace ScriptedBackend

def owns (b : ScriptedBackend) (cookie : Option String) : Bool :=
  match cookie with
  | some value => (b.own.lookup value).isSome
  | none => false

def registryOf (b : ScriptedBackend) (cookie : Option String) : MemoryBackend :=
  (cookie.bind fun value => b.own.lookup value).getD b.shared

def setRegistryOf (b : ScriptedBackend) (cookie : Option String) (registry : MemoryBackend) :
    ScriptedBackend :=
  if b.owns cookie then
    { b with own := b.own.map fun (value, old) =>
        (value, if some value = cookie then registry else old) }
  else { b with shared := registry }

def issue (b : ScriptedBackend) (cookie : Option String) (c : BackendCall) :
    Passage × ScriptedBackend :=
  let due := b.arrangements.filter (·.isDue c)
  (due.foldl (fun p a => p.meet a.incident) .clear,
    { b with
      arrangements := b.arrangements.filterMap (·.after c)
      issued := b.issued ++ [(c, cookie)] })

def arrive (b : ScriptedBackend) (cookie : Option String) (c : BackendCall) : ScriptedBackend :=
  b.setRegistryOf cookie ((b.registryOf cookie).record c)

def reply (b : ScriptedBackend) (cookie : Option String) (c : BackendCall) :
    c.Answer × ScriptedBackend :=
  let (answer, registry) := (b.registryOf cookie).reply c
  (answer, b.setRegistryOf cookie registry)

def delay (b : ScriptedBackend) (cookie : Option String) : BackendCall → Option Nat
  | .currentUser => if b.owns cookie then none else b.userDelay
  | _ => none

def handle (cookie : Option String) : Flow.Handler ScriptedBackend := fun c s b =>
  let (passage, b) := b.issue cookie c
  match passage.failure with
  | some error => (.error error, passage.disturb s, b)
  | none =>
    let (answer, b) := (b.arrive cookie c).reply cookie c
    (answer, passage.disturb s, b)

end ScriptedBackend

end ConsoleGateway
