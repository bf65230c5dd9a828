import ConsoleGateway.Backend.Scripted

namespace ConsoleGateway

inductive Progress (α : Type) where
  | finished (value : α) (notices : List Notice)
  -- A call has reached its registry and is answered after a delay.
  | waiting (call : BackendCall) (delay : Nat) (notices : List Notice)
    (next : call.Answer → Flow α)

def Flow.advance : Flow α → List Notice → Session → ScriptedBackend →
    Progress α × Session × ScriptedBackend
  | done a, notices, s, b => (.finished a notices, s, b)
  | access f next, notices, s, b => (next (f s)).advance notices (f s) b
  | notify n next, notices, s, b => next.advance (notices ++ [n]) s b
  | ask c next, notices, s, b =>
    let (passage, b) := b.issue none c
    let s := passage.disturb s
    match passage.failure with
    | some error => (next (.error error)).advance notices s b
    | none =>
      let b := b.arrive none c
      match b.delay none c with
      | some delay => (.waiting c delay notices next, s, b)
      | none =>
        let (answer, b) := b.reply none c
        (next answer).advance notices s b

namespace Schedule

inductive Stage (α : Type) where
  | start (flow : Flow α)
  | resume (call : BackendCall) (notices : List Notice) (next : call.Answer → Flow α)

structure Event (α : Type) where
  time : Nat
  item : Nat
  stage : Stage α

def file (e : Event α) : List (Event α) → List (Event α)
  | [] => [e]
  | first :: rest => if e.time < first.time then e :: first :: rest else first :: file e rest

def Stage.run : Stage α → Session → ScriptedBackend → Progress α × Session × ScriptedBackend
  | .start flow, s, b => flow.advance [] s b
  | .resume c notices next, s, b =>
    let (answer, b) := b.reply none c
    (next answer).advance notices s b

structure Result (α : Type) where
  finished : List (Nat × α × List Notice)
  session : Session
  backend : ScriptedBackend

def run : Nat → List (Event α) → Session → ScriptedBackend → Result α
  | 0, _, s, b => ⟨[], s, b⟩
  | _, [], s, b => ⟨[], s, b⟩
  | fuel + 1, e :: rest, s, b =>
    match e.stage.run s b with
    | (.finished value notices, s, b) =>
      let r := run fuel rest s b
      { r with finished := (e.item, value, notices) :: r.finished }
    | (.waiting c delay notices next, s, b) =>
      run fuel (file ⟨e.time + delay, e.item, .resume c notices next⟩ rest) s b

def starts (flows : List (Nat × Flow α)) : List (Event α) :=
  flows.zipIdx.foldl (fun events ((time, flow), item) => file ⟨time, item, .start flow⟩ events) []

/-- How many events one navigation can bring about: its start and the answers to its calls, of
which there are at most four. -/
def eventsPerFlow : Nat := 5

def runAll (flows : List (Nat × Flow α)) (s : Session) (b : ScriptedBackend) : Result α :=
  run (flows.length * eventsPerFlow) (starts flows) s b

end Schedule

end ConsoleGateway
