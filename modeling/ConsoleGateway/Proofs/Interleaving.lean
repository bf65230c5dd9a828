import ConsoleGateway.Proofs.Marked

namespace ConsoleGateway

inductive Task where
  | idle (request : NavigationRequest)
  | waiting (call : BackendCall) (next : call.Answer → MarkedFlow Outcome)
  | ended (outcome : Outcome)

abbrev Log := List (Nat × Mark)

structure Leg where
  marks : List Mark
  task : Task
  session : Session

def MarkedFlow.advance : MarkedFlow Outcome → Session → Leg
  | done outcome, s => ⟨[.settled outcome], .ended outcome, s⟩
  | access update next, s => (next (update s)).advance (update s)
  | notify _ next, s => next.advance s
  | ask c next, s => ⟨[], .waiting c next, s⟩
  | mark m next, s =>
    let leg := next.advance s
    { leg with marks := m :: leg.marks }

structure World where
  session : Session
  tasks : List Task
  log : Log

inductive Move where
  | start (i : Nat)
  -- The waiting call is given whatever the registry then answers to a call of its kind.
  | answer (i : Nat) (reply : (c : BackendCall) → c.Answer)

namespace World

def initial (s : Session) (requests : List NavigationRequest) : World :=
  ⟨s, requests.map .idle, []⟩

def proceed (w : World) (i : Nat) (f : MarkedFlow Outcome) : World :=
  let leg := f.advance w.session
  ⟨leg.session, w.tasks.set i leg.task, w.log ++ leg.marks.map (i, ·)⟩

/-- A move that is not possible changes nothing. -/
def step (w : World) : Move → World
  | .start i =>
    match w.tasks[i]? with
    | some (.idle request) => w.proceed i request.flow
    | _ => w
  | .answer i reply =>
    match w.tasks[i]? with
    | some (.waiting c next) => w.proceed i (next (reply c))
    | _ => w

def run (w : World) (moves : List Move) : World := moves.foldl step w

variable {w : World} {i : Nat}

theorem step_start {request : NavigationRequest} (idle : w.tasks[i]? = some (.idle request)) :
    w.step (.start i) = w.proceed i request.flow := by
  simp [step, idle]

theorem step_answer {c : BackendCall} {next : c.Answer → MarkedFlow Outcome}
    (waiting : w.tasks[i]? = some (.waiting c next)) (reply : (c : BackendCall) → c.Answer) :
    w.step (.answer i reply) = w.proceed i (next (reply c)) := by
  simp [step, waiting]

theorem step_cases (w : World) (move : Move) :
    w.step move = w ∨
      (∃ i request, w.tasks[i]? = some (.idle request) ∧
        w.step move = w.proceed i request.flow) ∨
      ∃ i c, ∃ next : c.Answer → MarkedFlow Outcome, ∃ answer,
        w.tasks[i]? = some (.waiting c next) ∧ w.step move = w.proceed i (next answer) := by
  cases move with
  | start i =>
    cases h : w.tasks[i]? with
    | none => simp [step, h]
    | some task =>
      cases task with
      | idle request => exact .inr (.inl ⟨i, request, h, step_start h⟩)
      | waiting c next => simp [step, h]
      | ended outcome => simp [step, h]
  | answer i reply =>
    cases h : w.tasks[i]? with
    | none => simp [step, h]
    | some task =>
      cases task with
      | idle request => simp [step, h]
      | waiting c next => exact .inr (.inr ⟨i, c, next, reply c, h, step_answer h reply⟩)
      | ended outcome => simp [step, h]

theorem run_append (w : World) (moves moves' : List Move) :
    w.run (moves ++ moves') = (w.run moves).run moves' := by
  simp [run]

theorem run_induction {P : World → Prop} (keeps : ∀ w move, P w → P (w.step move)) (start : P w)
    (moves : List Move) : P (w.run moves) := by
  induction moves generalizing w with
  | nil => exact start
  | cons move moves ih => exact ih (keeps w move start)

end World

end ConsoleGateway
