import ConsoleGateway.Proofs.Conduct
import ConsoleGateway.Proofs.Interleaving

namespace ConsoleGateway

inductive Act where
  | answered (call : BackendCall) (answer : call.Answer)
  | marked (m : Mark)
  deriving DecidableEq

abbrev Record := List (Nat × Act)

def Record.log (record : Record) : Log :=
  record.filterMap fun | (i, .marked m) => some (i, m) | _ => none

structure Recorded where
  world : World
  record : Record

namespace Record

variable {record : Record} {i : Nat} {m : Mark}

@[simp] theorem log_nil : log [] = [] := rfl

@[simp] theorem log_append (record rest : Record) : log (record ++ rest) = record.log ++ log rest :=
  List.filterMap_append

@[simp] theorem log_cons_marked (record : Record) :
    log ((i, .marked m) :: record) = (i, m) :: record.log := rfl

@[simp] theorem log_cons_answered {c : BackendCall} (answer : c.Answer) (record : Record) :
    log ((i, .answered c answer) :: record) = record.log := rfl

@[simp] theorem log_marked (marks : List Mark) :
    log (marks.map fun m => (i, .marked m)) = marks.map (i, ·) := by
  induction marks with
  | nil => rfl
  | cons m marks ih => simp [ih]

theorem mem_log : (i, m) ∈ record.log ↔ (i, .marked m) ∈ record := by
  rw [log, List.mem_filterMap]
  constructor
  · rintro ⟨⟨j, act⟩, hmem, hmark⟩
    cases act <;> cases hmark
    exact hmem
  · exact fun h => ⟨_, h, rfl⟩

end Record

namespace Recorded

def initial (s : Session) (requests : List NavigationRequest) : Recorded :=
  ⟨.initial s requests, []⟩

def hear (x : Recorded) (i : Nat) (c : BackendCall) (answer : c.Answer) : Recorded :=
  { x with record := x.record ++ [(i, .answered c answer)] }

def proceed (x : Recorded) (i : Nat) (f : MarkedFlow Outcome) : Recorded :=
  ⟨x.world.proceed i f,
    x.record ++ (f.advance x.world.session).marks.map fun m => (i, .marked m)⟩

def step (x : Recorded) : Move → Recorded
  | .start i =>
    match x.world.tasks[i]? with
    | some (.idle request) => x.proceed i request.flow
    | _ => x
  | .answer i reply =>
    match x.world.tasks[i]? with
    | some (.waiting c next) => (x.hear i c (reply c)).proceed i (next (reply c))
    | _ => x

def run (x : Recorded) (moves : List Move) : Recorded := moves.foldl step x

theorem step_cases (x : Recorded) (move : Move) :
    x.step move = x ∨
      (∃ i request, x.world.tasks[i]? = some (.idle request) ∧
        x.step move = x.proceed i request.flow) ∨
      ∃ i c, ∃ next : c.Answer → MarkedFlow Outcome, ∃ answer,
        x.world.tasks[i]? = some (.waiting c next) ∧
          x.step move = (x.hear i c answer).proceed i (next answer) := by
  cases move with
  | start i =>
    simp only [step]
    split
    · rename_i request h
      exact .inr (.inl ⟨i, request, h, rfl⟩)
    · exact .inl rfl
  | answer i reply =>
    simp only [step]
    split
    · rename_i c next h
      exact .inr (.inr ⟨i, c, next, reply c, h, rfl⟩)
    · exact .inl rfl

@[simp] theorem world_step (x : Recorded) (move : Move) :
    (x.step move).world = x.world.step move := by
  cases move with
  | start i =>
    simp only [step, World.step]
    split <;> simp_all [proceed]
  | answer i reply =>
    simp only [step, World.step]
    split <;> simp_all [proceed, hear]

@[simp] theorem world_run (x : Recorded) (moves : List Move) :
    (x.run moves).world = x.world.run moves := by
  induction moves generalizing x with
  | nil => rfl
  | cons move moves ih => exact (ih (x.step move)).trans (by rw [world_step]; rfl)

theorem run_induction {x : Recorded} {P : Recorded → Prop}
    (keeps : ∀ x move, P x → P (x.step move)) (start : P x) (moves : List Move) :
    P (x.run moves) := by
  induction moves generalizing x with
  | nil => exact start
  | cons move moves ih => exact ih (keeps x move start)

end Recorded

end ConsoleGateway
