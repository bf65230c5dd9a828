import ConsoleGateway.Proofs.SignOut

namespace ConsoleGateway

inductive Wish where
  | visit (mode : NavigationMode) (target : String)
  -- What the session remembers, as it is.
  | inspect
  deriving DecidableEq, Repr

abbrev Response := Outcome ⊕ SessionSnapshot

structure Errand where
  cookie : Option String
  wish : Wish
  deriving DecidableEq, Repr

namespace Errand

def flow (settings : GuardSettings) (errand : Errand) : Flow Response :=
  match errand.wish with
  | .visit mode target => do return .inl (← mode.flow settings target)
  | .inspect => do return .inr (← Flow.session).snapshot

def forgets? (errand : Errand) : Option String :=
  match errand.wish with
  | .visit _ target => if endsSession target then errand.cookie else none
  | .inspect => none

def leave (errand : Errand) (r : SessionRegistry) : SessionRegistry :=
  match errand.forgets? with
  | some cookie => (r.invalidate cookie).2
  | none => r

end Errand

namespace Traffic

inductive Stage where
  | expected
  | running (id : ContextId) (rest : Flow Response)
  | asking (id : ContextId) (call : BackendCall) (next : call.Answer → Flow Response)
  | over

def Stage.context? : Stage → Option ContextId
  | running id _ => some id
  | asking id _ _ => some id
  | _ => none

structure Task where
  errand : Errand
  stage : Stage

inductive Event where
  | began
  -- Reads its context, and perhaps writes to it.
  | looked (id : ContextId) (found : Session)
  | told (notice : Notice)
  | asked (call : BackendCall)
  | answered (call : BackendCall) (answer : call.Answer)
  | finished (response : Response)
  deriving DecidableEq

abbrev History := List (Nat × Event)

inductive Move where
  -- A request comes in, at a time in seconds.
  | start (i : Nat) (now : Int)
  | advance (i : Nat)
  -- The waiting call is given whatever the registry then answers to a call of its kind.
  | answer (i : Nat) (reply : (c : BackendCall) → c.Answer)
  | sweep (now : Int)

end Traffic

structure Traffic where
  registry : SessionRegistry
  tasks : List Traffic.Task
  history : Traffic.History

namespace Traffic

def initial (registry : SessionRegistry) (errands : List Errand) : Traffic :=
  ⟨registry, errands.map fun errand => ⟨errand, .expected⟩, []⟩

def errands (w : Traffic) : List Errand := w.tasks.map (·.errand)

def record (w : Traffic) (i : Nat) (event : Event) (task : Task) (registry : SessionRegistry) :
    Traffic :=
  ⟨registry, w.tasks.set i task, w.history ++ [(i, event)]⟩

/-- A move that is not possible changes nothing. -/
def step (settings : GuardSettings) (w : Traffic) : Move → Traffic
  | .start i now =>
    match w.tasks[i]? with
    | some ⟨errand, .expected⟩ =>
      let (id, registry) := w.registry.contextFor now errand.cookie
      w.record i .began ⟨errand, .running id (errand.flow settings)⟩ registry
    | _ => w
  | .advance i =>
    match w.tasks[i]? with
    | some ⟨errand, .running _ (.done response)⟩ =>
      w.record i (.finished response) ⟨errand, .over⟩ (errand.leave w.registry)
    | some ⟨errand, .running id (.access update next)⟩ =>
      let found := w.registry.session id
      w.record i (.looked id found) ⟨errand, .running id (next (update found))⟩
        (w.registry.setSession id (update found))
    | some ⟨errand, .running id (.notify notice next)⟩ =>
      w.record i (.told notice) ⟨errand, .running id next⟩ w.registry
    | some ⟨errand, .running id (.ask call next)⟩ =>
      w.record i (.asked call) ⟨errand, .asking id call next⟩ w.registry
    | _ => w
  | .answer i reply =>
    match w.tasks[i]? with
    | some ⟨errand, .asking id call next⟩ =>
      w.record i (.answered call (reply call)) ⟨errand, .running id (next (reply call))⟩ w.registry
    | _ => w
  | .sweep now => { w with registry := (w.registry.cleanupExpired now).2 }

def run (settings : GuardSettings) (w : Traffic) (moves : List Move) : Traffic :=
  moves.foldl (step settings) w

inductive Task.Step (settings : GuardSettings) :
    Task → SessionRegistry → Event → Task → SessionRegistry → Prop where
  | begin (errand : Errand) (r : SessionRegistry) (now : Int) :
    Step settings ⟨errand, .expected⟩ r .began
      ⟨errand, .running (r.contextFor now errand.cookie).1 (errand.flow settings)⟩
      (r.contextFor now errand.cookie).2
  | finish (errand : Errand) (r : SessionRegistry) (id : ContextId) (response : Response) :
    Step settings ⟨errand, .running id (.done response)⟩ r (.finished response) ⟨errand, .over⟩
      (errand.leave r)
  | look (errand : Errand) (r : SessionRegistry) (id : ContextId) (update : Session → Session)
      (next : Session → Flow Response) :
    Step settings ⟨errand, .running id (.access update next)⟩ r (.looked id (r.session id))
      ⟨errand, .running id (next (update (r.session id)))⟩
      (r.setSession id (update (r.session id)))
  | tell (errand : Errand) (r : SessionRegistry) (id : ContextId) (notice : Notice)
      (next : Flow Response) :
    Step settings ⟨errand, .running id (.notify notice next)⟩ r (.told notice)
      ⟨errand, .running id next⟩ r
  | ask (errand : Errand) (r : SessionRegistry) (id : ContextId) (call : BackendCall)
      (next : call.Answer → Flow Response) :
    Step settings ⟨errand, .running id (.ask call next)⟩ r (.asked call)
      ⟨errand, .asking id call next⟩ r
  | hear (errand : Errand) (r : SessionRegistry) (id : ContextId) (call : BackendCall)
      (next : call.Answer → Flow Response) (answer : call.Answer) :
    Step settings ⟨errand, .asking id call next⟩ r (.answered call answer)
      ⟨errand, .running id (next answer)⟩ r

variable {settings : GuardSettings} {w : Traffic} {i : Nat}

theorem task_record {task : Task} (here : w.tasks[i]? = some task) (event : Event) (task' : Task)
    (r : SessionRegistry) (j : Nat) :
    (w.record i event task' r).tasks[j]? = if j = i then some task' else w.tasks[j]? := by
  obtain ⟨inside, -⟩ := List.getElem?_eq_some_iff.1 here
  split
  · rename_i same
    simp [record, same, inside]
  · rename_i other
    simp [record, List.getElem?_set_ne (Ne.symm other)]

def Move.request? : Move → Option Nat
  | start i _ => some i
  | advance i => some i
  | answer i _ => some i
  | sweep _ => none

theorem step_request {move : Move} (isStep : move.request? = some i) (settings : GuardSettings)
    (w : Traffic) : w.step settings move = w ∨ ∃ task event task' registry,
      w.tasks[i]? = some task ∧ Task.Step settings task w.registry event task' registry ∧
        w.step settings move = w.record i event task' registry := by
  cases move with
  | start i now =>
    cases isStep
    simp only [step]
    split
    · rename_i errand h
      exact .inr ⟨_, _, _, _, h, .begin errand w.registry now, rfl⟩
    · exact .inl rfl
  | advance i =>
    cases isStep
    simp only [step]
    split
    · rename_i errand id response h
      exact .inr ⟨_, _, _, _, h, .finish errand w.registry id response, rfl⟩
    · rename_i errand id update next h
      exact .inr ⟨_, _, _, _, h, .look errand w.registry id update next, rfl⟩
    · rename_i errand id notice next h
      exact .inr ⟨_, _, _, _, h, .tell errand w.registry id notice next, rfl⟩
    · rename_i errand id call next h
      exact .inr ⟨_, _, _, _, h, .ask errand w.registry id call next, rfl⟩
    · exact .inl rfl
  | answer i reply =>
    cases isStep
    simp only [step]
    split
    · rename_i errand id call next h
      exact .inr ⟨_, _, _, _, h, .hear errand w.registry id call next (reply call), rfl⟩
    · exact .inl rfl
  | sweep now => cases isStep

theorem step_cases (settings : GuardSettings) (w : Traffic) (move : Move) :
    w.step settings move = w ∨
      (∃ now, w.step settings move = { w with registry := (w.registry.cleanupExpired now).2 }) ∨
      ∃ i task event task' registry, w.tasks[i]? = some task ∧
        Task.Step settings task w.registry event task' registry ∧
          w.step settings move = w.record i event task' registry := by
  cases isStep : move.request? with
  | some i => exact (step_request isStep settings w).imp_right fun goes => .inr ⟨i, goes⟩
  | none =>
    cases move with
    | sweep now => exact .inr (.inl ⟨now, rfl⟩)
    | _ => cases isStep

theorem Task.Step.errand_eq {task task' : Task} {r r' : SessionRegistry} {event : Event}
    (h : Task.Step settings task r event task' r') : task'.errand = task.errand := by
  cases h <;> rfl

theorem Task.Step.length_le {task task' : Task} {r r' : SessionRegistry} {event : Event}
    (h : Task.Step settings task r event task' r') :
    r.contexts.length ≤ r'.contexts.length := by
  cases h with
  | begin errand _ now => exact r.length_contextFor_le now errand.cookie
  | finish errand _ id response =>
    unfold Errand.leave
    split <;> simp
  | look errand _ id update next => simp
  | _ => exact Nat.le_refl _

theorem Task.Step.mem_entries {task task' : Task} {r r' : SessionRegistry} {event : Event}
    (h : Task.Step settings task r event task' r') {key : String} {id : ContextId}
    (filed : (key, id) ∈ r'.entries) :
    (key, id) ∈ r.entries ∨ id = ⟨r.contexts.length⟩ := by
  cases h with
  | begin errand _ now => exact r.mem_entries_contextFor now id filed
  | finish errand _ at_ response =>
    unfold Errand.leave at filed
    split at filed
    · exact .inl ((r.mem_entries_invalidate _ id).1 filed).1
    · exact .inl filed
  | _ => exact .inl filed

theorem errands_record {task task' : Task} {r : SessionRegistry} {event : Event}
    (here : w.tasks[i]? = some task)
    (goes : Task.Step settings task w.registry event task' r) :
    (w.record i event task' r).errands = w.errands := by
  refine List.ext_getElem? fun j => ?_
  rw [errands, errands, List.getElem?_map, List.getElem?_map, task_record here]
  split
  · rename_i same
    simp [same, here, goes.errand_eq]
  · rfl

theorem errands_step (settings : GuardSettings) (w : Traffic) (move : Move) :
    (w.step settings move).errands = w.errands := by
  rcases step_cases settings w move with h | ⟨now, h⟩ | ⟨i, task, event, task', r, here, goes, h⟩
  · rw [h]
  · rw [h]
    rfl
  · rw [h]
    exact errands_record here goes

theorem run_induction {P : Traffic → Prop} (keeps : ∀ w move, P w → P (w.step settings move))
    (start : P w) (moves : List Move) : P (w.run settings moves) := by
  induction moves generalizing w with
  | nil => exact start
  | cons move moves ih => exact ih (keeps w move start)

theorem errands_run (settings : GuardSettings) (registry : SessionRegistry)
    (errands : List Errand) (moves : List Move) :
    ((initial registry errands).run settings moves).errands = errands :=
  run_induction (P := fun w => w.errands = errands)
    (fun w move same => (errands_step settings w move).trans same)
    (by simp [initial, Traffic.errands, Function.comp_def]) moves

theorem run_cons (settings : GuardSettings) (w : Traffic) (move : Move) (moves : List Move) :
    w.run settings (move :: moves) = (w.step settings move).run settings moves := rfl

variable {handle : Flow.Handler σ}

theorem exists_run_flow {errand : Errand} {id : ContextId} {flow : Flow Response}
    (here : w.tasks[i]? = some ⟨errand, .running id flow⟩)
    (inside : id.number < w.registry.contexts.length) (alone : handle.LeavesSession) (b : σ) :
    ∃ moves, let r := flow.run handle (w.registry.session id) b
      (w.run settings moves).registry = errand.leave (w.registry.setSession id r.session) ∧
        (i, .finished r.value) ∈ (w.run settings moves).history := by
  induction flow generalizing w b with
  | done response =>
    refine ⟨[.advance i], ?_⟩
    simp [run, step, here, record, Flow.run]
  | access update next ih =>
    let found := w.registry.session id
    let w' := w.record i (.looked id found) ⟨errand, .running id (next (update found))⟩
      (w.registry.setSession id (update found))
    have remembered : w'.registry.session id = update found := by
      simp [w', record, SessionRegistry.session_setSession, inside]
    obtain ⟨moves, left, answered⟩ := ih (update found) (w := w') (by simp [w', task_record here])
      (by simpa [w', record] using inside) b
    rw [remembered] at left answered
    refine ⟨.advance i :: moves, ?_⟩
    rw [run_cons, show w.step settings (.advance i) = w' by simp [step, here, w', found]]
    exact ⟨by simpa [w', record] using left, answered⟩
  | notify notice next ih =>
    let w' := w.record i (.told notice) ⟨errand, .running id next⟩ w.registry
    obtain ⟨moves, done⟩ := ih (w := w') (by simp [w', task_record here]) inside b
    refine ⟨.advance i :: moves, ?_⟩
    rw [run_cons, show w.step settings (.advance i) = w' by simp [step, here, w']]
    exact done
  | ask c next ih =>
    obtain ⟨answer, s', b', hanswer⟩ :
        ∃ answer s' b', handle c (w.registry.session id) b = (answer, s', b') := ⟨_, _, _, rfl⟩
    obtain rfl : s' = w.registry.session id := by
      have := alone c (w.registry.session id) b
      rw [hanswer] at this
      exact this
    let w' := w.record i (.asked c) ⟨errand, .asking id c next⟩ w.registry
    have waiting : w'.tasks[i]? = some ⟨errand, .asking id c next⟩ := by simp [w', task_record here]
    let w'' := w'.record i (.answered c answer) ⟨errand, .running id (next answer)⟩ w'.registry
    obtain ⟨moves, done⟩ := ih answer (w := w'') (by simp [w'', task_record waiting]) inside b'
    refine ⟨.advance i :: .answer i (fun c => (handle c (w.registry.session id) b).1) :: moves, ?_⟩
    rw [run_cons, show w.step settings (.advance i) = w' by simp [step, here, w'], run_cons,
      show w'.step settings _ = w'' by simp [step, waiting, w'', hanswer]]
    simp only [Flow.run, hanswer]
    exact done

theorem navigate_eq (config : Config) (handle : BackendHandler σ) (now : Int)
    (cookie : Option String) (mode : NavigationMode) (target : String) (state : GatewayState σ) :
    state.navigate config handle now cookie mode target =
      let (id, registry) := state.registry.contextFor now cookie
      let r := (mode.flow (.ofConfig config) target).run
        (handle ((registry.context? id).bind (·.cookie))) (registry.session id) state.backend
      let errand : Errand := ⟨cookie, .visit mode target⟩
      ((r.value, r.notices), ⟨errand.leave (registry.setSession id r.session), r.backend⟩) := by
  cases cookie with
  | none => simp [GatewayState.navigate, GatewayState.contextFor, GatewayState.runOn, Errand.leave,
      Errand.forgets?]
  | some cookie =>
    cases ends : endsSession target <;>
      simp [GatewayState.navigate, GatewayState.contextFor, GatewayState.runOn,
        GatewayState.forget, Errand.leave, Errand.forgets?, ends]

theorem exists_run_navigate (config : Config) (handle : BackendHandler σ) (now : Int)
    (cookie : Option String) (mode : NavigationMode) (target : String) (b : σ)
    (alone : ∀ caller, (handle caller).LeavesSession)
    (here : w.tasks[i]? = some ⟨⟨cookie, .visit mode target⟩, .expected⟩) :
    ∃ moves,
      let served := GatewayState.navigate config handle now cookie mode target ⟨w.registry, b⟩
      (w.run (.ofConfig config) moves).registry = served.2.registry ∧
        (i, .finished (.inl served.1.1)) ∈ (w.run (.ofConfig config) moves).history := by
  let errand : Errand := ⟨cookie, .visit mode target⟩
  let found := w.registry.contextFor now cookie
  let w' := w.record i .began ⟨errand, .running found.1 (errand.flow (.ofConfig config))⟩ found.2
  have running : w'.tasks[i]? = some ⟨errand, .running found.1 (errand.flow (.ofConfig config))⟩ := by
    simp [w', task_record here]
  obtain ⟨moves, left, answered⟩ := exists_run_flow running
    (w.registry.contextFor_lt_length now cookie)
    (alone ((found.2.context? found.1).bind (·.cookie))) b
  refine ⟨.start i now :: moves, ?_⟩
  rw [run_cons, show w.step _ (.start i now) = w' by simp [step, here, w', errand, found],
    navigate_eq, left]
  simp only [errand, Errand.flow, Flow.bind_eq, Flow.pure_eq, Flow.run_bind, Flow.run] at answered
  exact ⟨by simp [errand, Errand.flow, Flow.run_bind, w', record, found], answered⟩

end Traffic

end ConsoleGateway
