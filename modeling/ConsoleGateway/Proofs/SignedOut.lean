import ConsoleGateway.Proofs.Splitting
import ConsoleGateway.Proofs.Traffic

namespace ConsoleGateway

namespace Traffic

def Answered (since : History) (c : BackendCall) (answer : c.Answer) : Prop :=
  ∃ j early waiting late,
    since = early ++ (j, .asked c) :: waiting ++ (j, .answered c answer) :: late ∧
      (j, .began) ∈ early ∧ ∀ event, (j, event) ∉ waiting

def answers (since : History) : Sources where
  user u := Answered since .currentUser (.ok u)
  list members := ∃ project, Answered since (.projectMembers project) (.ok members)

def Pending (since : History) (i : Nat) (c : BackendCall) : Prop :=
  ∃ early waiting, since = early ++ (i, .asked c) :: waiting ∧ (i, .began) ∈ early ∧
    ∀ event, (i, event) ∉ waiting

variable {since : History} {i j : Nat} {c : BackendCall} {event : Event}

theorem Answered.append {answer : c.Answer} (answered : Answered since c answer)
    (later : History) : Answered (since ++ later) c answer := by
  obtain ⟨j, early, waiting, late, rfl, began, quiet⟩ := answered
  exact ⟨j, early, waiting, late ++ later, by simp, began, quiet⟩

theorem answers_append (since later : History) :
    (answers since).Within (answers (since ++ later)) where
  user _ answered := answered.append later
  list _ := Exists.imp fun _ answered => answered.append later

theorem Pending.answer (pending : Pending since i c) (answer : c.Answer) :
    (Sources.answer c answer).Within (answers (since ++ [(i, .answered c answer)])) := by
  have answered : Answered (since ++ [(i, .answered c answer)]) c answer := by
    obtain ⟨early, waiting, rfl, began, quiet⟩ := pending
    exact ⟨i, early, waiting, [], rfl, began, quiet⟩
  cases c with
  | currentUser =>
    refine ⟨?_, nofun⟩
    rintro u rfl
    exact answered
  | projectMembers project =>
    refine ⟨nofun, ?_⟩
    rintro members rfl
    exact ⟨project, answered⟩
  | _ => exact Sources.nothing_within _

theorem Pending.frame (pending : Pending since i c) (other : j ≠ i) :
    Pending (since ++ [(j, event)]) i c := by
  obtain ⟨early, waiting, rfl, began, quiet⟩ := pending
  refine ⟨early, waiting ++ [(j, event)], by simp, began, fun e h => ?_⟩
  rcases List.mem_append.1 h with h | h
  · exact quiet e h
  · cases List.mem_singleton.1 h
    exact other rfl

def anyCall (_ : BackendCall) : Prop := True

theorem bounded_errand (settings : GuardSettings) (errand : Errand) (src : Sources) :
    (errand.flow settings).Bounded anyCall src := by
  unfold Errand.flow
  split
  · exact (Navigator.bounded_flow _ fun _ _ _ _ _ _ _ => trivial).bind fun _ => trivial
  · exact Flow.bounded_session.bind fun _ => trivial

def Stage.Honest (since : History) (i : Nat) : Stage → Prop
  | running _ rest => rest.Bounded anyCall (answers since)
  | asking _ c next => Pending since i c ∧ ∀ answer, (next answer).Bounded anyCall (.answer c answer)
  | _ => True

structure Task.Apart (cookie : String) (n : Nat) (since : History) (i : Nat) (task : Task) :
    Prop where
  expected : task.stage = .expected → (i, .began) ∉ since
  own : (i, .began) ∈ since → task.errand.cookie = some cookie →
    ∀ id, task.stage.context? = some id → n ≤ id.number
  fresh : ∀ id, task.stage.context? = some id → n ≤ id.number →
    (i, .began) ∈ since ∧ task.stage.Honest since i

theorem Task.Apart.frame {cookie : String} {n : Nat} {task : Task}
    (apart : task.Apart cookie n since i) (other : j ≠ i) :
    task.Apart cookie n (since ++ [(j, event)]) i := by
  have began : (i, .began) ∈ since ++ [(j, event)] ↔ (i, .began) ∈ since := by
    simp [Ne.symm other]
  refine ⟨fun h => began.not.2 (apart.expected h), fun h => apart.own (began.1 h),
    fun id at_ new => ?_⟩
  obtain ⟨came, honest⟩ := apart.fresh id at_ new
  refine ⟨began.2 came, ?_⟩
  cases stage : task.stage with
  | running id rest =>
    rw [stage] at honest
    exact Flow.Bounded.widen honest (answers_append _ _)
  | asking id c next =>
    rw [stage] at honest
    exact ⟨honest.1.frame other, honest.2⟩
  | _ => trivial

theorem Task.Apart.proceed {cookie : String} {n : Nat} {task task' : Task}
    (apart : task.Apart cookie n since i) (errand : task'.errand = task.errand)
    (place : task'.stage.context? = task.stage.context?) (going : task'.stage ≠ .expected)
    (goes : event ≠ .began)
    (honest : ∀ id, task.stage.context? = some id → n ≤ id.number →
      task'.stage.Honest (since ++ [(i, event)]) i) :
    task'.Apart cookie n (since ++ [(i, event)]) i := by
  have began : (i, .began) ∈ since ++ [(i, event)] ↔ (i, .began) ∈ since := by
    simp [Ne.symm goes]
  refine ⟨fun h => absurd h going, fun h => ?_, fun id at_ new => ?_⟩
  · rw [errand, place]
    exact apart.own (began.1 h)
  · rw [place] at at_
    exact ⟨began.2 (apart.fresh id at_ new).1, honest id at_ new⟩

def Permits (errands : List Errand) (cookie : String) (n : Nat) (since : History) (i : Nat) :
    Event → Prop
  | .looked id found =>
    (n ≤ id.number → (i, .began) ∈ since ∧ (answers since).Covers found) ∧
      ((i, .began) ∈ since → errands[i]?.bind (·.cookie) = some cookie → n ≤ id.number)
  | _ => True

/-- Since all contexts had numbers below `n` and none of them was filed for the cookie, contexts
with higher numbers have been kept apart from what was known before. -/
structure Apart (cookie : String) (n : Nat) (since : History) (w : Traffic) : Prop where
  made : n ≤ w.registry.contexts.length
  filed : ∀ id, (fingerprint cookie, id) ∈ w.registry.entries → n ≤ id.number
  remembered : ∀ id, n ≤ id.number → (answers since).Covers (w.registry.session id)
  tasks : ∀ i (task : Task), w.tasks[i]? = some task → task.Apart cookie n since i
  events : ∀ middle i event rest, since = middle ++ (i, event) :: rest →
    Permits w.errands cookie n middle i event

variable {settings : GuardSettings} {cookie : String} {n : Nat} {w : Traffic}
  {task task' : Task} {r : SessionRegistry}

namespace Apart

theorem remembers (apart : Apart cookie n since w) (own : task.Apart cookie n since i)
    (goes : Task.Step settings task w.registry event task' r) {id : ContextId}
    (new : n ≤ id.number) : (answers since).Covers (r.session id) := by
  cases goes with
  | begin errand _ now =>
    rw [SessionRegistry.session_contextFor]
    exact apart.remembered id new
  | finish errand _ at_ response =>
    unfold Errand.leave
    split
    · rw [SessionRegistry.session_invalidate]
      split
      · exact Sources.covers_clear _ _
      · exact apart.remembered id new
    · exact apart.remembered id new
  | look errand _ at_ update next =>
    rw [SessionRegistry.session_setSession]
    split
    · rename_i here
      obtain ⟨rfl, -⟩ := here
      exact (apart.remembered at_ new).write ((own.fresh at_ rfl new).2 _).1
    · exact apart.remembered id new
  | _ => exact apart.remembered id new

theorem proceeds (apart : Apart cookie n since w) (own : task.Apart cookie n since i)
    (goes : Task.Step settings task w.registry event task' r) :
    task'.Apart cookie n (since ++ [(i, event)]) i := by
  cases goes with
  | begin errand _ now =>
    refine ⟨nofun, fun _ named id at_ => ?_, fun id _ _ =>
      ⟨by simp, bounded_errand settings errand _⟩⟩
    cases at_
    rw [show errand.cookie = some cookie from named]
    rcases w.registry.contextFor_origin now cookie with filed | made
    · exact apart.filed _ filed
    · rw [made]
      exact apart.made
  | finish errand _ at_ response => exact ⟨nofun, fun _ _ _ => nofun, fun _ => nofun⟩
  | look errand _ at_ update next =>
    refine own.proceed rfl rfl nofun nofun fun id here new => ?_
    cases here
    exact ((own.fresh at_ rfl new).2 _).2.widen (answers_append _ _)
  | tell errand _ at_ notice next =>
    refine own.proceed rfl rfl nofun nofun fun id here new => ?_
    exact Flow.Bounded.widen (f := next) (own.fresh id here new).2 (answers_append _ _)
  | ask errand _ at_ call next =>
    refine own.proceed rfl rfl nofun nofun fun id here new => ?_
    obtain ⟨came, honest⟩ := own.fresh id here new
    exact ⟨⟨since, [], rfl, came, nofun⟩, honest.2⟩
  | hear errand _ at_ call next answer =>
    refine own.proceed rfl rfl nofun nofun fun id here new => ?_
    obtain ⟨-, pending, honest⟩ := own.fresh id here new
    exact (honest answer).widen (pending.answer answer)

theorem permits (apart : Apart cookie n since w) (here : w.tasks[i]? = some task)
    (goes : Task.Step settings task w.registry event task' r) :
    Permits w.errands cookie n since i event := by
  have own := apart.tasks i task here
  cases goes with
  | look errand _ at_ update next =>
    refine ⟨fun new => ⟨(own.fresh at_ rfl new).1, apart.remembered at_ new⟩,
      fun came named => own.own came ?_ at_ rfl⟩
    simpa [Traffic.errands, here] using named
  | _ => trivial

theorem record (apart : Apart cookie n since w) (here : w.tasks[i]? = some task)
    (goes : Task.Step settings task w.registry event task' r) :
    Apart cookie n (since ++ [(i, event)]) (w.record i event task' r) where
  made := Nat.le_trans apart.made goes.length_le
  filed id filed := by
    rcases goes.mem_entries filed with old | new
    · exact apart.filed id old
    · rw [new]
      exact apart.made
  remembered id new := (apart.remembers (apart.tasks i task here) goes new).mono (answers_append _ _)
  tasks j task'' there := by
    rw [task_record here] at there
    split at there
    · rename_i same
      cases there
      rw [same]
      exact apart.proceeds (apart.tasks i task here) goes
    · rename_i other
      exact (apart.tasks j task'' there).frame (Ne.symm other)
  events middle j event' rest split := by
    rw [errands_record here goes]
    rcases snoc_eq_append_cons split with ⟨rest, earlier, -⟩ | ⟨rfl, -, this⟩
    · exact apart.events middle j event' rest earlier
    · cases this
      exact apart.permits here goes

theorem sweep (apart : Apart cookie n since w) (now : Int) :
    Apart cookie n since { w with registry := (w.registry.cleanupExpired now).2 } :=
  { apart with
    filed := fun id filed => apart.filed id (SessionRegistry.mem_entries_cleanupExpired _ _ filed) }

end Apart

structure Placed (w : Traffic) : Prop where
  tasks : ∀ (i : Nat) (task : Task), w.tasks[i]? = some task → ∀ id, task.stage.context? = some id →
    id.number < w.registry.contexts.length
  looks : ∀ i id s, (i, .looked id s) ∈ w.history → id.number < w.registry.contexts.length

theorem Placed.record (placed : Placed w) (here : w.tasks[i]? = some task)
    (goes : Task.Step settings task w.registry event task' r) :
    Placed (w.record i event task' r) where
  tasks j task'' there id at_ := by
    rw [task_record here] at there
    split at there
    · cases there
      cases goes with
      | begin errand _ now =>
        cases at_
        exact w.registry.contextFor_lt_length now errand.cookie
      | finish errand _ id' response => cases at_
      | look errand _ id' update next =>
        simpa [Traffic.record] using placed.tasks i _ here id at_
      | _ => exact placed.tasks i _ here id at_
    · exact Nat.lt_of_lt_of_le (placed.tasks j task'' there id at_) goes.length_le
  looks j id s looked := by
    refine Nat.lt_of_lt_of_le ?_ goes.length_le
    rcases List.mem_append.1 looked with old | new
    · exact placed.looks j id s old
    · cases List.mem_singleton.1 new
      cases goes
      exact placed.tasks i _ here _ rfl

/-- A request to sign out that has its answer has cut the contexts in two: those before it, and
those that are made for its cookie from then on. -/
def CutOff (w : Traffic) : Prop :=
  ∀ before k response since errand cookie,
    w.history = before ++ (k, .finished response) :: since → w.errands[k]? = some errand →
      errand.forgets? = some cookie → ∃ n, Apart cookie n since w ∧
        ∀ i id s, (i, .looked id s) ∈ before → id.number < n

theorem apart_finish {errand : Errand} {response : Response} (placed : Placed w)
    (forgets : errand.forgets? = some cookie) {at_ : ContextId}
    (here : w.tasks[i]? = some ⟨errand, .running at_ (.done response)⟩) :
    Apart cookie w.registry.contexts.length []
      (w.record i (.finished response) ⟨errand, .over⟩ (errand.leave w.registry)) := by
  have left : errand.leave w.registry = (w.registry.invalidate cookie).2 := by
    simp [Errand.leave, forgets]
  have old : ∀ id : ContextId, w.registry.contexts.length ≤ id.number →
      w.registry.session id = {} := fun id => w.registry.session_of_length_le id
  rw [left]
  refine ⟨by simp [Traffic.record], fun id filed => ?_, fun id new => ?_, fun j task there => ?_,
    fun middle j event rest split => by simp at split⟩
  · exact absurd rfl ((w.registry.mem_entries_invalidate cookie id).1 filed).2
  · change (answers []).Covers ((w.registry.invalidate cookie).2.session id)
    rw [SessionRegistry.session_invalidate, old id new]
    split <;> exact Sources.covers_empty _
  · rw [task_record here] at there
    refine ⟨by simp, by simp, fun id at_ new => ?_⟩
    split at there
    · cases there
      cases at_
    · exact absurd (placed.tasks j task there id at_) (Nat.not_lt.2 new)

theorem CutOff.record (cutOff : CutOff w) (placed : Placed w) (here : w.tasks[i]? = some task)
    (goes : Task.Step settings task w.registry event task' r) :
    CutOff (w.record i event task' r) := by
  intro before k response since errand cookie split asked forgets
  rw [errands_record here goes] at asked
  rcases snoc_eq_append_cons split with ⟨since, earlier, rfl⟩ | ⟨rfl, rfl, this⟩
  · obtain ⟨n, apart, old⟩ := cutOff before k response since errand cookie earlier asked forgets
    exact ⟨n, apart.record here goes, old⟩
  · cases this
    cases goes with
    | finish errand' _ at_ _ =>
      obtain rfl : errand' = errand := by simpa [Traffic.errands, here] using asked
      exact ⟨_, apart_finish placed forgets here, placed.looks⟩

theorem cutOff_run (settings : GuardSettings) (registry : SessionRegistry) (errands : List Errand)
    (moves : List Move) : CutOff ((initial registry errands).run settings moves) := by
  refine (run_induction (P := fun w => Placed w ∧ CutOff w) (fun w move sound => ?_) ?_ moves).2
  · rcases step_cases settings w move with
      h | ⟨now, h⟩ | ⟨i, task, event, task', r, here, goes, h⟩
    · rw [h]
      exact sound
    · rw [h]
      refine ⟨⟨sound.1.tasks, sound.1.looks⟩, fun before k response since errand cookie split
        asked forgets => ?_⟩
      obtain ⟨n, apart, old⟩ := sound.2 before k response since errand cookie split asked forgets
      exact ⟨n, apart.sweep now, old⟩
    · rw [h]
      exact ⟨sound.1.record here goes, sound.2.record sound.1 here goes⟩
  · refine ⟨⟨fun i task there id at_ => ?_, nofun⟩, fun before k response since errand cookie split =>
      by simp [initial] at split⟩
    simp only [initial, List.getElem?_map, Option.map_eq_some_iff] at there
    obtain ⟨errand, -, rfl⟩ := there
    cases at_

/-- Sign-out is final. Whatever user or members a request finds that came in with the cookie after
the sign-out had its answer, the registry named them after the sign-out to someone who came in after
it; and nobody is ever at the same context who came in before. This holds of all requests that are
under way, whatever they are answered, and also when contexts expire meanwhile. -/
theorem signOut_final (settings : GuardSettings) (registry : SessionRegistry)
    (errands : List Errand) (moves : List Move) {before middle after : History} {k r : Nat}
    {cookie target : String} {mode : NavigationMode} {page : Navigation} {wish : Wish}
    {response : Response} {id : ContextId} {s : Session}
    (parsed : Navigation.parse target = .ok page) (signingOut : page.isSigningOut = true)
    (atSignIn : page.path = signInPath)
    (leaves : errands[k]? = some ⟨some cookie, .visit mode target⟩)
    (comes : errands[r]? = some ⟨some cookie, wish⟩)
    (seen : ((initial registry errands).run settings moves).history =
      before ++ (k, .finished response) :: middle ++ (r, .looked id s) :: after)
    (later : (r, .began) ∈ middle) :
    (∀ u, s.user = some u → Answered middle .currentUser (.ok u)) ∧
      (s.projectMembers ≠ [] →
        ∃ project, Answered middle (.projectMembers project) (.ok s.projectMembers)) ∧
      ∀ j found, (j, .looked id found) ∈ before ++ (k, .finished response) :: middle ++
          (r, .looked id s) :: after → (j, .began) ∈ middle ++ (r, .looked id s) :: after := by
  have forgets : (⟨some cookie, .visit mode target⟩ : Errand).forgets? = some cookie := by
    simp [Errand.forgets?, endsSession_eq_true.2 ⟨page, parsed, signingOut, atSignIn⟩]
  have asked := errands_run settings registry errands moves
  rw [List.append_assoc, List.cons_append] at seen ⊢
  obtain ⟨n, apart, old⟩ := cutOff_run settings registry errands moves before k response _ _ cookie
    seen (by rw [asked]; exact leaves) forgets
  obtain ⟨finds, isNew⟩ := apart.events middle r _ after rfl
  have new : n ≤ id.number := isNew later (by rw [asked, comes]; rfl)
  obtain ⟨-, user, list⟩ := finds new
  refine ⟨user, list, fun j found looked => ?_⟩
  rcases List.mem_append.1 looked with earlier | since
  · exact absurd (old j id found earlier) (Nat.not_lt.2 new)
  · rcases List.mem_cons.1 since with this | since
    · cases this
    · obtain ⟨middle', after', split⟩ := List.append_of_mem since
      rw [split]
      exact List.mem_append_left _ ((apart.events middle' j _ after' split).1 new).1

def handover : List Errand :=
  [⟨some "abc", .visit .load "/harbor/logs"⟩,
    ⟨some "abc", .visit .load "/harbor/sign-in?signout=true"⟩,
    ⟨some "abc", .visit .load "/harbor/logs"⟩, ⟨some "abc", .inspect⟩]

def handoverMoves : List Move :=
  let hear (name : String) : (c : BackendCall) → c.Answer
    | .currentUser => .ok ⟨2, name, false⟩
    | _ => .error .unauthenticated
  let go (i n : Nat) : List Move := .replicate n (.advance i)
  .start 0 0 :: go 0 4 ++ .start 1 0 :: go 1 4 ++ .answer 1 (hear "alice") :: go 1 2 ++
    .answer 1 (hear "alice") :: go 1 2 ++ .start 2 0 :: go 2 4 ++ .answer 0 (hear "alice") ::
    .answer 2 (hear "bob") :: go 0 2 ++ go 2 2 ++ [.start 3 0, .advance 3]

theorem signOut_final_handover :
    let seen := ((initial { ttl := 1800 } handover).run {} handoverMoves).history
    let bob : CurrentUser := ⟨2, "bob", false⟩
    ∃ before middle response,
      seen = before ++ (1, .finished response) :: middle ++ [(3, .looked ⟨1⟩ { user := bob })] ∧
        (3, .began) ∈ middle ∧ (0, .answered .currentUser (.ok ⟨2, "alice", false⟩)) ∈ middle ∧
        Answered middle .currentUser (.ok bob) := by
  intro seen bob
  let middle := (seen.drop 16).take 12
  have happens : seen = seen.take 15 ++ (1, .finished (.inl (.redirected (.ofPath signInPath)))) ::
      middle ++ [(3, .looked ⟨1⟩ { user := bob })] ∧ (3, .began) ∈ middle ∧
        (0, .answered .currentUser (.ok ⟨2, "alice", false⟩)) ∈ middle := by
    decide +kernel
  obtain ⟨split, later, meanwhile⟩ := happens
  obtain ⟨user, -⟩ := signOut_final {} { ttl := 1800 } handover handoverMoves
    (show Navigation.parse "/harbor/sign-in?signout=true" = .ok _ from rfl) (by decide) (by decide)
    rfl rfl split later
  exact ⟨_, middle, _, split, later, meanwhile, user bob rfl⟩

end Traffic

end ConsoleGateway
