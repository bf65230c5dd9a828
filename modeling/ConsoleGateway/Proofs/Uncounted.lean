import ConsoleGateway.Proofs.SignOut

namespace ConsoleGateway

def Session.recount (s : Session) (count : Nat) : Session := { s with begun := count }

/-- A backend that never gets to see a session: its answers depend on the caller's cookie, the call
and its own state. -/
def BackendHandler.ofAnswers (answer : Option String → (c : BackendCall) → σ → c.Answer × σ) :
    BackendHandler σ :=
  fun caller c s b => ((answer caller c b).1, s, (answer caller c b).2)

theorem BackendHandler.leavesSession_ofAnswers
    (answer : Option String → (c : BackendCall) → σ → c.Answer × σ) (caller : Option String) :
    (ofAnswers answer caller).LeavesSession :=
  fun _ _ _ => rfl

namespace Flow

/-- The flow does the same whatever the count of navigations is, and leaves it. -/
def Uncounted : Flow α → Prop
  | done _ => True
  | access update next =>
    (∀ s count, update (s.recount count) = (update s).recount count ∧
      next (s.recount count) = next s) ∧ ∀ s, (next s).Uncounted
  | notify _ next => next.Uncounted
  | ask _ next => ∀ answer, (next answer).Uncounted

theorem Uncounted.bind {f : Flow α} {k : α → Flow β} (hf : f.Uncounted)
    (hk : ∀ a, (k a).Uncounted) : (f.bind k).Uncounted := by
  induction f with
  | done a => exact hk a
  | access update next ih =>
    refine ⟨fun s count => ?_, fun s => ih s (hf.2 s)⟩
    obtain ⟨hupdate, hnext⟩ := hf.1 s count
    exact ⟨hupdate, congrArg (·.bind k) hnext⟩
  | notify n next ih => exact ih hf
  | ask c next ih => exact fun answer => ih answer (hf answer)

theorem uncounted_update {f : Session → Session}
    (h : ∀ s count, f (s.recount count) = (f s).recount count) : (update f).Uncounted :=
  ⟨fun s count => ⟨h s count, rfl⟩, fun _ => trivial⟩

theorem uncounted_call (c : BackendCall) : (call c).Uncounted := fun _ => trivial

theorem uncounted_look {k : Session → Flow α} (same : ∀ s count, k (s.recount count) = k s)
    (hk : ∀ s, (k s).Uncounted) : (session.bind k).Uncounted :=
  ⟨fun s count => ⟨rfl, same s count⟩, hk⟩

theorem uncounted_knownUser : knownUser.Uncounted := by
  refine uncounted_look (fun _ _ => rfl) fun s => ?_
  cases s.user with
  | some u => trivial
  | none =>
    refine Uncounted.bind ?_ fun answer => by cases answer <;> trivial
    refine (uncounted_call .currentUser).bind fun answer => ?_
    cases answer <;> exact (uncounted_update fun _ _ => rfl).bind fun _ => trivial

theorem Uncounted.run {f : Flow α} (hf : f.Uncounted)
    (answer : Option String → (c : BackendCall) → σ → c.Answer × σ) (caller : Option String)
    (s : Session) (b : σ) (count : Nat) :
    f.run (BackendHandler.ofAnswers answer caller) (s.recount count) b =
      let r := f.run (BackendHandler.ofAnswers answer caller) s b
      { r with session := r.session.recount count } := by
  induction f generalizing s b with
  | done a => rfl
  | access update next ih =>
    have ⟨hupdate, _⟩ := hf.1 s count
    have ⟨_, hnext⟩ := hf.1 (update s) count
    simp only [Flow.run, hupdate, hnext]
    exact ih _ (hf.2 _) (update s) b
  | notify n next ih => simp only [Flow.run, ih hf]
  | ask c next ih => exact ih _ (hf _) s _

end Flow

variable {settings : GuardSettings} {n : Navigation}

theorem uncounted_authCheck : (authCheck settings n).Uncounted := by
  rw [authCheck_eq]
  refine Flow.Uncounted.bind (f := Flow.post .clearMessages) trivial fun _ => ?_
  refine Flow.Uncounted.bind (by split <;> trivial) fun _ => ?_
  refine Flow.Uncounted.bind (f := Flow.post .closeSearch) trivial fun _ => ?_
  refine Flow.uncounted_knownUser.bind fun u => ?_
  cases u with
  | some u => trivial
  | none =>
    dsimp only
    split
    · trivial
    · split <;> trivial

theorem uncounted_publicFallback (id : Int64) : (publicFallback settings id).Uncounted := by
  refine (Flow.uncounted_call (.project id)).bind fun answer => ?_
  cases answer <;> trivial

theorem uncounted_check (kind : GuardKind) : (kind.check settings n).Uncounted := by
  cases kind with
  | signIn =>
    change (signInGuard settings n).Uncounted
    unfold signInGuard
    split
    · refine (Flow.uncounted_call .signOut).bind fun answer => ?_
      refine (Flow.uncounted_update fun _ _ => rfl).bind fun _ => ?_
      cases answer <;> trivial
    · exact Flow.uncounted_knownUser.bind fun u => by cases u <;> trivial
  | member =>
    refine (Flow.uncounted_update fun _ _ => rfl).bind fun _ => ?_
    cases n.projectId? with
    | none => trivial
    | some id =>
      refine Flow.uncounted_knownUser.bind fun u => ?_
      cases u with
      | none => exact uncounted_publicFallback id
      | some u =>
        refine (Flow.uncounted_call (.projectMembers id)).bind fun answer => ?_
        cases answer with
        | ok members => exact (Flow.uncounted_update fun _ _ => rfl).bind fun _ => trivial
        | error e => exact uncounted_publicFallback id
  | systemAdmin => exact Flow.uncounted_knownUser.bind fun u => by cases u <;> trivial

theorem uncounted_resolveProject : (resolveProject n).Uncounted := by
  unfold resolveProject
  split
  · trivial
  · refine (Flow.uncounted_call _).bind fun answer => ?_
    cases answer with
    | ok p => exact Flow.uncounted_look (fun _ _ => rfl) fun s => trivial
    | error e => trivial

namespace Navigator

variable {token : Option Token} {route : Route} {handle : Flow.Handler σ} {s : Session} {b : σ}

theorem forall_guards {P : Flow Decision → Prop} (first : P (authCheck settings n))
    (rest : ∀ kind : GuardKind, P (kind.check settings n)) :
    ∀ guard ∈ guards settings route n, P guard := by
  intro guard hguard
  rcases List.mem_append.1 hguard with checked | listed
  · split at checked
    · rw [List.mem_singleton.1 checked]
      exact first
    · cases checked
  · obtain ⟨kind, -, rfl⟩ := List.mem_map.1 listed
    exact rest kind

theorem uncounted_runGuards {guards : List (Flow Decision)}
    (h : ∀ guard ∈ guards, guard.Uncounted) : (runGuards none guards).Uncounted := by
  induction guards with
  | nil => trivial
  | cons guard guards ih =>
    obtain ⟨hguard, hguards⟩ := List.forall_mem_cons.1 h
    refine hguard.bind fun d => ?_
    cases d with
    | denyRedirect redirect => trivial
    | allow => exact ih hguards

theorem uncounted_visit : (visit settings none route n).Uncounted := by
  refine (uncounted_runGuards (forall_guards uncounted_authCheck uncounted_check)).bind
    fun denied => ?_
  cases denied with
  | some outcome => trivial
  | none =>
    dsimp only
    split
    · refine uncounted_resolveProject.bind fun found => ?_
      cases found <;> trivial
    · trivial

theorem uncounted_go (settings : GuardSettings) (target : String) :
    (go settings none target).Uncounted := by
  rcases go_cases settings none target with
    ⟨outcome, answer, -⟩ | ⟨n, route, params, -, -, -, visits⟩
  · rw [answer]
    trivial
  · rw [visits]
    exact uncounted_visit

theorem run_runGuards_wanted {guards : List (Flow Decision)} (alone : handle.LeavesSession)
    (h : ∀ guard ∈ guards, guard.KeepsCount) (wanted : s.isWanted token = true) :
    (runGuards token guards).run handle s b = (runGuards none guards).run handle s b := by
  induction guards generalizing s b with
  | nil => rfl
  | cons guard guards ih =>
    obtain ⟨hguard, hguards⟩ := List.forall_mem_cons.1 h
    have still : (guard.run handle s b).session.isWanted token = true :=
      (Session.isWanted_congr (hguard.run alone s b) token).trans wanted
    cases decision : (guard.run handle s b).value with
    | allow =>
      rw [run_runGuards_allow guards decision still, run_runGuards_allow guards decision rfl]
      simp only [ih hguards still]
    | denyRedirect redirect =>
      rw [run_runGuards_deny guards decision still, run_runGuards_deny guards decision rfl]

theorem keepsCount_runGuards {guards : List (Flow Decision)}
    (h : ∀ guard ∈ guards, guard.KeepsCount) : (runGuards none guards).KeepsCount := by
  induction guards with
  | nil => trivial
  | cons guard guards ih =>
    obtain ⟨hguard, hguards⟩ := List.forall_mem_cons.1 h
    refine hguard.bind fun d => ?_
    cases d with
    | denyRedirect redirect => trivial
    | allow => exact ih hguards

theorem run_settle_wanted (outcome : Outcome) (wanted : s.isWanted token = true) :
    (settle token outcome).run handle s b = (settle none outcome).run handle s b := by
  rw [run_settle, run_settle, wanted]
  rfl

theorem run_arrive_wanted (alone : handle.LeavesSession) (wanted : s.isWanted token = true) :
    (arrive token route n).run handle s b = (arrive none route n).run handle s b := by
  unfold arrive
  split
  · simp only [Flow.bind_eq, Flow.run_bind]
    have still := (Session.isWanted_congr
      ((keepsCount_resolveProject (n := n)).run alone s b) token).trans wanted
    cases ((resolveProject n).run handle s b).value with
    | resolved project => simp only [run_settle_wanted _ still]
    | fallback redirect => simp only [run_settle_wanted _ still]
  · exact run_settle_wanted _ wanted

theorem run_visit_wanted (alone : handle.LeavesSession) (wanted : s.isWanted token = true) :
    (visit settings token route n).run handle s b =
      (visit settings none route n).run handle s b := by
  have kept : ∀ guard ∈ guards settings route n, guard.KeepsCount :=
    forall_guards keepsCount_authCheck keepsCount_check
  have same := run_runGuards_wanted (b := b) alone kept wanted
  cases denied : ((runGuards none (guards settings route n)).run handle s b).value with
  | some outcome =>
    rw [run_visit_of_denied denied, run_visit_of_denied (by rw [same]; exact denied), same]
  | none =>
    have still := (Session.isWanted_congr
      ((keepsCount_runGuards kept).run alone s b) token).trans wanted
    rw [run_visit_of_allowed denied, run_visit_of_allowed (by rw [same]; exact denied), same]
    simp only [run_arrive_wanted alone still]

theorem run_go_wanted (target : String) (alone : handle.LeavesSession)
    (wanted : s.isWanted token = true) :
    (go settings token target).run handle s b = (go settings none target).run handle s b := by
  rcases go_done_or_page settings target with
    ⟨outcome, answer, -⟩ | ⟨n, route, params, parsed, found, isPage⟩
  · rw [answer, answer]
  · rw [go_of_find parsed found isPage, go_of_find parsed found isPage,
      run_visit_wanted alone wanted]

theorem run_navigate (settings : GuardSettings) (target : String)
    (answer : Option String → (c : BackendCall) → σ → c.Answer × σ) (caller : Option String)
    (s : Session) (b : σ) :
    (navigate settings target).run (BackendHandler.ofAnswers answer caller) s b =
      let r := (load settings target).run (BackendHandler.ofAnswers answer caller) s b
      { r with session := r.session.recount (s.begun + 1) } := by
  have alone := BackendHandler.leavesSession_ofAnswers answer caller
  calc (navigate settings target).run (BackendHandler.ofAnswers answer caller) s b
    _ = (go settings (some s.begin.newest) target).run _ s.begin b :=
        NavigationMode.run_flow .navigate settings target _ s b
    _ = (go settings none target).run _ (s.recount (s.begun + 1)) b :=
        run_go_wanted target alone s.newest_isWanted
    _ = _ := (uncounted_go settings target).run answer caller s b (s.begun + 1)

end Navigator

end ConsoleGateway
