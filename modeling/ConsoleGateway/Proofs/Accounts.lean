import ConsoleGateway.Proofs.Journal

namespace ConsoleGateway

open Journal

namespace MarkedFlow

variable {lists : Int64 → Option (List ProjectMember)} {request : NavigationRequest}
  {journal : List Entry} {s : Session} {settings : GuardSettings} {n : Navigation}

theorem accounts_session : (ofFlow Flow.session).Accounts lists request :=
  fun _ _ justified => ⟨justified.look rfl rfl, justified.look rfl rfl⟩

theorem accounts_post (notice : Notice) : (ofFlow (Flow.post notice)).Accounts lists request :=
  fun _ _ justified => justified

theorem accounts_call (c : BackendCall) (other : c ≠ .currentUser) :
    (ofFlow (Flow.call c)).Accounts lists request :=
  fun _ _ justified answer _ => justified.hear other answer

theorem accounts_clear : (ofFlow (Flow.update Session.clear)).Accounts lists request :=
  fun _ _ _ => ⟨.clear lists _ _, .clear lists _ _⟩

theorem accounted_knownUser (justified : Justifies lists journal s) :
    (ofFlow Flow.knownUser).Accounted lists request (fun journal' s' u =>
      Justifies lists journal' s' ∧ s'.user = u ∧ guarded? journal' = guarded? journal)
      journal s := by
  have looked := justified.look (t := s) rfl rfl
  refine ⟨looked, ?_⟩
  cases known : s.user with
  | some u => simpa [ofFlow, Flow.knownUser, known, Accounted] using looked
  | none =>
    simp only [id_eq, Flow.bind, known]
    refine fun answer _ => ?_
    cases answer with
    | ok u =>
      have remembered := looked.remember known u
      exact ⟨remembered, remembered, rfl, by simp only [guarded?_left, guarded?_answered]⟩
    | error e =>
      have still := (looked.ask known (.error e)).look (t := { s with user := none }) known.symm rfl
      exact ⟨still, still, rfl, by simp only [guarded?_left, guarded?_answered]⟩

theorem accounts_knownUser : (ofFlow Flow.knownUser).Accounts lists request :=
  fun _ _ justified => (accounted_knownUser justified).mono fun _ _ _ h => h.1

theorem accounts_authCheck : (ofFlow (authCheck settings n)).Accounts lists request := by
  simp only [authCheck_eq, ofFlow_bind]
  refine (accounts_post .clearMessages).bind fun _ => ?_
  refine Accounts.bind (by split <;> exact fun _ _ justified => justified) fun _ => ?_
  refine (accounts_post .closeSearch).bind fun _ => ?_
  simp only [admitCaller, Flow.bind_eq, ofFlow_bind]
  refine accounts_knownUser.bind fun u => ?_
  cases u with
  | some u => exact accounts_done _
  | none =>
    dsimp only
    split
    · exact accounts_done _
    · split <;> exact accounts_done _

theorem accounts_publicFallback (id : Int64) :
    (ofFlow (publicFallback settings id)).Accounts lists request := by
  simp only [publicFallback, Flow.bind_eq, ofFlow_bind]
  refine (accounts_call (.project id) (by simp)).bind fun answer => ?_
  cases answer <;> exact accounts_done _

theorem accounts_signInGuard : (ofFlow (signInGuard settings n)).Accounts lists request := by
  unfold signInGuard
  split
  · simp only [signOut, Flow.bind_eq, ofFlow_bind]
    refine (accounts_call .signOut (by simp)).bind fun answer => accounts_clear.bind fun _ => ?_
    cases answer <;> exact accounts_done _
  · simp only [Flow.bind_eq, ofFlow_bind]
    refine accounts_knownUser.bind fun u => ?_
    cases u <;> exact accounts_done _

theorem accounts_systemAdminGuard :
    (ofFlow (systemAdminGuard settings n)).Accounts lists request := by
  simp only [systemAdminGuard, Flow.bind_eq, ofFlow_bind]
  refine accounts_knownUser.bind fun u => ?_
  cases u <;> exact accounts_done _

theorem accounted_checkMemberStatus {id : Int64} (justified : Justifies lists journal s)
    (known : s.user.isSome) (guarded : guarded? journal = some request)
    (own : request.projectId? = some id) :
    (ofFlow (checkMemberStatus settings id)).Accounted lists request
      (fun journal s _ => Justifies lists journal s) journal s := by
  refine fun answer honest => ?_
  have heard := justified.hear (c := .projectMembers id) (by simp) answer
  cases answer with
  | error e => exact accounts_publicFallback id _ _ heard
  | ok members =>
    have told := heard.tell known (by rw [guarded?_answered, guarded]) own honest
    exact ⟨told, told⟩

theorem accounts_memberGuard (own : n.projectId? = request.projectId?) :
    (enter (.guard .member) (memberGuard settings n)).Accounts lists request := by
  intro journal s justified
  have started := justified.forget request
  have reset : (mark .memberGuard (ofFlow (Flow.update fun s =>
      { s with projectMembers := [] }))).Accounted lists request (fun journal s _ =>
        Justifies lists journal s ∧ guarded? journal = some request) journal s :=
    ⟨started, started, by simp only [Mark.entries, if_true, guarded?_left, guarded?_guarded]⟩
  simp only [enter, memberGuard, Flow.bind_eq, ofFlow_bind]
  refine reset.bind fun journal s _ forgotten => ?_
  obtain ⟨justified, guarded⟩ := forgotten
  cases named : n.projectId? with
  | none => exact justified
  | some id =>
    simp only [ofFlow_bind]
    refine (accounted_knownUser justified).bind fun journal s u asked => ?_
    obtain ⟨justified, known, same⟩ := asked
    cases u with
    | none => exact accounts_publicFallback id _ _ justified
    | some u =>
      exact accounted_checkMemberStatus justified (by rw [known]; rfl) (same.trans guarded)
        (own.symm.trans named)

theorem accounts_enter (stage : Stage) {f : Flow α} (other : stage ≠ .guard .member)
    (hf : (ofFlow f).Accounts lists request) : (enter stage f).Accounts lists request := by
  intro journal s justified
  have silent : Mark.entries request (.entered stage) = [] := by
    simp [Mark.entries, Mark.memberGuard, other]
  simp only [enter, Accounted, silent, List.append_nil]
  exact hf journal s justified

end MarkedFlow

namespace Navigator

open MarkedFlow

variable {lists : Int64 → Option (List ProjectMember)} {request : NavigationRequest}
  {token : Option Token} {settings : GuardSettings} {route : Route} {n : Navigation}

theorem accounts_stagedGuards (own : n.projectId? = request.projectId?) :
    ∀ stage ∈ stagedGuards settings route n, (enter stage.1 stage.2).Accounts lists request := by
  intro stage hstage
  rcases List.mem_append.1 hstage with first | rest
  · split at first
    · rw [List.mem_singleton.1 first]
      exact accounts_enter .authCheck nofun accounts_authCheck
    · cases first
  · obtain ⟨kind, -, rfl⟩ := List.mem_map.1 rest
    cases kind with
    | signIn => exact accounts_enter (.guard .signIn) nofun accounts_signInGuard
    | member => exact accounts_memberGuard own
    | systemAdmin => exact accounts_enter (.guard .systemAdmin) nofun accounts_systemAdminGuard

theorem accounts_isCurrent : (ofFlow (isCurrent token)).Accounts lists request := by
  cases token with
  | none => exact accounts_done true
  | some token => exact fun _ _ justified => ⟨justified.look rfl rfl, justified.look rfl rfl⟩

theorem accounts_settle (outcome : Outcome) :
    (ofFlow (settle token outcome)).Accounts lists request := by
  simp only [settle, Flow.bind_eq, ofFlow_bind]
  exact accounts_isCurrent.bind fun wanted => accounts_done _

theorem accounts_markedGuards {stages : List (Stage × Flow Decision)}
    (h : ∀ stage ∈ stages, (enter stage.1 stage.2).Accounts lists request) :
    (markedGuards token stages).Accounts lists request := by
  induction stages with
  | nil => exact accounts_done none
  | cons stage stages ih =>
    obtain ⟨hstage, hstages⟩ := List.forall_mem_cons.1 h
    refine hstage.bind fun d => ?_
    cases d with
    | denyRedirect redirect => exact (accounts_settle _).bind fun outcome => accounts_done _
    | allow =>
      refine accounts_isCurrent.bind fun wanted => ?_
      cases wanted with
      | false => exact accounts_done _
      | true => exact ih hstages

theorem accounts_resolveProject : (ofFlow (resolveProject n)).Accounts lists request := by
  unfold resolveProject
  split
  · exact accounts_done _
  · rename_i id _
    simp only [Flow.bind_eq, ofFlow_bind]
    refine (accounts_call (.project id) (by simp)).bind fun answer => ?_
    cases answer with
    | ok p =>
      simp only [ofFlow_bind]
      exact accounts_session.bind fun s => accounts_done _
    | error e => exact accounts_done _

theorem accounts_markedArrive : (markedArrive token route n).Accounts lists request := by
  unfold markedArrive
  split
  · refine (accounts_enter .lookup nofun accounts_resolveProject).bind fun found => ?_
    cases found <;> exact accounts_settle _
  · exact accounts_settle _

theorem accounts_markedVisit (own : n.projectId? = request.projectId?) :
    (markedVisit settings token route n).Accounts lists request := by
  refine (accounts_markedGuards (accounts_stagedGuards own)).bind fun denied => ?_
  cases denied with
  | some outcome => exact accounts_done outcome
  | none => exact accounts_markedArrive

theorem accounts_markedGo (request : NavigationRequest) (token : Option Token) :
    (markedGo request.settings token request.target).Accounts lists request := by
  unfold markedGo
  split
  · exact accounts_done _
  · rename_i n parsed
    split
    · exact accounts_done _
    · split
      · exact accounts_done _
      · rename_i route params found
        split
        · exact accounts_done _
        · refine accounts_markedVisit ?_
          simp [NavigationRequest.projectId?, parsed, found]

end Navigator

theorem NavigationRequest.accounts_flow {lists : Int64 → Option (List ProjectMember)}
    (request : NavigationRequest) : request.flow.Accounts lists request := by
  unfold flow
  split
  · intro journal s justified
    have begun := justified.look (t := s.begin) rfl rfl
    refine ⟨begun, ?_⟩
    have silent : Mark.entries request (.began s.begin.newest) = [] := rfl
    simp only [MarkedFlow.Accounted, silent, List.append_nil]
    exact Navigator.accounts_markedGo request _ _ _ begun
  · exact Navigator.accounts_markedGo request none

end ConsoleGateway
