import ConsoleGateway.Proofs.Interleaving

namespace ConsoleGateway

namespace Flow

def KeepsCount : Flow α → Prop
  | done _ => True
  | access update next => (∀ s, (update s).begun = s.begun) ∧ ∀ s, (next s).KeepsCount
  | notify _ next => next.KeepsCount
  | ask _ next => ∀ answer, (next answer).KeepsCount

theorem KeepsCount.bind {f : Flow α} {k : α → Flow β} (hf : f.KeepsCount)
    (hk : ∀ a, (k a).KeepsCount) : (f.bind k).KeepsCount := by
  induction f with
  | done a => exact hk a
  | access update next ih => exact ⟨hf.1, fun s => ih s (hf.2 s)⟩
  | notify n next ih => exact ih hf
  | ask c next ih => exact fun answer => ih answer (hf answer)

theorem keepsCount_session : session.KeepsCount := ⟨fun _ => rfl, fun _ => trivial⟩

theorem keepsCount_update {f : Session → Session} (h : ∀ s, (f s).begun = s.begun) :
    (update f).KeepsCount := ⟨h, fun _ => trivial⟩

theorem keepsCount_post (notice : Notice) : (post notice).KeepsCount := trivial

theorem keepsCount_call (c : BackendCall) : (call c).KeepsCount := fun _ => trivial

theorem keepsCount_knownUser : knownUser.KeepsCount := by
  refine keepsCount_session.bind fun s => ?_
  cases s.user with
  | some u => trivial
  | none =>
    refine KeepsCount.bind ?_ fun answer => by cases answer <;> trivial
    refine (keepsCount_call .currentUser).bind fun answer => ?_
    cases answer <;> exact (keepsCount_update fun _ => rfl).bind fun _ => trivial

end Flow

variable {settings : GuardSettings} {n : Navigation}

theorem keepsCount_authCheck : (authCheck settings n).KeepsCount := by
  rw [authCheck_eq]
  refine (Flow.keepsCount_post .clearMessages).bind fun _ => ?_
  refine Flow.KeepsCount.bind (by split <;> trivial) fun _ => ?_
  refine (Flow.keepsCount_post .closeSearch).bind fun _ => ?_
  refine Flow.keepsCount_knownUser.bind fun u => ?_
  cases u with
  | some u => trivial
  | none =>
    dsimp only
    split
    · trivial
    · split <;> trivial

theorem keepsCount_publicFallback (id : Int64) : (publicFallback settings id).KeepsCount := by
  refine (Flow.keepsCount_call (.project id)).bind fun answer => ?_
  cases answer <;> trivial

theorem keepsCount_check (kind : GuardKind) : (kind.check settings n).KeepsCount := by
  cases kind with
  | signIn =>
    change (signInGuard settings n).KeepsCount
    unfold signInGuard
    split
    · refine (Flow.keepsCount_call .signOut).bind fun answer => ?_
      refine (Flow.keepsCount_update fun _ => rfl).bind fun _ => ?_
      cases answer <;> trivial
    · exact Flow.keepsCount_knownUser.bind fun u => by cases u <;> trivial
  | member =>
    refine (Flow.keepsCount_update fun _ => rfl).bind fun _ => ?_
    cases n.projectId? with
    | none => trivial
    | some id =>
      refine Flow.keepsCount_knownUser.bind fun u => ?_
      cases u with
      | none => exact keepsCount_publicFallback id
      | some u =>
        refine (Flow.keepsCount_call (.projectMembers id)).bind fun answer => ?_
        cases answer with
        | ok members => exact (Flow.keepsCount_update fun _ => rfl).bind fun _ => trivial
        | error e => exact keepsCount_publicFallback id
  | systemAdmin => exact Flow.keepsCount_knownUser.bind fun u => by cases u <;> trivial

theorem keepsCount_resolveProject : (resolveProject n).KeepsCount := by
  unfold resolveProject
  split
  · trivial
  · refine (Flow.keepsCount_call _).bind fun answer => ?_
    cases answer with
    | ok p => exact Flow.keepsCount_session.bind fun s => trivial
    | error e => trivial

/-- The navigation keeps to the token it has drawn: it answers that it is superseded when it is no
longer wanted and only then, it starts a stage only while it is wanted, and it leaves no other
marks. -/
def MarkedFlow.Disciplined (token : Option Token) : MarkedFlow Outcome → Session → Prop
  | done outcome, s => outcome = .superseded ↔ s.isWanted token = false
  | access update next, s =>
    (update s).begun = s.begun ∧ (next (update s)).Disciplined token (update s)
  | notify _ next, s => next.Disciplined token s
  | ask _ next, _ => ∀ answer s', (next answer).Disciplined token s'
  | mark m next, s =>
    (∃ stage, m = .entered stage) ∧ s.isWanted token = true ∧ next.Disciplined token s

namespace Navigator

open MarkedFlow

variable {token : Option Token} {s : Session} {route : Route}

theorem disciplined_stage {f : Flow α} (hf : f.KeepsCount) {k : α → MarkedFlow Outcome}
    (hk : ∀ a s, (k a).Disciplined token s) : ((ofFlow f).bind k).Disciplined token s := by
  induction f generalizing s with
  | done a => exact hk a s
  | access update next ih => exact ⟨hf.1 s, ih _ (hf.2 _)⟩
  | notify n next ih => exact ih hf
  | ask c next ih => exact fun answer s' => ih answer (hf answer)

theorem disciplined_isCurrent {k : Bool → MarkedFlow Outcome}
    (hk : (k (s.isWanted token)).Disciplined token s) :
    ((ofFlow (isCurrent token)).bind k).Disciplined token s := by
  cases token with
  | none => exact hk
  | some token => exact ⟨rfl, hk⟩

theorem disciplined_settle {outcome : Outcome} {k : Outcome → MarkedFlow Outcome}
    (hk : (k (if s.isWanted token then outcome else .superseded)).Disciplined token s) :
    ((ofFlow (settle token outcome)).bind k).Disciplined token s := by
  cases token with
  | none => exact hk
  | some token => exact ⟨rfl, hk⟩

theorem settled_iff {outcome : Outcome} (delivered : outcome ≠ .superseded) :
    (if s.isWanted token then outcome else .superseded) = .superseded ↔
      s.isWanted token = false := by
  cases s.isWanted token <;> simp [delivered]

theorem disciplined_settled {outcome : Outcome} (delivered : outcome ≠ .superseded) :
    (ofFlow (settle token outcome)).Disciplined token s := by
  rw [← bind_done (ofFlow _)]
  exact disciplined_settle (settled_iff delivered)

theorem disciplined_guards {stages : List (Stage × Flow Decision)}
    (hstages : ∀ stage ∈ stages, stage.2.KeepsCount) {k : Option Outcome → MarkedFlow Outcome}
    (hallowed : ∀ s : Session, s.isWanted token = true → (k none).Disciplined token s)
    (hdenied : ∀ (s : Session) outcome, (outcome = .superseded ↔ s.isWanted token = false) →
      (k (some outcome)).Disciplined token s)
    (wanted : s.isWanted token = true) :
    ((markedGuards token stages).bind k).Disciplined token s := by
  induction stages generalizing s with
  | nil => exact hallowed s wanted
  | cons stage stages ih =>
    obtain ⟨stage, guard⟩ := stage
    obtain ⟨hguard, hrest⟩ := List.forall_mem_cons.1 hstages
    simp only [markedGuards, MarkedFlow.bind_eq, bind_assoc, enter]
    refine ⟨⟨stage, rfl⟩, wanted, disciplined_stage hguard fun d t => ?_⟩
    cases d with
    | denyRedirect redirect =>
      simp only [bind_assoc]
      exact disciplined_settle (hdenied t _ (settled_iff (by simp)))
    | allow =>
      simp only [bind_assoc]
      refine disciplined_isCurrent ?_
      cases still : t.isWanted token with
      | true => exact ih hrest still
      | false => exact hdenied t _ (by simp [still])

theorem disciplined_arrive {n : Navigation} (wanted : s.isWanted token = true) :
    (markedArrive token route n).Disciplined token s := by
  unfold markedArrive
  split
  · refine ⟨⟨.lookup, rfl⟩, wanted, disciplined_stage keepsCount_resolveProject fun found t => ?_⟩
    cases found <;> exact disciplined_settled (by simp)
  · exact disciplined_settled (by simp)

theorem disciplined_visit {n : Navigation} (settings : GuardSettings)
    (wanted : s.isWanted token = true) :
    (markedVisit settings token route n).Disciplined token s := by
  refine disciplined_guards ?_ (fun t still => disciplined_arrive still)
    (fun t outcome h => h) wanted
  intro stage hstage
  rcases List.mem_append.1 hstage with first | rest
  · split at first
    · rw [List.mem_singleton.1 first]
      exact keepsCount_authCheck
    · cases first
  · obtain ⟨kind, -, rfl⟩ := List.mem_map.1 rest
    exact keepsCount_check kind

theorem disciplined_go (settings : GuardSettings) (target : String)
    (wanted : s.isWanted token = true) : (markedGo settings token target).Disciplined token s := by
  unfold markedGo
  split
  · simp [Disciplined, wanted]
  · split
    · simp [Disciplined, wanted]
    · split
      · simp [Disciplined, wanted]
      · split
        · simp [Disciplined, wanted]
        · exact disciplined_visit settings wanted

end Navigator

end ConsoleGateway
