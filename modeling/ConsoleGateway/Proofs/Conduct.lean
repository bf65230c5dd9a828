import Mathlib.Control.Monad.Basic
import ConsoleGateway.Proofs.Run

namespace ConsoleGateway

instance (c : BackendCall) : DecidableEq c.Answer :=
  match c with
  | .currentUser => inferInstanceAs (DecidableEq (Except GuardError CurrentUser))
  | .signOut => inferInstanceAs (DecidableEq (Except GuardError Unit))
  | .project _ => inferInstanceAs (DecidableEq (Except GuardError Project))
  | .projectMembers _ => inferInstanceAs (DecidableEq (Except GuardError (List ProjectMember)))

structure Sources where
  user : CurrentUser → Prop
  list : List ProjectMember → Prop

namespace Sources

def nothing : Sources := ⟨fun _ => False, fun _ => False⟩

def answer : (c : BackendCall) → c.Answer → Sources
  | .currentUser, a => ⟨fun u => a = .ok u, fun _ => False⟩
  | .projectMembers _, a => ⟨fun _ => False, fun members => a = .ok members⟩
  | _, _ => nothing

def Covers (src : Sources) (s : Session) : Prop :=
  (∀ u, s.user = some u → src.user u) ∧ (s.projectMembers ≠ [] → src.list s.projectMembers)

def Allows (src : Sources) (s t : Session) : Prop :=
  (t.user = s.user ∨ ∀ u, t.user = some u → src.user u) ∧
    (t.projectMembers = s.projectMembers ∨ (t.projectMembers ≠ [] → src.list t.projectMembers))

structure Within (src src' : Sources) : Prop where
  user : ∀ u, src.user u → src'.user u
  list : ∀ members, src.list members → src'.list members

variable {src src' : Sources} {s t u : Session}

theorem Within.refl (src : Sources) : src.Within src := ⟨fun _ h => h, fun _ h => h⟩

theorem nothing_within (src : Sources) : nothing.Within src := ⟨nofun, nofun⟩

theorem covers_empty (src : Sources) : src.Covers {} := ⟨nofun, fun h => absurd rfl h⟩

theorem covers_clear (src : Sources) (s : Session) : src.Covers s.clear :=
  ⟨nofun, fun h => absurd rfl h⟩

theorem Covers.mono (covers : src.Covers s) (within : src.Within src') : src'.Covers s :=
  ⟨fun u hu => within.user u (covers.1 u hu), fun listed => within.list _ (covers.2 listed)⟩

theorem Covers.write (covers : src.Covers s) (allows : src.Allows s t) : src.Covers t := by
  refine ⟨?_, ?_⟩
  · rcases allows.1 with same | written
    · rw [same]
      exact covers.1
    · exact written
  · rcases allows.2 with same | written
    · rw [same]
      exact covers.2
    · exact written

theorem Allows.refl (src : Sources) (s : Session) : src.Allows s s := ⟨.inl rfl, .inl rfl⟩

theorem Allows.mono (allows : src.Allows s t) (within : src.Within src') : src'.Allows s t :=
  ⟨allows.1.imp_right fun written u hu => within.user u (written u hu),
    allows.2.imp_right fun written listed => within.list _ (written listed)⟩

theorem Allows.trans (first : src.Allows s t) (second : src.Allows t u) : src.Allows s u := by
  refine ⟨?_, ?_⟩
  · rcases second.1 with same | written
    · rw [same]
      exact first.1
    · exact .inr written
  · rcases second.2 with same | written
    · rw [same]
      exact first.2
    · exact .inr written

end Sources

namespace Flow

variable {may may' : BackendCall → Prop} {src src' : Sources} {handle : Handler σ}

/-- The flow puts no other calls. What it writes down is among the sources until its next call, and
in the answer to that call from then on. -/
def Bounded (may : BackendCall → Prop) (src : Sources) : Flow α → Prop
  | done _ => True
  | access update next =>
    ∀ s, src.Allows s (update s) ∧ (next (update s)).Bounded may src
  | notify _ next => next.Bounded may src
  | ask c next => may c ∧ ∀ answer, (next answer).Bounded may (.answer c answer)

def asked (handle : Handler σ) : Flow α → Session → σ → List BackendCall
  | done _, _, _ => []
  | access f next, s, b => (next (f s)).asked handle (f s) b
  | notify _ next, s, b => next.asked handle s b
  | ask c next, s, b =>
    let (answer, s, b) := handle c s b
    c :: (next answer).asked handle s b

theorem asked_bind (f : Flow α) (k : α → Flow β) (s : Session) (b : σ) :
    (f.bind k).asked handle s b =
      let r := f.run handle s b
      f.asked handle s b ++ (k r.value).asked handle r.session r.backend := by
  induction f generalizing s b with
  | done a => rfl
  | access update next ih => exact ih _ _ _
  | notify n next ih => exact ih _ _
  | ask c next ih =>
    simp only [bind, asked, run, ih, List.cons_append]

namespace Bounded

theorem mono {f : Flow α} (hf : f.Bounded may src) (calls : ∀ c, may c → may' c)
    (within : src.Within src') : f.Bounded may' src' := by
  induction f generalizing src src' with
  | done a => trivial
  | access update next ih => exact fun s => ⟨(hf s).1.mono within, ih _ (hf s).2 within⟩
  | notify n next ih => exact ih hf within
  | ask c next ih => exact ⟨calls c hf.1, fun answer => ih answer (hf.2 answer) (.refl _)⟩

theorem widen {f : Flow α} (hf : f.Bounded may src) (within : src.Within src') :
    f.Bounded may src' := hf.mono (fun _ h => h) within

theorem of_nothing {f : Flow α} (hf : f.Bounded may .nothing) : f.Bounded may src :=
  hf.widen src.nothing_within

theorem bind {f : Flow α} {k : α → Flow β} (hf : f.Bounded may src)
    (hk : ∀ a, (k a).Bounded may .nothing) : (f.bind k).Bounded may src := by
  induction f generalizing src with
  | done a => exact (hk a).of_nothing
  | access update next ih => exact fun s => ⟨(hf s).1, ih _ (hf s).2⟩
  | notify n next ih => exact ih hf
  | ask c next ih => exact ⟨hf.1, fun answer => ih answer (hf.2 answer)⟩

theorem asked {f : Flow α} (hf : f.Bounded may src) (s : Session) (b : σ) :
    ∀ c ∈ f.asked handle s b, may c := by
  induction f generalizing src s b with
  | done a => simp [Flow.asked]
  | access update next ih => exact ih _ (hf s).2 _ _
  | notify n next ih => exact ih hf s b
  | ask c next ih => exact List.forall_mem_cons.2 ⟨hf.1, ih _ (hf.2 _) _ _⟩

end Bounded

theorem bounded_session : session.Bounded may src := fun s => ⟨.refl src s, trivial⟩

theorem bounded_post (notice : Notice) : (post notice).Bounded may src := trivial

theorem bounded_call {c : BackendCall} {k : c.Answer → Flow β} (h : may c)
    (hk : ∀ answer, (k answer).Bounded may (.answer c answer)) :
    ((call c).bind k).Bounded may src := ⟨h, hk⟩

theorem bounded_setUser {user : Option CurrentUser} (named : ∀ u, user = some u → src.user u) :
    (update fun s => { s with user }).Bounded may src :=
  fun _ => ⟨⟨.inr named, .inl rfl⟩, trivial⟩

theorem bounded_setMembers {members : List ProjectMember}
    (listed : members ≠ [] → src.list members) :
    (update fun s => { s with projectMembers := members }).Bounded may src :=
  fun _ => ⟨⟨.inl rfl, .inr listed⟩, trivial⟩

theorem bounded_retrieveUser (h : may .currentUser) : retrieveUser.Bounded may src := by
  refine bounded_call h fun answer => ?_
  cases answer with
  | ok u =>
    refine (bounded_setUser fun v named => ?_).bind fun _ => trivial
    exact congrArg Except.ok (Option.some.inj named)
  | error e => exact (bounded_setUser (by simp)).bind fun _ => trivial

theorem bounded_knownUser (h : may .currentUser) : knownUser.Bounded may src := by
  refine bounded_session.bind fun s => ?_
  cases s.user with
  | some u => trivial
  | none => exact (bounded_retrieveUser h).bind fun answer => by cases answer <;> trivial

end Flow

variable {may : BackendCall → Prop} {src : Sources} {settings : GuardSettings} {n : Navigation}

theorem bounded_authCheck (h : may .currentUser) : (authCheck settings n).Bounded may src := by
  rw [authCheck_eq]
  refine (Flow.bounded_post .clearMessages).bind fun _ => ?_
  refine Flow.Bounded.bind (by split <;> trivial) fun _ => ?_
  refine (Flow.bounded_post .closeSearch).bind fun _ => ?_
  refine (Flow.bounded_knownUser h).bind fun u => ?_
  cases u with
  | some u => trivial
  | none =>
    dsimp only
    split
    · trivial
    · split <;> trivial

theorem bounded_signOut (h : may .signOut) : signOut.Bounded may src := by
  refine Flow.bounded_call h fun answer s => ⟨?_, by cases answer <;> trivial⟩
  exact ⟨.inr nofun, .inr fun listed => absurd rfl listed⟩

theorem bounded_publicFallback {id : Int64} (h : may (.project id)) :
    (publicFallback settings id).Bounded may src := by
  refine Flow.bounded_call h fun answer => ?_
  cases answer <;> trivial

theorem bounded_checkMemberStatus {id : Int64} (members : may (.projectMembers id))
    (project : may (.project id)) : (checkMemberStatus settings id).Bounded may src := by
  refine Flow.bounded_call members fun answer => ?_
  cases answer with
  | ok members => exact (Flow.bounded_setMembers fun _ => rfl).bind fun _ => trivial
  | error e => exact bounded_publicFallback project

namespace GuardKind

def MayCall (n : Navigation) : GuardKind → BackendCall → Prop
  | _, .currentUser => True
  | signIn, .signOut => n.isSigningOut = true
  | member, .project id => n.projectId? = some id
  | member, .projectMembers id => n.projectId? = some id
  | _, _ => False

theorem bounded_check (kind : GuardKind) :
    (kind.check settings n).Bounded (kind.MayCall n) src := by
  cases kind with
  | signIn =>
    change (signInGuard settings n).Bounded _ _
    unfold signInGuard
    split
    · rename_i signingOut
      exact bounded_signOut signingOut
    · exact (Flow.bounded_knownUser trivial).bind fun u => by cases u <;> trivial
  | member =>
    refine Flow.Bounded.bind (Flow.bounded_setMembers (by simp)) fun _ => ?_
    cases named : n.projectId? with
    | none => trivial
    | some id =>
      refine (Flow.bounded_knownUser trivial).bind fun u => ?_
      cases u with
      | none => exact bounded_publicFallback named
      | some u => exact bounded_checkMemberStatus named named
  | systemAdmin => exact (Flow.bounded_knownUser trivial).bind fun u => by cases u <;> trivial

end GuardKind

def Navigation.resolvedId? (n : Navigation) : Option Int64 :=
  (n.param "id").or (n.queryParam projectIdParam) |>.bind Integer.int64?

theorem bounded_resolveProject (h : ∀ id, n.resolvedId? = some id → may (.project id)) :
    (resolveProject n).Bounded may src := by
  unfold resolveProject
  split
  · trivial
  · rename_i id named
    refine Flow.bounded_call (h id named) fun answer => ?_
    cases answer with
    | ok p => exact Flow.bounded_session.bind fun s => trivial
    | error e => trivial

inductive Route.MayCall (route : Route) (n : Navigation) : BackendCall → Prop where
  | identify : route.authCheck = true → MayCall route n .currentUser
  | guard {kind : GuardKind} {c : BackendCall} :
    kind ∈ route.guards → kind.MayCall n c → MayCall route n c
  | lookup {id : Int64} :
    route.resolveProject = true → n.resolvedId? = some id → MayCall route n (.project id)

namespace Navigator

variable {token : Option Token} {route : Route} {target : String}

theorem bounded_isCurrent (token : Option Token) : (isCurrent token).Bounded may src := by
  cases token with
  | none => trivial
  | some token => exact Flow.bounded_session.bind fun s => trivial

theorem bounded_settle (outcome : Outcome) : (settle token outcome).Bounded may src :=
  (bounded_isCurrent token).bind fun _ => trivial

theorem bounded_runGuards {guards : List (Flow Decision)}
    (h : ∀ guard ∈ guards, guard.Bounded may .nothing) :
    (runGuards token guards).Bounded may src := by
  induction guards generalizing src with
  | nil => trivial
  | cons guard guards ih =>
    obtain ⟨hguard, hguards⟩ := List.forall_mem_cons.1 h
    refine hguard.of_nothing.bind fun d => ?_
    cases d with
    | denyRedirect redirect => exact (bounded_settle _).bind fun _ => trivial
    | allow =>
      refine (bounded_isCurrent token).bind fun wanted => ?_
      cases wanted with
      | false => trivial
      | true => exact ih hguards

theorem bounded_guards (settings : GuardSettings) (route : Route) (n : Navigation) :
    ∀ guard ∈ guards settings route n, guard.Bounded (route.MayCall n) src := by
  intro guard hguard
  rcases List.mem_append.1 hguard with first | rest
  · split at first
    · rename_i checked
      rw [List.mem_singleton.1 first]
      exact bounded_authCheck (.identify checked)
    · cases first
  · obtain ⟨kind, hkind, rfl⟩ := List.mem_map.1 rest
    exact kind.bounded_check.mono (fun c => .guard hkind) (.refl _)

theorem bounded_arrive : (arrive token route n).Bounded (route.MayCall n) src := by
  unfold arrive
  split
  · rename_i resolves
    refine (bounded_resolveProject fun id => .lookup resolves).bind fun found => ?_
    cases found <;> exact bounded_settle _
  · exact bounded_settle _

theorem bounded_visit : (visit settings token route n).Bounded (route.MayCall n) src := by
  refine (bounded_runGuards (bounded_guards settings route n)).bind fun denied => ?_
  cases denied with
  | some outcome => trivial
  | none => exact bounded_arrive

theorem bounded_go (h : ∀ n route params, Navigation.parse target = .ok n →
    Route.find? n.path = some (route, params) → ∀ c, route.MayCall { n with params } c → may c) :
    (go settings token target).Bounded may src := by
  rcases go_cases settings token target with
    ⟨outcome, hgo, -⟩ | ⟨n, route, params, parsed, found, -, hgo⟩
  · rw [hgo]
    trivial
  · rw [hgo]
    exact bounded_visit.mono (h n route params parsed found) (.refl _)

theorem bounded_flow (mode : NavigationMode) (h : ∀ n route params,
    Navigation.parse target = .ok n → Route.find? n.path = some (route, params) →
      ∀ c, route.MayCall { n with params } c → may c) :
    (mode.flow settings target).Bounded may src := by
  cases mode with
  | load => exact bounded_go h
  | navigate => exact fun s => ⟨⟨.inl rfl, .inl rfl⟩, bounded_go h⟩

end Navigator

end ConsoleGateway
