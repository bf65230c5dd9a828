import ConsoleGateway.Proofs.Alone
import ConsoleGateway.Proofs.Conduct
import ConsoleGateway.Proofs.Discipline
import ConsoleGateway.Proofs.Pages
import ConsoleGateway.Proofs.Registry
import ConsoleGateway.Proofs.Terms

namespace ConsoleGateway

namespace Route

def signInPage : Route := page "sign-in" (underHarbor [.literal "sign-in"]) [.signIn]

theorem table_signIn : ∀ route ∈ table, .signIn ∈ route.guards → route = signInPage := by
  decide

variable {path : String}

theorem trimSlashes_of_signIn {params : List (String × String)}
    (found : find? path = some (signInPage, params)) :
    trimSlashes path.toList = signInPath.toList := by
  obtain ⟨-, segments, hsegments, hparams⟩ := find?_eq_some found
  obtain ⟨below, rfl, hbelow⟩ := params?_literal hparams
  obtain ⟨rest, rfl, hrest⟩ := params?_literal hbelow
  cases rest with
  | cons segment rest => simp [params?] at hrest
  | nil =>
    rcases Form.splitOn_eq_cons (segments?_eq_some hsegments) with ⟨-, h⟩ | ⟨cs, hroot, hcs⟩
    · cases h
    rcases Form.splitOn_eq_cons hcs with ⟨-, h⟩ | ⟨cs', rfl, hcs'⟩
    · cases h
    rcases Form.splitOn_eq_cons hcs' with ⟨rfl, -⟩ | ⟨_, -, h⟩
    · simpa [signInPath] using hroot
    · exact absurd h (Form.splitOn_ne_nil _ _)

theorem find?_signIn (h : trimSlashes path.toList = signInPath.toList) :
    find? path = some (signInPage, []) := by
  simp only [find?, segments?, h]
  decide

end Route

theorem isOpenUrl_signInPage {target : String} {n : Navigation}
    (parsed : Navigation.parse target = .ok n)
    (spelled : Route.trimSlashes n.path.toList = signInPath.toList) : isOpenUrl n.url = true := by
  have start : signInPath.toList <+: n.url.toList :=
    spelled ▸ (Route.trimSlashes_prefix_self _).trans (Navigation.path_prefix_url parsed)
  simp [isOpenUrl, List.isPrefixOf_iff_prefix.2 start]

theorem endsSession_eq_true {target : String} :
    endsSession target = true ↔ ∃ n, Navigation.parse target = .ok n ∧ n.isSigningOut = true ∧
      n.path = signInPath := by
  unfold endsSession
  cases parsed : Navigation.parse target with
  | error e => simp
  | ok n => simp [and_comm]

namespace Flow

variable {handle : Handler σ}

/-- Nobody else is at the session while a call waits. -/
def Handler.LeavesSession (handle : Handler σ) : Prop := ∀ c s b, (handle c s b).2.1 = s

theorem KeepsCount.run {f : Flow α} (hf : f.KeepsCount) (alone : handle.LeavesSession)
    (s : Session) (b : σ) : (f.run handle s b).session.begun = s.begun := by
  induction f generalizing s b with
  | done a => rfl
  | access update next ih => exact (ih _ (hf.2 _) _ b).trans (hf.1 s)
  | notify n next ih => exact ih hf s b
  | ask c next ih =>
    refine (ih _ (hf _) _ _).trans ?_
    rw [alone]

theorem keepsCount_signOut : signOut.KeepsCount := by
  refine (keepsCount_call .signOut).bind fun answer => ?_
  refine (keepsCount_update fun _ => rfl).bind fun _ => ?_
  cases answer <;> trivial

theorem run_signOut (s : Session) (b : σ) :
    let answered := handle .signOut s b
    signOut.run handle s b =
      ⟨match answered.1 with
        | .ok _ => .allow
        | .error _ => .denyRedirect (.ofPath signInPath),
        [], answered.2.1.clear, answered.2.2⟩ := by
  rcases h : handle .signOut s b with ⟨answer, s', b'⟩
  cases answer <;> simp [signOut, h]

end Flow

theorem authCheck_of_open {n : Navigation} (settings : GuardSettings)
    (isOpen : isOpenUrl n.url = true) (handle : Flow.Handler σ) (s : Session) (b : σ) :
    ((authCheck settings n).run handle s b).value = .allow := by
  have always : (authCheck settings n).Always .any (· = .allow) := by
    rw [authCheck_eq]
    refine (Flow.always_any _).bind fun _ _ => (Flow.always_any _).bind fun _ _ => ?_
    refine (Flow.always_any _).bind fun _ _ => (Flow.always_any Flow.knownUser).bind fun u _ => ?_
    cases u with
    | some u => rfl
    | none => cases isGuestPath n.url <;> simp [isOpen, Flow.Always]
  exact (always.run (Terms.any_hold handle) trivial trivial).1

namespace Navigator

variable {settings : GuardSettings} {token : Option Token} {target : String}
  {handle : Flow.Handler σ} {s : Session} {b : σ} {n : Navigation}

theorem run_runGuards_last {guard : Flow Decision}
    (wanted : (guard.run handle s b).session.isWanted token = true) :
    (runGuards token [guard]).run handle s b =
      { guard.run handle s b with value := (guard.run handle s b).value.denial } := by
  cases decision : (guard.run handle s b).value with
  | allow =>
    rw [run_runGuards_allow [] decision wanted]
    simp [runGuards, Decision.denial]
  | denyRedirect redirect =>
    rw [run_runGuards_deny [] decision wanted]
    rfl

theorem visit_signingOut (alone : handle.LeavesSession) (wanted : s.isWanted token = true)
    (isOpen : isOpenUrl n.url = true) (signingOut : n.isSigningOut = true) :
    .signOut ∈ (visit settings token .signInPage n).asked handle s b ∧
      let left := ((visit settings token .signInPage n).run handle s b).session
      left.user = none ∧ left.projectMembers = [] := by
  have chain : guards settings .signInPage n = [authCheck settings n, signOut] := by
    simp [guards, Route.signInPage, Route.page, GuardKind.check, signInGuard, signingOut]
  let first := (authCheck settings n).run handle s b
  let second := signOut.run handle first.session first.backend
  have allowed : first.value = .allow := authCheck_of_open settings isOpen handle s b
  have still : first.session.isWanted token = true :=
    (Session.isWanted_congr (keepsCount_authCheck.run alone s b) token).trans wanted
  have kept : second.session.begun = first.session.begun :=
    Flow.KeepsCount.run Flow.keepsCount_signOut alone first.session first.backend
  have stillThen : second.session.isWanted token = true :=
    (Session.isWanted_congr kept token).trans still
  have cleared : second.session.user = none ∧ second.session.projectMembers = [] := by
    simp only [second, Flow.run_signOut]
    exact ⟨rfl, rfl⟩
  constructor
  · have ends : .signOut ∈ signOut.asked handle first.session first.backend := List.mem_cons_self
    simp only [visit, chain, runGuards, Flow.bind_eq, Flow.asked_bind, run_isCurrent, allowed,
      still, if_true, first]
    simp only [List.mem_append]
    exact .inl (.inr (.inr (.inl ends)))
  · have passed : (runGuards token [authCheck settings n, signOut]).run handle s b =
        ⟨second.value.denial, first.notices ++ second.notices, second.session, second.backend⟩ := by
      rw [run_runGuards_allow [signOut] allowed still]
      exact congrArg (fun r => (⟨r.value, first.notices ++ r.notices, r.session, r.backend⟩ :
        Flow.Result (Option Outcome) σ)) (run_runGuards_last stillThen)
    cases decision : second.value with
    | allow =>
      rw [← chain, decision] at passed
      rw [run_visit_of_allowed (by rw [passed]; rfl), passed]
      simpa [arrive, Route.signInPage, Route.page, run_settle] using cleared
    | denyRedirect redirect =>
      rw [← chain, decision] at passed
      rw [run_visit_of_denied (by rw [passed]; rfl), passed]
      exact cleared

theorem asked_flow (mode : NavigationMode) (s : Session) :
    (mode.flow settings target).asked handle s b =
      (go settings (mode.token s) target).asked handle (mode.enter s) b := by
  cases mode <;> rfl

/-- The sign-in page asked to end the session, in any spelling that leads there. -/
def SignsOut (target : String) : Prop :=
  ∃ n, Navigation.parse target = .ok n ∧ n.isSigningOut = true ∧
    Route.trimSlashes n.path.toList = signInPath.toList

theorem run_signsOut (mode : NavigationMode) (alone : handle.LeavesSession)
    (signsOut : SignsOut target) (s : Session) (b : σ) :
    .signOut ∈ (mode.flow settings target).asked handle s b ∧
      let left := ((mode.flow settings target).run handle s b).session
      left.user = none ∧ left.projectMembers = [] := by
  obtain ⟨n, parsed, signingOut, spelled⟩ := signsOut
  have found := Route.find?_signIn spelled
  have isOpen := isOpenUrl_signInPage parsed spelled
  rw [asked_flow, go_of_find parsed found rfl, run_of_find mode parsed found rfl]
  exact visit_signingOut alone (mode.isWanted_enter s) isOpen signingOut

theorem signOut_mem_asked (mode : NavigationMode) (alone : handle.LeavesSession) (s : Session)
    (b : σ) : .signOut ∈ (mode.flow settings target).asked handle s b ↔ SignsOut target := by
  refine ⟨fun asked => ?_, fun signsOut => (run_signsOut mode alone signsOut s b).1⟩
  have honest : (mode.flow settings target).Bounded
      (fun c => c = .signOut → SignsOut target) .nothing := by
    refine bounded_flow mode fun n route params parsed found c may isSignOut => ?_
    subst isSignOut
    cases may with
    | guard hkind hcall =>
      rename_i kind
      cases kind with
      | signIn =>
        obtain rfl := Route.table_signIn route (Route.find?_eq_some found).1 hkind
        exact ⟨n, parsed, hcall, Route.trimSlashes_of_signIn found⟩
      | member => exact hcall.elim
      | systemAdmin => exact hcall.elim
  exact honest.asked s b _ asked rfl

end Navigator

namespace GatewayState

variable (config : Config) (handle : BackendHandler σ) (now : Int) (cookie : String)
  (mode : NavigationMode) (target : String) (state : GatewayState σ)

def onFound (f : Flow.Handler σ → Session → σ → α) (caller : Option String) : α :=
  let (id, state) := state.contextFor now caller
  f (handle ((state.registry.context? id).bind (·.cookie))) (state.registry.session id)
    state.backend

/-- The calls that are put while a request is answered. -/
def asked : List BackendCall :=
  state.onFound handle now (fun handle => (mode.flow (.ofConfig config) target).asked handle)
    (some cookie)

def left : Session :=
  (state.onFound handle now (fun handle => (mode.flow (.ofConfig config) target).run handle)
    (some cookie)).session

theorem registry_navigate :
    (state.navigate config handle now (some cookie) mode target).2.registry =
      let found := state.registry.contextFor now (some cookie)
      let registry := found.2.setSession found.1
        (state.left config handle now cookie mode target)
      if endsSession target then (registry.invalidate cookie).2 else registry := by
  cases ends : endsSession target <;>
    simp [navigate, ends, contextFor, runOn, left, onFound, forget]

variable {cookie}

theorem find?_navigate (named : cookie ≠ "") :
    (state.navigate config handle now (some cookie) mode target).2.registry.find? cookie =
      if endsSession target then none
      else some (state.registry.contextFor now (some cookie)).1 := by
  rw [registry_navigate]
  split
  · simp [SessionRegistry.find?_invalidate]
  · simp [SessionRegistry.find?_contextFor_self _ _ _ named]

theorem find?_navigate_other {other : String} (apart : fingerprint other ≠ fingerprint cookie) :
    (state.navigate config handle now (some cookie) mode target).2.registry.find? other =
      state.registry.find? other := by
  rw [registry_navigate]
  split <;>
    simp [SessionRegistry.find?_invalidate, apart, SessionRegistry.find?_contextFor_other]

theorem session_navigate (kept : endsSession target = false) :
    (state.navigate config handle now (some cookie) mode target).2.registry.session
        (state.registry.contextFor now (some cookie)).1 =
      state.left config handle now cookie mode target := by
  rw [registry_navigate]
  simp [kept, SessionRegistry.session_setSession, SessionRegistry.contextFor_lt_length]

/-- The gateway forgets the session of a cookie when the path of the target is the sign-in page's to
the letter; the guard signs out at every spelling of it. The two agree but for slashes at the end of
a sign-out's path, and there the session that stays has been cleared. -/
theorem navigate_forgets (alone : ∀ caller, (handle caller).LeavesSession) (named : cookie ≠ "") :
    let after := (state.navigate config handle now (some cookie) mode target).2.registry
    let signsOut := .signOut ∈ state.asked config handle now cookie mode target
    (after.find? cookie = none ↔ ∃ n, Navigation.parse target = .ok n ∧ n.isSigningOut = true ∧
        n.path = signInPath) ∧
      (signsOut ↔ ∃ n, Navigation.parse target = .ok n ∧ n.isSigningOut = true ∧
        Route.trimSlashes n.path.toList = signInPath.toList) ∧
      ((after.find? cookie = none ↔ signsOut) ↔
        ¬∃ n, Navigation.parse target = .ok n ∧ n.isSigningOut = true ∧
          Route.trimSlashes n.path.toList = signInPath.toList ∧ n.path ≠ signInPath) ∧
      (signsOut → ∀ id, after.find? cookie = some id →
        (after.session id).user = none ∧ (after.session id).projectMembers = []) ∧
      ∀ other, fingerprint other ≠ fingerprint cookie →
        after.find? other = state.registry.find? other := by
  intro after signsOut
  have forgets : after.find? cookie = none ↔ endsSession target = true := by
    rw [find?_navigate config handle now mode target state named]
    split <;> simp_all
  have signs : signsOut ↔ Navigator.SignsOut target :=
    Navigator.signOut_mem_asked mode (alone _) _ _
  have spelled : Route.trimSlashes signInPath.toList = signInPath.toList := by decide
  refine ⟨forgets.trans endsSession_eq_true, signs, ?_, fun asked id found => ?_,
    fun other apart => find?_navigate_other config handle now mode target state apart⟩
  · rw [forgets, signs, endsSession_eq_true]
    constructor
    · rintro agree ⟨n, parsed, signingOut, atSignIn, slashed⟩
      obtain ⟨m, parsed', -, plain⟩ := agree.2 ⟨n, parsed, signingOut, atSignIn⟩
      rw [parsed] at parsed'
      cases parsed'
      exact slashed plain
    · intro unslashed
      constructor
      · rintro ⟨n, parsed, signingOut, plain⟩
        exact ⟨n, parsed, signingOut, plain ▸ spelled⟩
      · rintro ⟨n, parsed, signingOut, atSignIn⟩
        exact ⟨n, parsed, signingOut, Decidable.of_not_not fun slashed =>
          unslashed ⟨n, parsed, signingOut, atSignIn, slashed⟩⟩
  · have kept : endsSession target = false := by
      rw [← Bool.not_eq_true, ← forgets, found]
      simp
    have here : after.find? cookie = some (state.registry.contextFor now (some cookie)).1 := by
      rw [find?_navigate config handle now mode target state named, kept]
      rfl
    rw [here] at found
    cases found
    rw [session_navigate config handle now mode target state kept]
    exact (Navigator.run_signsOut mode (alone _) (signs.1 asked) _ _).2

def aliceSignedIn : GatewayState MemoryBackend :=
  .initial {} { user := some ⟨2, "alice", false⟩ }

theorem navigate_forgets_alice :
    (∀ caller : Option String, ((fun _ => MemoryBackend.handle : BackendHandler MemoryBackend)
        caller).LeavesSession) ∧ "abc" ≠ "" ∧
      .signOut ∈ aliceSignedIn.asked {} (fun _ => MemoryBackend.handle) 0 "abc" .load
        "/harbor/sign-in?signout=true" ∧
      (aliceSignedIn.navigate {} (fun _ => MemoryBackend.handle) 0 (some "abc") .load
        "/harbor/sign-in?signout=true").2.registry.find? "abc" = none := by
  have alone : ∀ caller : Option String,
      ((fun _ => MemoryBackend.handle : BackendHandler MemoryBackend) caller).LeavesSession :=
    fun _ _ _ _ => rfl
  have named : "abc" ≠ "" := by decide
  obtain ⟨forgets, signs, -⟩ := navigate_forgets {} (fun _ => MemoryBackend.handle) 0 .load
    "/harbor/sign-in?signout=true" aliceSignedIn alone named
  exact ⟨alone, named, signs.2 ⟨_, rfl, by decide, by decide⟩,
    forgets.2 ⟨_, rfl, by decide, by decide⟩⟩

/-- With a slash behind the path of the sign-in page the registry is asked to end the session, and
the gateway keeps it. -/
theorem navigate_keepsSession :
    ¬∀ (config : Config) (state : GatewayState MemoryBackend) (now : Int) (cookie : String)
      (mode : NavigationMode) (target : String), cookie ≠ "" →
        ((state.navigate config (fun _ => MemoryBackend.handle) now (some cookie) mode
            target).2.registry.find? cookie = none ↔
          .signOut ∈ state.asked config (fun _ => MemoryBackend.handle) now cookie mode target) := by
  intro h
  have agree := h {} aliceSignedIn 0 "abc" .load "/harbor/sign-in/?signout=true" (by decide)
  have kept : endsSession "/harbor/sign-in/?signout=true" = false := by decide
  have signsOut : Navigator.SignsOut "/harbor/sign-in/?signout=true" :=
    ⟨_, rfl, by decide, by decide⟩
  have forgotten := agree.2
    ((Navigator.signOut_mem_asked .load (fun _ _ _ => rfl) _ _).2 signsOut)
  rw [find?_navigate _ _ _ _ _ _ (by decide), kept] at forgotten
  cases forgotten

end GatewayState

end ConsoleGateway
