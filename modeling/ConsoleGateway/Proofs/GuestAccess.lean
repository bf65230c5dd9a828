import ConsoleGateway.Proofs.AdminAccess
import ConsoleGateway.Proofs.Terms

namespace ConsoleGateway

/-- The terms of a visitor: the registry never names him, it hands out as public only what is
public, and nobody signs in on his session. -/
def Terms.guest (isPublic : Int64 → Prop) : Terms where
  answers
    | .currentUser, answer => ∃ e, answer = .error e
    | .project id, answer => ∀ p, answer = .ok p → p.isPublic = true → isPublic id
    | _, _ => True
  session s := s.user = none

theorem MemoryBackend.guest_hold (b : MemoryBackend) :
    (Terms.guest fun id => b.isOpen id).Hold handle
      fun b' => b'.user = none ∧ b'.readable? = b.readable? where
  answers c s b' _ hb' := by
    cases c with
    | currentUser => exact ⟨.unauthenticated, by simp [handle, answer, reply, record, hb'.1]⟩
    | project id =>
      intro p hp isPublic
      cases read : b.readable? id with
      | none => simp [handle_project, hb'.2, read] at hp
      | some q =>
        rw [handle_project, hb'.2, read] at hp
        cases hp
        simp [isOpen, read, isPublic]
    | signOut => trivial
    | projectMembers id => trivial
  session _ _ _ hs _ := hs
  ok c s b' _ hb' := by
    cases c with
    | signOut =>
      have same : (b'.record .signOut).readable? = b.readable? := hb'.2
      cases fails : (b'.record .signOut).signOutFails
      · simp [handle, answer, reply, fails]
        exact same
      · simp [handle, answer, reply, fails]
        exact hb'
    | _ => exact hb'

namespace Navigator

variable {isPublic : Int64 → Prop} {settings : GuardSettings} {n : Navigation} {route : Route}

theorem retrieveUser_guest :
    Flow.retrieveUser.Always (.guest isPublic) (· = .error .unauthenticated) := by
  refine (Flow.always_call .currentUser).bind fun answer refused => ?_
  obtain ⟨e, rfl⟩ := refused
  exact (Flow.always_update fun _ _ => rfl).bind fun _ _ => rfl

theorem knownUser_guest : Flow.knownUser.Always (.guest isPublic) (· = none) := by
  refine Flow.always_session.bind fun s unknown => ?_
  rw [show s.user = none from unknown]
  refine retrieveUser_guest.bind fun answer refused => ?_
  subst refused
  rfl

theorem authCheck_guest :
    (authCheck settings n).Always (.guest isPublic) fun d =>
      d = .allow → isGuestPath n.url = true ∨ isOpenUrl n.url = true := by
  rw [authCheck_eq]
  refine (Flow.always_post _ .clearMessages).bind fun _ _ => ?_
  refine Flow.Always.bind (Q := fun _ => True) (by split <;> trivial) fun _ _ => ?_
  refine (Flow.always_post _ .closeSearch).bind fun _ _ => ?_
  refine knownUser_guest.bind fun u unknown => ?_
  subst unknown
  cases guest : isGuestPath n.url <;> cases opens : isOpenUrl n.url <;>
    simp [Flow.Always, signInRedirect]

theorem publicFallback_guest (id : Int64) :
    (publicFallback settings id).Always (.guest isPublic) fun d => d = .allow → isPublic id := by
  refine (Flow.always_call (.project id)).bind fun answer honest => ?_
  cases answer with
  | error e => simp [Flow.Always, GuardSettings.landing]
  | ok p =>
    cases shown : p.isPublic with
    | false => simp [Flow.Always, GuardSettings.landing, shown]
    | true => exact fun _ => honest p rfl shown

theorem memberGuard_guest :
    (memberGuard settings n).Always (.guest isPublic) fun d =>
      d = .allow → ∃ id, n.projectId? = some id ∧ isPublic id := by
  refine (Flow.always_update fun _ unknown => unknown).bind fun _ _ => ?_
  cases named : n.projectId? with
  | none => simp [Flow.Always, GuardSettings.landing]
  | some id =>
    refine knownUser_guest.bind fun u hu => ?_
    subst hu
    exact (publicFallback_guest id).mono fun d hd allowed => ⟨id, rfl, hd allowed⟩

theorem systemAdminGuard_guest :
    (systemAdminGuard settings n).Always (.guest isPublic) (· ≠ .allow) := by
  refine knownUser_guest.bind fun u hu => ?_
  subst hu
  simp [Flow.Always, signInRedirect]

theorem signInGuard_guest : (signInGuard settings n).Always (.guest isPublic) fun _ => True := by
  unfold signInGuard
  split
  · refine (Flow.always_call .signOut).bind fun answer _ => ?_
    refine (Flow.always_update fun _ _ => rfl).bind fun _ _ => ?_
    cases answer <;> trivial
  · refine knownUser_guest.bind fun u _ => ?_
    cases u <;> trivial

def AdmitsGuest (isPublic : Int64 → Prop) (n : Navigation) : GuardKind → Prop
  | .signIn => True
  | .member => ∃ id, n.projectId? = some id ∧ isPublic id
  | .systemAdmin => False

theorem check_guest (kind : GuardKind) :
    (kind.check settings n).Always (.guest isPublic) fun d =>
      d = .allow → AdmitsGuest isPublic n kind := by
  cases kind with
  | signIn => exact signInGuard_guest.mono fun _ _ _ => trivial
  | member => exact memberGuard_guest
  | systemAdmin => exact systemAdminGuard_guest.mono fun _ hd => hd

theorem visit_guest (settings : GuardSettings) (token : Option Token) (route : Route)
    (n : Navigation) :
    (visit settings token route n).Always (.guest isPublic) fun outcome =>
      ∀ r ps project, outcome = .activated r ps project →
        r = route ∧ ps = n.params ∧
          (route.authCheck = true → isGuestPath n.url = true ∨ isOpenUrl n.url = true) ∧
          ∀ kind ∈ route.guards, AdmitsGuest isPublic n kind := by
  let first : List (Flow Decision × Prop) := if route.authCheck then
    [(authCheck settings n, isGuestPath n.url = true ∨ isOpenUrl n.url = true)] else []
  let rest : List (Flow Decision × Prop) :=
    route.guards.map fun kind => (kind.check settings n, AdmitsGuest isPublic n kind)
  have chain : guards settings route n = (first ++ rest).map Prod.fst := by
    cases checked : route.authCheck <;> simp [guards, first, rest, checked]
  have allows : ∀ check ∈ first ++ rest,
      check.1.Always (.guest isPublic) fun d => d = .allow → check.2 := by
    cases checked : route.authCheck <;>
      simpa [first, rest, checked, authCheck_guest] using fun kind _ => check_guest kind
  refine (always_visit chain allows).mono fun outcome h r ps project activated => ?_
  obtain ⟨rfl, rfl, passed⟩ := h r ps project activated
  refine ⟨rfl, rfl, fun checked => passed (authCheck settings n, _) ?_, fun kind hkind =>
    passed (kind.check settings n, _) ?_⟩
  · simp [first, checked]
  · exact List.mem_append_right _ (List.mem_map_of_mem hkind)

end Navigator

theorem Route.table_guestPages : ∀ route ∈ table, route.redirectTo = none →
    route.name ∉ ["sign-in", "reset-password"] →
      route.authCheck = true ∧ route.guards ≠ [.signIn] ∧
        (route.name ∈ ["projects", "logs"] ∨ .systemAdmin ∈ route.guards ∨
          .member ∈ route.guards ∧ route.resolveProject = true) := by
  decide

namespace Navigator

variable {isPublic : Int64 → Prop} {settings : GuardSettings} {mode : NavigationMode}
  {target : String} {s : Session} {route : Route} {params : List (String × String)}
  {project : Option ResolvedProject} {handle : Flow.Handler σ} {ok : σ → Prop} {b : σ}

/-- A visitor whom the registry does not know is shown the pages to sign in and to reset a password,
and, if the url looks like a guest page, the list of projects, the logs and the pages of public
projects. No url gets him to a screen of administrators. -/
theorem guest_activated (hold : (Terms.guest isPublic).Hold handle ok) (unknown : s.user = none)
    (hb : ok b)
    (activated : ((mode.flow settings target).run handle s b).value =
      .activated route params project) :
    ∃ n, Navigation.parse target = .ok n ∧ Route.find? n.path = some (route, params) ∧
      route.name ∉ Route.adminScreens ∧
      (route.name ∈ ["sign-in", "reset-password"] ∨
        isGuestPath n.url = true ∧
          (route.name ∈ ["projects", "logs"] ∨
            route.resolveProject = true ∧
              ∃ id, (params.lookup "id").bind Integer.int64? = some id ∧ isPublic id)) := by
  rw [NavigationMode.run_flow] at activated
  rcases go_cases settings (mode.token s) target with
    ⟨outcome, hgo, houtcome⟩ | ⟨n, found, ps, parsed, hfind, isPage, hgo⟩
  · rw [hgo] at activated
    rcases houtcome with rfl | ⟨redirect, rfl⟩ <;> cases activated
  rw [hgo] at activated
  have visitor : (Terms.guest isPublic).session (mode.enter s) := by
    simpa [Terms.guest] using unknown
  obtain ⟨rfl, rfl, entered, admitted⟩ :=
    ((visit_guest settings _ found _).run hold visitor hb).1 route params project activated
  have onTable := (Route.find?_eq_some hfind).1
  refine ⟨n, parsed, hfind, ?_, ?_⟩
  · intro isAdminScreen
    obtain ⟨-, guarded, -⟩ := Route.table_adminScreens route onTable isAdminScreen
    exact admitted .systemAdmin (by simp [guarded])
  by_cases free : route.name ∈ ["sign-in", "reset-password"]
  · exact .inl free
  obtain ⟨checked, notSignIn, kind⟩ := Route.table_guestPages route onTable isPage free
  have notOpen := isOpenUrl_eq_false parsed hfind checked isPage notSignIn
  have guest : isGuestPath n.url = true := by simpa [notOpen] using entered checked
  refine .inr ⟨guest, ?_⟩
  rcases kind with list | admin | ⟨member, resolves⟩
  · exact .inl list
  · exact (admitted .systemAdmin admin).elim
  · exact .inr ⟨resolves, admitted .member member⟩

def onePublicProject : MemoryBackend := { projects := [(7, ⟨7, "library", true, 0⟩)] }

theorem guest_activated_publicProject :
    ∃ route params project,
      ((NavigationMode.load.flow {} "/harbor/projects/7/repositories").run MemoryBackend.handle {}
        onePublicProject).value = .activated route params project ∧
      ∃ id, (params.lookup "id").bind Integer.int64? = some id ∧
        onePublicProject.isOpen id = true := by
  let project : ResolvedProject := .resolve ⟨7, "library", true, 0⟩ none
  have activated : ((NavigationMode.load.flow {} "/harbor/projects/7/repositories").run
      MemoryBackend.handle {} onePublicProject).value =
        .activated (Route.projectPage "project-repositories"
          (Route.underProject [.literal "repositories"])) [("id", "7")] (some project) := by
    decide +kernel
  obtain ⟨n, -, -, -, free | ⟨-, list | ⟨-, shown⟩⟩⟩ :=
    guest_activated onePublicProject.guest_hold rfl ⟨rfl, rfl⟩ activated
  · exact absurd free (by decide)
  · exact absurd list (by decide)
  · exact ⟨_, _, _, activated, shown⟩

end Navigator

theorem Route.table_lists : ∀ route ∈ table, route.name ∈ ["projects", "logs"] →
    route.authCheck = true ∧ route.guards = [] ∧ route.resolveProject = false ∧
      route.redirectTo = none := by
  decide

namespace Navigator

open MemoryBackend

variable {settings : GuardSettings} {mode : NavigationMode} {target : String} {s : Session}
  {route : Route} {params : List (String × String)} {n : Navigation} {b : MemoryBackend}

theorem listPage_outcome (parsed : Navigation.parse target = .ok n)
    (found : Route.find? n.path = some (route, params))
    (isList : route.name ∈ ["projects", "logs"]) :
    ((mode.flow settings target).run handle s b).value =
      if (s.caller b).isSome || isGuestPath n.url then .activated route params none
      else .redirected ⟨signInPath, [(redirectUrlParam, n.url)]⟩ := by
  obtain ⟨checked, guarded, plain, isPage⟩ :=
    Route.table_lists route (Route.find?_eq_some found).1 isList
  have notOpen := isOpenUrl_eq_false parsed found checked isPage (by simp [guarded])
  have chain : guards settings route { n with params } =
      [authCheck settings { n with params }] := by
    simp [guards, checked, guarded]
  rw [run_of_find mode parsed found isPage]
  have identified : ((authCheck settings { n with params }).run handle (mode.enter s)
      b).session.isWanted (mode.token s) = true := by
    rw [run_authCheck]
    exact (Session.isWanted_congr rfl _).trans (mode.isWanted_enter s)
  by_cases enters : (s.caller b).isSome || isGuestPath n.url
  · have allowed : ((authCheck settings { n with params }).run handle (mode.enter s) b).value =
        .allow := by
      simp [run_authCheck, enters]
    have passed := run_runGuards_allow [] allowed identified
    rw [← chain] at passed
    rw [run_visit_of_allowed (by rw [passed]; rfl), passed]
    simp [runGuards, arrive, plain, run_settle, identified, enters]
  · have denied : ((authCheck settings { n with params }).run handle (mode.enter s) b).value =
        signInRedirect n.url := by
      simp [run_authCheck, enters, notOpen]
    have stopped := run_runGuards_deny [] denied identified
    rw [← chain] at stopped
    rw [run_visit_of_denied (by rw [stopped])]
    simp [enters]

/-- The pages to sign in, to reset a password and of public projects are not all that a visitor may
be shown: the logs are, once the query holds the path of a guest page. -/
theorem guest_activated_logs :
    ¬∀ (settings : GuardSettings) (mode : NavigationMode) (target : String) (s : Session)
      (b : MemoryBackend) (route : Route) (params : List (String × String))
      (project : Option ResolvedProject), s.user = none → b.user = none →
        ((mode.flow settings target).run handle s b).value = .activated route params project →
        route.name ∈ ["sign-in", "reset-password"] ∨
          route.resolveProject = true ∧
            ∃ id, (params.lookup "id").bind Integer.int64? = some id ∧ b.isOpen id = true := by
  intro h
  have activated := @listPage_outcome {} .load "/harbor/logs?from=/harbor/tags/1/x" {} _ _ _ {}
    rfl rfl (by decide)
  rcases h {} .load "/harbor/logs?from=/harbor/tags/1/x" {} {} _ _ _ rfl rfl activated with
    free | ⟨resolves, -⟩
  · exact absurd free (by decide)
  · exact absurd resolves (by decide)

end Navigator

end ConsoleGateway
