import ConsoleGateway.Proofs.Alone
import ConsoleGateway.Proofs.Pages

namespace ConsoleGateway

namespace Route

def adminScreens : List String :=
  ["users", "groups", "registries", "replications", "configs", "registry"]

theorem table_adminScreens : ∀ route ∈ table, route.name ∈ adminScreens →
    route.authCheck = true ∧ route.guards = [.systemAdmin] ∧ route.resolveProject = false ∧
      route.redirectTo = none := by
  decide

end Route

namespace Navigator

open MemoryBackend

variable {b : MemoryBackend} {s : Session} {settings : GuardSettings} {n : Navigation}
  {token : Option Token} {route : Route}

def adminDenial (settings : GuardSettings) (n : Navigation) : Option CurrentUser → Option Outcome
  | some u => if u.admin then none else some (.redirected (.ofPath settings.defaultLanding))
  | none => some (.redirected ⟨signInPath, [(redirectUrlParam, n.url)]⟩)

theorem adminGuards_spec (settings : GuardSettings) (wanted : s.isWanted token = true)
    (notOpen : isOpenUrl n.url = false) :
    let r := (runGuards token [authCheck settings n, systemAdminGuard settings n]).run handle s b
    r.value = adminDenial settings n (s.caller b) ∧
      (r.value = none → r.session = { s with user := s.caller b }) := by
  intro r
  have hguard : (systemAdminGuard settings n).run handle { s with user := s.caller b }
      (b.identify s) = _ := run_systemAdminGuard
  rw [caller_identified] at hguard
  by_cases enters : (s.caller b).isSome || isGuestPath n.url
  · obtain ⟨hvalue, hsession, -⟩ := run_checked settings n _ wanted enters
      (by rw [hguard])
    rw [hguard] at hvalue hsession
    refine ⟨?_, fun _ => hsession⟩
    rw [hvalue]
    cases known : s.caller b with
    | none => rfl
    | some u =>
      cases admin : u.admin <;>
        simp [adminDenial, admin, Decision.denial, GuardSettings.landing]
  · have unknown : s.caller b = none := by simp_all
    have stops : r.value = _ := run_checked_stranger settings _ wanted
      (Bool.eq_false_iff.2 enters) notOpen
    simp [stops, adminDenial, unknown]

theorem visit_adminScreen (b : MemoryBackend) (settings : GuardSettings) (n : Navigation)
    (wanted : s.isWanted token = true) (checked : route.authCheck = true)
    (guarded : route.guards = [.systemAdmin]) (plain : route.resolveProject = false)
    (notOpen : isOpenUrl n.url = false) :
    let r := (visit settings token route n).run handle s b
    let denial := adminDenial settings n (s.caller b)
    r.value = denial.getD (.activated route n.params none) ∧
      (denial = none → r.session.user = s.caller b) := by
  intro r denial
  have chain : guards settings route n = [authCheck settings n, systemAdminGuard settings n] := by
    simp [guards, checked, guarded, GuardKind.check]
  obtain ⟨hvalue, hsession⟩ := adminGuards_spec settings wanted notOpen
  rw [← chain] at hvalue hsession
  cases h : adminDenial settings n (s.caller b) with
  | some outcome =>
    rw [h] at hvalue
    simp [r, denial, h, run_visit_of_denied hvalue]
  | none =>
    rw [h] at hvalue
    have still : ({ s with user := s.caller b } : Session).isWanted token = true :=
      (Session.isWanted_congr rfl token).trans wanted
    simp [r, denial, h, run_visit_of_allowed hvalue, hsession hvalue, arrive, plain, run_settle,
      still]

/-- A screen of administrators is shown to administrators and to nobody else. Other users are sent
to the landing page and strangers to sign in, whatever the url looks like; whoever is shown the
screen is remembered as the user of the session. -/
theorem adminScreen_outcome {mode : NavigationMode} {target : String}
    {params : List (String × String)} (parsed : Navigation.parse target = .ok n)
    (found : Route.find? n.path = some (route, params))
    (isAdminScreen : route.name ∈ Route.adminScreens) :
    let caller := s.caller b
    let r := (mode.flow settings target).run handle s b
    ((∃ r' ps project, r.value = .activated r' ps project) ↔
        ∃ u, caller = some u ∧ u.admin = true) ∧
      (∀ r' ps project, r.value = .activated r' ps project →
        r' = route ∧ ps = params ∧ project = none ∧
          ∃ u, caller = some u ∧ u.admin = true ∧ r.session.user = some u) ∧
      (∀ u, caller = some u → u.admin = false →
        r.value = .redirected ⟨settings.defaultLanding, []⟩) ∧
      (caller = none →
        r.value = .redirected ⟨"/harbor/sign-in", [("redirect_url", n.url)]⟩) := by
  intro caller r
  obtain ⟨checked, guarded, plain, isPage⟩ :=
    Route.table_adminScreens route (Route.find?_eq_some found).1 isAdminScreen
  have notOpen : isOpenUrl n.url = false :=
    isOpenUrl_eq_false parsed found checked isPage (by simp [guarded])
  have hr : r = _ := run_of_find mode parsed found isPage
  obtain ⟨hvalue, huser⟩ := visit_adminScreen b settings { n with params }
    (mode.isWanted_enter s) checked guarded plain notOpen
  rw [← hr, mode.enter_caller] at hvalue huser
  cases known : s.caller b with
  | none =>
    simp only [known, adminDenial, Option.getD_some] at hvalue
    simp [hvalue, caller, known, signInPath, redirectUrlParam]
  | some u =>
    cases admin : u.admin with
    | false =>
      simp only [known, adminDenial, admin, Bool.false_eq_true, if_false,
        Option.getD_some] at hvalue
      simp [hvalue, caller, known, admin, Redirect.ofPath]
    | true =>
      simp only [known, adminDenial, admin, if_true, Option.getD_none, true_implies] at hvalue huser
      simp [hvalue, huser, caller, known, admin]

theorem adminScreen_outcome_admin :
    let b : MemoryBackend := { user := some ⟨1, "root", true⟩ }
    let r := (NavigationMode.load.flow {} "/harbor/users?from=/harbor/tags/1/x").run handle {} b
    (∃ r' ps project, r.value = .activated r' ps project) ∧
      r.session.user = some ⟨1, "root", true⟩ := by
  intro b r
  obtain ⟨shown, shows, -⟩ := @adminScreen_outcome b {} {} _ _ .load
    "/harbor/users?from=/harbor/tags/1/x" _ rfl rfl (by decide)
  obtain ⟨r', ps, project, h⟩ := shown.2 ⟨_, rfl, rfl⟩
  obtain ⟨-, -, -, u, known, -, huser⟩ := shows r' ps project h
  exact ⟨⟨r', ps, project, h⟩, huser.trans known.symm⟩

end Navigator

end ConsoleGateway
