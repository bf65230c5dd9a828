import ConsoleGateway.Proofs.Upshot

namespace ConsoleGateway

theorem Session.caller_again (s : Session) (b : MemoryBackend) :
    (s.caller b).or b.user = s.caller b := by
  simp only [caller]
  cases s.user <;> simp

theorem Route.table_onlyRoot : ∀ route ∈ table, route.name ≠ "root" → route.redirectTo = none := by
  decide

namespace Navigator

open MemoryBackend

variable {settings : GuardSettings} {target : String} {b : MemoryBackend} {s s' : Session}

/-- Whether a user is remembered makes no difference when the registry would name the same one. The
visit has the same answer and leaves the same members, the same registry but for the calls that
reached it, and behind the auth check the same user. -/
theorem cache_transparent {mode : NavigationMode} {u : CurrentUser} (known : b.user = some u)
    (cached : s.user = some u) (fresh : s'.user = none)
    (same : s'.projectMembers = s.projectMembers) :
    let r := (mode.flow settings target).run handle s b
    let r' := (mode.flow settings target).run handle s' b
    r'.value = r.value ∧ r'.notices = r.notices ∧
      r'.session.projectMembers = r.session.projectMembers ∧
      r'.backend = { r.backend with log := r'.backend.log } ∧
      ∀ n route params, Navigation.parse target = .ok n →
        Route.find? n.path = some (route, params) → route.authCheck = true →
          route.name ≠ "root" → r'.session.user = r.session.user := by
  intro r r'
  have caller : s.caller b = some u := by rw [Session.caller, cached]; rfl
  have caller' : s'.caller b = some u := by rw [Session.caller, fresh, known]; rfl
  cases course target with
  | elsewhere page =>
    obtain ⟨outcome, runs⟩ := run_elsewhere settings page
    rw [show r = _ from runs mode s b, show r' = _ from runs mode s' b]
    refine ⟨rfl, rfl, ?_, rfl, ?_⟩
    · rw [mode.enter_projectMembers, mode.enter_projectMembers, same]
    · intro n route params parsed found checked notRoot
      have isPage := Route.table_onlyRoot route (Route.find?_eq_some found).1 notRoot
      rw [checkedPage?_of_find parsed found isPage checked] at page
      cases page
  | signOut n page signingOut =>
    rw [show r = _ from run_page_signOut mode settings page signingOut s b,
      show r' = _ from run_page_signOut mode settings page signingOut s' b]
    exact ⟨rfl, rfl, rfl, rfl, fun _ _ _ _ _ _ _ => rfl⟩
  | lasting route n page lasts =>
    have first : r = _ := run_page_lasting mode settings page lasts s b
    have second : r' = _ := run_page_lasting mode settings page lasts s' b
    rw [caller] at first
    rw [caller', same] at second
    rw [first, second]
    exact ⟨rfl, rfl, rfl, rfl, fun _ _ _ _ _ _ _ => rfl⟩

theorem cache_transparent_ann :
    let ann : CurrentUser := ⟨3, "ann", false⟩
    let visit := fun s : Session =>
      (NavigationMode.load.flow {} "/harbor/projects/7/members").run handle s oneProject
    oneProject.user = some ann ∧ (visit {}).value = (visit { user := some ann }).value ∧
      (visit {}).session.user = (visit { user := some ann }).session.user ∧
      (visit {}).backend =
        { (visit { user := some ann }).backend with log := (visit {}).backend.log } := by
  intro ann visit
  obtain ⟨value, -, -, backend, user⟩ := @cache_transparent {} "/harbor/projects/7/members"
    oneProject { user := some ann } {} .load ann rfl rfl rfl rfl
  exact ⟨rfl, value, user _ _ _ rfl rfl rfl (by decide), backend⟩

/-- Asking a second time changes nothing, whichever way. The answer is the one given before, and the
session and the registry are left as they were left then, but for the calls that reached the
registry; after a sign-out as well, whether or not the registry has refused it. -/
theorem repeat_unchanged (mode mode' : NavigationMode) (settings : GuardSettings) (target : String)
    (s : Session) (b : MemoryBackend) :
    let r := (mode.flow settings target).run handle s b
    let r' := (mode'.flow settings target).run handle r.session r.backend
    r'.value = r.value ∧ r'.notices = r.notices ∧ r'.session.user = r.session.user ∧
      r'.session.projectMembers = r.session.projectMembers ∧
      r'.backend = { r.backend with log := r'.backend.log } := by
  intro r r'
  cases course target with
  | elsewhere page =>
    obtain ⟨outcome, runs⟩ := run_elsewhere settings page
    simp [r, r', runs]
  | signOut n page signingOut =>
    have first : r = _ := run_page_signOut mode settings page signingOut s b
    have second : r' = _ := run_page_signOut mode' settings page signingOut r.session r.backend
    rw [second, first]
    cases b.signOutFails <;> exact ⟨rfl, rfl, rfl, rfl, rfl⟩
  | lasting route n page lasts =>
    have first : r = _ := run_page_lasting mode settings page lasts s b
    have second : r' = _ := run_page_lasting mode' settings page lasts r.session r.backend
    have known : r.session.caller r.backend = s.caller b := by
      rw [first]
      exact s.caller_again b
    have again : upshot settings route n r.backend (s.caller b) r.session.projectMembers =
        upshot settings route n b (s.caller b) s.projectMembers := by
      rw [first]
      exact (upshot_lasting settings page lasts b (s.caller b) s.projectMembers).2
    rw [known, again] at second
    rw [second, first]
    exact ⟨rfl, rfl, rfl, rfl, rfl⟩

end Navigator

end ConsoleGateway
