import ConsoleGateway.Gateway.Basic

namespace ConsoleGateway

namespace Flow

@[simp] theorem bind_eq (f : Flow α) (k : α → Flow β) : f >>= k = f.bind k := rfl

@[simp] theorem pure_eq (a : α) : (pure a : Flow α) = done a := rfl

attribute [simp] bind run call post update session begin

theorem run_bind (f : Flow α) (k : α → Flow β) (handle : Handler σ) (s : Session) (b : σ) :
    (f.bind k).run handle s b =
      let r := f.run handle s b
      let r' := (k r.value).run handle r.session r.backend
      { r' with notices := r.notices ++ r'.notices } := by
  induction f generalizing s b with
  | done a => rfl
  | access update next ih => exact ih _ _ _
  | notify n next ih => simp only [bind, run, ih, List.cons_append]
  | ask c next ih => exact ih _ _ _

end Flow

def Session.isWanted (s : Session) (token : Option Token) : Bool := token.all s.isCurrent

theorem Session.isWanted_congr {s t : Session} (h : s.begun = t.begun) (token : Option Token) :
    s.isWanted token = t.isWanted token := by
  simp only [isWanted, show s.isCurrent = t.isCurrent by funext token; simp [isCurrent, h]]

theorem Session.newest_isWanted (s : Session) : s.begin.isWanted (some s.begin.newest) = true := by
  simp [isWanted, isCurrent, newest]

namespace NavigationMode

def token (s : Session) : NavigationMode → Option Token
  | navigate => some s.begin.newest
  | load => none

def enter (s : Session) : NavigationMode → Session
  | navigate => s.begin
  | load => s

@[simp] theorem enter_user (mode : NavigationMode) (s : Session) :
    (mode.enter s).user = s.user := by cases mode <;> rfl

@[simp] theorem enter_projectMembers (mode : NavigationMode) (s : Session) :
    (mode.enter s).projectMembers = s.projectMembers := by cases mode <;> rfl

theorem isWanted_enter (mode : NavigationMode) (s : Session) :
    (mode.enter s).isWanted (mode.token s) = true := by
  cases mode with
  | navigate => exact s.newest_isWanted
  | load => rfl

theorem run_flow (mode : NavigationMode) (settings : GuardSettings) (target : String)
    (handle : Flow.Handler σ) (s : Session) (b : σ) :
    (mode.flow settings target).run handle s b =
      (Navigator.go settings (mode.token s) target).run handle (mode.enter s) b := by
  cases mode <;> rfl

end NavigationMode

def admitCaller (n : Navigation) : Flow Decision := do
  match ← Flow.knownUser with
  | some _ => return .allow
  | none =>
    if isGuestPath n.url then return .allow
    else if isOpenUrl n.url then return .allow
    else return signInRedirect n.url

theorem authCheck_eq (settings : GuardSettings) (n : Navigation) :
    authCheck settings n = (Flow.post .clearMessages).bind fun _ =>
      (if settings.readOnly then Flow.post .readOnly else .done ()).bind fun _ =>
        (Flow.post .closeSearch).bind fun _ => admitCaller n := by
  cases warn : settings.readOnly <;> simp only [authCheck, warn] <;> rfl

theorem Route.find?_slash : Route.find? "/" = none := by decide

namespace Navigator

variable {settings : GuardSettings} {token : Option Token} {target : String}
  {handle : Flow.Handler σ} {s : Session} {b : σ}

theorem go_of_find {n : Navigation} {route : Route} {params : List (String × String)}
    (parsed : Navigation.parse target = .ok n) (found : Route.find? n.path = some (route, params))
    (isPage : route.redirectTo = none) :
    go settings token target = visit settings token route { n with params } := by
  have notSlash : n.path ≠ "/" := by
    intro h
    rw [h, Route.find?_slash] at found
    cases found
  simp [go, parsed, notSlash, found, isPage]

theorem run_of_find (mode : NavigationMode) {n : Navigation} {route : Route}
    {params : List (String × String)} (parsed : Navigation.parse target = .ok n)
    (found : Route.find? n.path = some (route, params)) (isPage : route.redirectTo = none) :
    (mode.flow settings target).run handle s b =
      (visit settings (mode.token s) route { n with params }).run handle (mode.enter s) b := by
  rw [mode.run_flow, go_of_find parsed found isPage]

theorem go_done_or_page (settings : GuardSettings) (target : String) :
    (∃ outcome, (∀ token, go settings token target = .done outcome) ∧
        (outcome = .notFound ∨ ∃ redirect, outcome = .redirected redirect)) ∨
      ∃ n route params, Navigation.parse target = .ok n ∧
        Route.find? n.path = some (route, params) ∧ route.redirectTo = none := by
  cases parsed : Navigation.parse target with
  | error e => exact .inl ⟨.notFound, fun token => by simp [go, parsed], .inl rfl⟩
  | ok n =>
    by_cases root : n.path = "/"
    · exact .inl ⟨.redirected (.ofPath harborRoot), fun token => by simp [go, parsed, root],
        .inr ⟨_, rfl⟩⟩
    cases found : Route.find? n.path with
    | none => exact .inl ⟨.notFound, fun token => by simp [go, parsed, root, found], .inl rfl⟩
    | some pair =>
      obtain ⟨route, params⟩ := pair
      cases isPage : route.redirectTo with
      | some path =>
        exact .inl ⟨.redirected (.ofPath path),
          fun token => by simp [go, parsed, root, found, isPage], .inr ⟨_, rfl⟩⟩
      | none => exact .inr ⟨n, route, params, rfl, found, isPage⟩

theorem go_cases (settings : GuardSettings) (token : Option Token) (target : String) :
    (∃ outcome, go settings token target = .done outcome ∧
        (outcome = .notFound ∨ ∃ redirect, outcome = .redirected redirect)) ∨
      ∃ n route params, Navigation.parse target = .ok n ∧
        Route.find? n.path = some (route, params) ∧ route.redirectTo = none ∧
          go settings token target = visit settings token route { n with params } := by
  rcases go_done_or_page settings target with
    ⟨outcome, answer, notPage⟩ | ⟨n, route, params, parsed, found, isPage⟩
  · exact .inl ⟨outcome, answer token, notPage⟩
  · exact .inr ⟨n, route, params, parsed, found, isPage, go_of_find parsed found isPage⟩

theorem run_isCurrent : (isCurrent token).run handle s b = ⟨s.isWanted token, [], s, b⟩ := by
  cases token <;> rfl

theorem run_settle (outcome : Outcome) :
    (settle token outcome).run handle s b =
      ⟨if s.isWanted token then outcome else .superseded, [], s, b⟩ := by
  simp [settle, Flow.run_bind, run_isCurrent]

theorem run_runGuards_allow {guard : Flow Decision} (guards : List (Flow Decision))
    (allowed : (guard.run handle s b).value = .allow)
    (wanted : (guard.run handle s b).session.isWanted token = true) :
    (runGuards token (guard :: guards)).run handle s b =
      let r := guard.run handle s b
      let r' := (runGuards token guards).run handle r.session r.backend
      { r' with notices := r.notices ++ r'.notices } := by
  simp only [runGuards, Flow.bind_eq, Flow.run_bind, allowed, run_isCurrent, wanted, if_true,
    List.nil_append]

theorem run_runGuards_deny {guard : Flow Decision} (guards : List (Flow Decision))
    {redirect : Redirect} (denied : (guard.run handle s b).value = .denyRedirect redirect)
    (wanted : (guard.run handle s b).session.isWanted token = true) :
    (runGuards token (guard :: guards)).run handle s b =
      { guard.run handle s b with value := some (.redirected redirect) } := by
  simp [runGuards, Flow.run_bind, denied, run_settle, wanted]

def arrive (token : Option Token) (route : Route) (n : Navigation) : Flow Outcome := do
  if route.resolveProject then
    match ← resolveProject n with
    | .resolved project => settle token (.activated route n.params (some project))
    | .fallback redirect => settle token (.redirected redirect)
  else settle token (.activated route n.params none)

variable {route : Route} {n : Navigation}

theorem run_visit_of_denied {outcome : Outcome}
    (denied : ((runGuards token (guards settings route n)).run handle s b).value = some outcome) :
    (visit settings token route n).run handle s b =
      { (runGuards token (guards settings route n)).run handle s b with value := outcome } := by
  simp [visit, Flow.run_bind, denied]

theorem run_visit_of_allowed
    (allowed : ((runGuards token (guards settings route n)).run handle s b).value = none) :
    (visit settings token route n).run handle s b =
      let r := (runGuards token (guards settings route n)).run handle s b
      let r' := (arrive token route n).run handle r.session r.backend
      { r' with notices := r.notices ++ r'.notices } := by
  simp only [visit, Flow.bind_eq, Flow.run_bind, allowed]
  rfl

end Navigator

end ConsoleGateway
