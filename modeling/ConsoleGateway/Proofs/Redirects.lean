import ConsoleGateway.Proofs.Locations
import ConsoleGateway.Proofs.SignOut

namespace ConsoleGateway

def IsConsoleUrl (target url : String) : Prop :=
  ∃ n, Navigation.parse target = .ok n ∧ n.url = url ∧ harborRoot.toList <+: n.path.toList

/-- The redirects that a navigation to a target may be answered with. -/
inductive Redirect.Issued (settings : GuardSettings) (target : String) : Redirect → Prop where
  | root : Issued settings target (.ofPath harborRoot)
  | signIn : Issued settings target (.ofPath signInPath)
  | list : Issued settings target (.ofPath projectListPath)
  | landing : Issued settings target (.ofPath settings.defaultLanding)
  | back {url : String} (own : IsConsoleUrl target url) :
      Issued settings target ⟨signInPath, [(redirectUrlParam, url)]⟩

def Decision.Issues (settings : GuardSettings) (target : String) : Decision → Prop
  | .allow => True
  | .denyRedirect redirect => redirect.Issued settings target

def Outcome.Issues (settings : GuardSettings) (target : String) (token : Option Token) :
    Outcome → Prop
  | .redirected redirect => redirect.Issued settings target
  | .superseded => token ≠ none
  | _ => True

namespace Route

theorem table_redirectTo : ∀ route ∈ table, ∀ path ∈ route.redirectTo, path = signInPath := by
  decide

theorem table_checked : ∀ route ∈ table, route.redirectTo = none →
    route.authCheck = true ∨ route.guards ≠ [] →
      ∃ word ∈ "sign-in" :: words, route.pattern.take 2 = [.literal "harbor", .literal word] := by
  decide

theorem console_of_find? {target : String} {n : Navigation} {route : Route}
    {params : List (String × String)} (parsed : Navigation.parse target = .ok n)
    (found : find? n.path = some (route, params)) (isPage : route.redirectTo = none)
    (checked : route.authCheck = true ∨ route.guards ≠ []) : IsConsoleUrl target n.url := by
  obtain ⟨word, -, starts⟩ := table_checked route (find?_eq_some found).1 isPage checked
  refine ⟨n, parsed, rfl, List.IsPrefix.trans ?_ (prefix_of_find? found starts)⟩
  exact ⟨'/' :: word.toList, by simp [harborRoot]⟩

end Route

namespace Navigator

variable {settings : GuardSettings} {target : String} {token : Option Token} {n : Navigation}
  {route : Route}

theorem issues_authCheck (own : IsConsoleUrl target n.url) :
    (authCheck settings n).Always .any (·.Issues settings target) := by
  rw [authCheck_eq]
  refine (Flow.always_any _).bind fun _ _ => (Flow.always_any _).bind fun _ _ => ?_
  refine (Flow.always_any _).bind fun _ _ => (Flow.always_any Flow.knownUser).bind fun u _ => ?_
  cases u with
  | some u => trivial
  | none =>
    dsimp only
    split
    · trivial
    · split
      · trivial
      · exact .back own

theorem issues_publicFallback (id : Int64) :
    (publicFallback settings id).Always .any (·.Issues settings target) := by
  refine (Flow.always_any _).bind fun answer _ => ?_
  cases answer with
  | error e => exact .landing
  | ok p =>
    dsimp only
    split
    · trivial
    · exact .landing

theorem issues_memberGuard : (memberGuard settings n).Always .any (·.Issues settings target) := by
  refine (Flow.always_any _).bind fun _ _ => ?_
  cases n.projectId? with
  | none => exact .landing
  | some id =>
    refine (Flow.always_any Flow.knownUser).bind fun u _ => ?_
    cases u with
    | none => exact issues_publicFallback id
    | some u =>
      refine (Flow.always_any (Flow.call (.projectMembers id))).bind fun answer _ => ?_
      cases answer with
      | error e => exact issues_publicFallback id
      | ok members => exact fun _ _ => ⟨trivial, trivial⟩

theorem issues_signInGuard : (signInGuard settings n).Always .any (·.Issues settings target) := by
  unfold signInGuard
  split
  · refine (Flow.always_any (Flow.call .signOut)).bind fun answer _ => ?_
    refine (Flow.always_any _).bind fun _ _ => ?_
    cases answer with
    | ok _ => trivial
    | error e => exact .signIn
  · refine (Flow.always_any Flow.knownUser).bind fun u _ => ?_
    cases u with
    | none => trivial
    | some u => exact .landing

theorem issues_systemAdminGuard (own : IsConsoleUrl target n.url) :
    (systemAdminGuard settings n).Always .any (·.Issues settings target) := by
  refine (Flow.always_any Flow.knownUser).bind fun u _ => ?_
  cases u with
  | none => exact .back own
  | some u =>
    dsimp only
    split
    · trivial
    · exact .landing

theorem issues_check (kind : GuardKind) (own : IsConsoleUrl target n.url) :
    (kind.check settings n).Always .any (·.Issues settings target) := by
  cases kind with
  | signIn => exact issues_signInGuard
  | member => exact issues_memberGuard
  | systemAdmin => exact issues_systemAdminGuard own

theorem issues_guards
    (own : route.authCheck = true ∨ route.guards ≠ [] → IsConsoleUrl target n.url) :
    ∀ guard ∈ guards settings route n, guard.Always .any (·.Issues settings target) := by
  intro guard hguard
  rcases List.mem_append.1 hguard with first | rest
  · split at first
    · rename_i checked
      rw [List.mem_singleton.1 first]
      exact issues_authCheck (own (.inl checked))
    · cases first
  · obtain ⟨kind, hkind, rfl⟩ := List.mem_map.1 rest
    exact issues_check kind (own (.inr (List.ne_nil_of_mem hkind)))

theorem issues_settle {outcome : Outcome} (h : outcome.Issues settings target token) :
    (settle token outcome).Always .any (·.Issues settings target token) := by
  cases token with
  | none => exact h
  | some token => exact always_settle h (by simp [Outcome.Issues])

theorem issues_runGuards {guards : List (Flow Decision)}
    (h : ∀ guard ∈ guards, guard.Always .any (·.Issues settings target)) :
    (runGuards token guards).Always .any fun denied =>
      ∀ outcome ∈ denied, outcome.Issues settings target token := by
  induction guards with
  | nil => simp [runGuards, Flow.Always]
  | cons guard guards ih =>
    obtain ⟨hguard, hguards⟩ := List.forall_mem_cons.1 h
    refine hguard.bind fun d hd => ?_
    cases d with
    | denyRedirect redirect =>
      have told : (Outcome.redirected redirect).Issues settings target token := hd
      refine (issues_settle told).bind fun outcome houtcome => ?_
      simpa [Flow.Always] using houtcome
    | allow =>
      cases token with
      | none => exact ih hguards
      | some token =>
        refine (Flow.always_any (isCurrent (some token))).bind fun wanted _ => ?_
        cases wanted with
        | false => simp [Flow.Always, Outcome.Issues]
        | true => exact ih hguards

theorem issues_arrive : (arrive token route n).Always .any (·.Issues settings target token) := by
  unfold arrive
  split
  · unfold resolveProject
    split
    · exact issues_settle .list
    · refine Flow.Always.bind (Q := fun found => ∀ redirect, found = .fallback redirect →
        redirect.Issued settings target) ?_ fun found h => ?_
      · refine (Flow.always_any (Flow.call (.project _))).bind fun answer _ => ?_
        cases answer with
        | ok p => exact fun s _ => ⟨trivial, nofun⟩
        | error e =>
          rintro redirect ⟨⟩
          exact .list
      · cases found with
        | resolved project => exact issues_settle trivial
        | fallback redirect => exact issues_settle (h redirect rfl)
  · exact issues_settle trivial

theorem issues_visit
    (own : route.authCheck = true ∨ route.guards ≠ [] → IsConsoleUrl target n.url) :
    (visit settings token route n).Always .any (·.Issues settings target token) := by
  refine (issues_runGuards (issues_guards own)).bind fun denied h => ?_
  cases denied with
  | some outcome => exact h outcome rfl
  | none => exact issues_arrive

theorem issues_go (settings : GuardSettings) (token : Option Token) (target : String) :
    (go settings token target).Always .any (·.Issues settings target token) := by
  unfold go
  split
  · trivial
  · rename_i n parsed
    split
    · exact .root
    · split
      · trivial
      · rename_i route params found
        split
        · rename_i path fixed
          rw [Route.table_redirectTo route (Route.find?_eq_some found).1 path fixed]
          exact .signIn
        · rename_i isPage
          have own := Route.console_of_find? parsed found isPage
          exact issues_visit own

theorem run_issues (mode : NavigationMode) (settings : GuardSettings) (target : String)
    (handle : Flow.Handler σ) (s : Session) (b : σ) :
    ((mode.flow settings target).run handle s b).value.Issues settings target (mode.token s) := by
  rw [mode.run_flow]
  exact ((issues_go settings _ target).run (Terms.any_hold handle) trivial trivial).1

end Navigator

namespace Redirect

variable {r : Redirect} {settings : GuardSettings} {target : String}

def toSignIn (r : Redirect) : Navigation := ⟨r.location, signInPath, [], lastWins r.query⟩

theorem parse_signIn (atSignIn : r.path = signInPath) :
    Navigation.parse r.location = .ok r.toSignIn := by
  have settled : ∀ piece ∈ ["harbor".toList, "sign-in".toList], Url.IsSettledSegment piece := by
    decide
  rw [parse_location settled (by decide) (by rw [atSignIn]; decide), atSignIn]
  rfl

theorem isOpenUrl_signIn (atSignIn : r.path = signInPath) : isOpenUrl r.location = true := by
  have start : signInPath.toList <+: r.location.toList := by
    rw [location_toList, atSignIn]
    exact List.prefix_append _ _
  simp [isOpenUrl, List.isPrefixOf_iff_prefix.2 start]

theorem run_signIn (atSignIn : r.path = signInPath) (mode : NavigationMode)
    (handle : Flow.Handler σ) (s : Session) (b : σ) :
    (mode.flow settings r.location).run handle s b =
      (Navigator.visit settings (mode.token s) .signInPage r.toSignIn).run handle (mode.enter s)
        b := by
  have spelled : Route.trimSlashes r.toSignIn.path.toList = signInPath.toList := by
    change Route.trimSlashes signInPath.toList = _
    decide
  rw [Navigator.run_of_find mode (parse_signIn atSignIn) (Route.find?_signIn spelled) rfl]
  rfl

namespace Issued

theorem path_mem (h : r.Issued settings target) :
    r.path ∈ [harborRoot, signInPath, projectListPath, settings.defaultLanding] := by
  cases h <;> simp [Redirect.ofPath]

theorem query_cases (h : r.Issued settings target) :
    r.query = [] ∨ r.path = signInPath ∧ ∃ url, IsConsoleUrl target url ∧
      r.query = [(redirectUrlParam, url)] := by
  cases h with
  | back own => exact .inr ⟨rfl, _, own, rfl⟩
  | _ => exact .inl rfl

theorem visible_path (h : r.Issued settings target)
    (visible : ∀ c ∈ settings.defaultLanding.toList, 0x20 < c.toNat ∧ c.toNat < 0x7F) :
    ∀ c ∈ r.path.toList, 0x20 < c.toNat ∧ c.toNat < 0x7F := by
  cases h with
  | root => simp [Redirect.ofPath, harborRoot]
  | signIn => simp [Redirect.ofPath, signInPath]
  | list => simp [Redirect.ofPath, projectListPath]
  | landing => exact visible
  | back own => simp [signInPath]

theorem visible_location (h : r.Issued settings target)
    (visible : ∀ c ∈ settings.defaultLanding.toList, 0x20 < c.toNat ∧ c.toNat < 0x7F) :
    ∀ c ∈ r.location.toList, 0x20 < c.toNat ∧ c.toNat < 0x7F := by
  intro c hc
  rw [location_toList] at hc
  rcases List.mem_append.1 hc with path | query
  · exact h.visible_path visible c path
  · split at query
    · cases query
    · rcases List.mem_cons.1 query with rfl | written
      · decide
      · obtain ⟨low, high, -⟩ :=
          Url.visible_of_escapedInQuery (Form.isSettledQuery_write _ c written)
        exact ⟨low, high⟩

theorem query_toSignIn (h : r.Issued settings target) : r.toSignIn.query = r.query := by
  rcases h.query_cases with bare | ⟨-, url, -, told⟩
  · rw [toSignIn, bare]
    rfl
  · rw [toSignIn, told, lastWins_singleton]

theorem queryParam_signOut (h : r.Issued settings target) :
    r.toSignIn.queryParam signOutParam = none := by
  rw [Navigation.queryParam, h.query_toSignIn]
  rcases h.query_cases with bare | ⟨-, url, -, told⟩
  · simp [bare]
  · simp [told, redirectUrlParam, signOutParam]

theorem isSigningOut_toSignIn (h : r.Issued settings target) :
    r.toSignIn.isSigningOut = false := by
  simp [Navigation.isSigningOut, h.queryParam_signOut]

end Issued

end Redirect

namespace Navigator

variable {settings : GuardSettings} {target : String} {mode : NavigationMode}
  {handle : Flow.Handler σ} {s : Session} {b : σ} {r : Redirect}

/-- Whatever is asked for, a redirect leads to one of four pages of the console, and only the
sign-in page is told what was asked for. The location holds no character that would end a header,
and the sign-in page never reads it as the wish to sign out. -/
theorem redirected_closed
    (redirected : ((mode.flow settings target).run handle s b).value = .redirected r) :
    r.path ∈ [harborRoot, signInPath, projectListPath, settings.defaultLanding] ∧
      (r.query = [] ∨ r.path = signInPath ∧ ∃ n, Navigation.parse target = .ok n ∧
        r.query = [(redirectUrlParam, n.url)] ∧ harborRoot.toList <+: n.url.toList) ∧
      ((∀ c ∈ settings.defaultLanding.toList, 0x20 < c.toNat ∧ c.toNat < 0x7F) →
        ∀ c ∈ r.location.toList, 0x20 < c.toNat ∧ c.toNat < 0x7F) ∧
      (r.path = signInPath → ∃ n, Navigation.parse r.location = .ok n ∧ n.path = signInPath ∧
        n.query = r.query ∧ n.queryParam signOutParam = none) := by
  have issued : r.Issued settings target := by
    have issues := run_issues mode settings target handle s b
    rw [redirected] at issues
    exact issues
  refine ⟨issued.path_mem, ?_, issued.visible_location, fun atSignIn => ?_⟩
  · rcases issued.query_cases with bare | ⟨atSignIn, url, ⟨n, parsed, rfl, below⟩, told⟩
    · exact .inl bare
    · exact .inr ⟨atSignIn, n, parsed, told, below.trans (Navigation.path_prefix_url parsed)⟩
  · exact ⟨r.toSignIn, Redirect.parse_signIn atSignIn, rfl, issued.query_toSignIn,
      issued.queryParam_signOut⟩

theorem redirected_closed_elsewhere :
    let target := "https://elsewhere.example/harbor/logs?signout=true#/harbor/sign-in?signout=true"
    let redirect : Redirect := ⟨signInPath, [(redirectUrlParam, "/harbor/logs?signout=true")]⟩
    ((NavigationMode.navigate.flow {} target).run MemoryBackend.handle {} {}).value =
        .redirected redirect ∧
      ∃ n, Navigation.parse redirect.location = .ok n ∧ n.path = signInPath ∧
        n.query = redirect.query ∧ n.queryParam signOutParam = none := by
  intro target redirect
  have redirected : ((NavigationMode.navigate.flow {} target).run MemoryBackend.handle {}
      {}).value = .redirected redirect := by
    decide +kernel
  exact ⟨redirected, (redirected_closed redirected).2.2.2 rfl⟩

end Navigator

end ConsoleGateway
