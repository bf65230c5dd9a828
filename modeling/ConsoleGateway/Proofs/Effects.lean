import ConsoleGateway.Proofs.Upshot
import Mathlib.Data.List.Induction

namespace ConsoleGateway

theorem lookup_cons_ite (key k v : String) (pairs : List (String × String)) :
    ((k, v) :: pairs).lookup key = if k = key then some v else pairs.lookup key := by
  by_cases same : k = key
  · simp [same]
  · have other : (key == k) = false := by simpa using Ne.symm same
    simp [List.lookup_cons, other, same]

theorem lookup_setKey (key key' value : String) (pairs : List (String × String)) :
    (setKey key' value pairs).lookup key =
      if key' = key then some value else pairs.lookup key := by
  induction pairs with
  | nil => exact lookup_cons_ite key key' value []
  | cons pair pairs ih =>
    obtain ⟨k, v⟩ := pair
    rw [setKey]
    split
    · rename_i same
      rw [same, lookup_cons_ite, lookup_cons_ite]
      split <;> rfl
    · rename_i other
      rw [lookup_cons_ite, lookup_cons_ite, ih]
      split
      · rename_i asked
        rw [if_neg (asked ▸ Ne.symm other)]
      · rfl

theorem lastWins_append_singleton (pairs : List (String × String)) (pair : String × String) :
    lastWins (pairs ++ [pair]) = setKey pair.1 pair.2 (lastWins pairs) := by
  simp [lastWins]

theorem lookup_lastWins (key : String) (pairs : List (String × String)) :
    (lastWins pairs).lookup key = ((pairs.filter (·.1 = key)).getLast?).map (·.2) := by
  induction pairs using List.reverseRecOn with
  | nil => rfl
  | append_singleton pairs pair ih =>
    rw [lastWins_append_singleton, lookup_setKey, ih, List.filter_append]
    by_cases same : pair.1 = key <;> simp [same]

namespace Navigation

def lastValue? (target key : String) : Option String :=
  match Url.parse (some standInOrigin) target.toList with
  | .error _ => none
  | .ok url => ((url.queryPairs.filter (·.1 = key.toList)).getLast?).map (.ofList ·.2)

theorem queryParam_eq {target : String} {n : Navigation} (parsed : parse target = .ok n)
    (key : String) : n.queryParam key = lastValue? target key := by
  unfold parse at parsed
  cases read : Url.parse (some standInOrigin) target.toList with
  | error e => simp [read, Except.map] at parsed
  | ok url =>
    simp only [read, Except.map, Except.ok.injEq] at parsed
    subst parsed
    have sameKey (pair : List Char × List Char) :
        (decide (String.ofList pair.1 = key)) = decide (pair.1 = key.toList) := by
      simp [← String.toList_inj]
    simp only [queryParam, ofUrl, lookup_lastWins, lastValue?, read, List.filter_map,
      List.getLast?_map, Option.map_map]
    simp only [Function.comp_def, sameKey]

example : lastValue? "/harbor/sign-in?signout=1&signout=" "signout" = some "" := by
  decide +kernel

end Navigation

namespace Route

theorem table_plain : ∀ route ∈ table, route.name ∈ ["root", "reset-password"] ↔
    ¬(route.redirectTo = none ∧ route.authCheck = true) := by
  decide

theorem table_signInName : ∀ route ∈ table, route.name = "sign-in" → route = signInPage := by
  decide

theorem table_members : ∀ route ∈ table, .member ∈ route.guards → route.resolveProject = true := by
  decide

end Route

section

variable (user : Option CurrentUser)

@[simp] theorem mem_identityCalls {c : BackendCall} :
    c ∈ identityCalls user ↔ user = none ∧ c = .currentUser := by
  cases user <;> simp [identityCalls]

theorem currentUser_not_mem_identityCalls (known : user.isSome = true) :
    .currentUser ∉ identityCalls user := by
  simp [identityCalls, known]

theorem length_identityCalls_le : (identityCalls user).length ≤ 1 := by
  cases user <;> simp [identityCalls]

theorem count_identityCalls :
    (identityCalls user).count .currentUser = if user.isSome then 0 else 1 := by
  cases user <;> simp [identityCalls]

theorem count_signOut_identityCalls : (identityCalls user).count .signOut = 0 := by
  simp [List.count_eq_zero]

theorem countP_identityCalls (kind : CallKind) (other : kind ≠ .currentUser) :
    (identityCalls user).countP (·.kind = kind) = 0 := by
  cases user <;> simp [identityCalls, BackendCall.kind, Ne.symm other]

end

/-- Targets that lead to no page behind the auth check. -/
inductive Idle (target : String) : Prop where
  | unreadable (e : Url.Error) (failed : Navigation.parse target = .error e)
  | slash (n : Navigation) (parsed : Navigation.parse target = .ok n) (bare : n.path = "/")
  | unknown (n : Navigation) (parsed : Navigation.parse target = .ok n)
      (lost : Route.find? n.path = none)
  | plain (n : Navigation) (route : Route) (params : List (String × String))
      (parsed : Navigation.parse target = .ok n) (found : Route.find? n.path = some (route, params))
      (named : route.name ∈ ["root", "reset-password"])

def AsksSignOut (target : String) : Prop :=
  ∃ n route params, Navigation.parse target = .ok n ∧ Route.find? n.path = some (route, params) ∧
    route.name = "sign-in" ∧ ∃ value, Navigation.lastValue? target "signout" = some value ∧ value ≠ ""

def NamesProject (target : String) (id : Int64) : Prop :=
  ∃ n route params, Navigation.parse target = .ok n ∧ Route.find? n.path = some (route, params) ∧
    route.resolveProject = true ∧ (params.lookup "id").bind Integer.int64? = some id

/-- Calls within the bounds of their target, for a session and a registry. -/
structure Measured (target : String) (s : Session) (b : MemoryBackend) (calls : List BackendCall) :
    Prop where
  few : calls.length ≤ 4
  identity : calls.count .currentUser ≤ 2
  remembered : s.user.isSome → .currentUser ∉ calls
  ends : AsksSignOut target → calls.count .signOut = 1
  lasts : ¬AsksSignOut target → .signOut ∉ calls
  projects : calls.countP (·.kind = .project) ≤ 2
  members : calls.countP (·.kind = .projectMembers) ≤ 1
  named : ∀ id, .project id ∈ calls ∨ .projectMembers id ∈ calls → NamesProject target id
  -- Members are looked up for a user who is remembered, or whom the call before has named.
  known : ∀ id, .projectMembers id ∈ calls →
    s.user.isSome ∨ b.user.isSome ∧ [.currentUser, .projectMembers id] <+: calls

namespace Navigator

open MemoryBackend

variable {settings : GuardSettings} {target : String} {route : Route} {n : Navigation}
  {s : Session} {b : MemoryBackend} {user : Option CurrentUser} {calls : List BackendCall}

theorem idle_iff : Idle target ↔ checkedPage? target = none := by
  constructor
  · intro idle
    cases idle with
    | unreadable e failed => simp [checkedPage?, failed]
    | slash n parsed bare => simp [checkedPage?, parsed, bare, Route.find?_slash]
    | unknown n parsed lost => simp [checkedPage?, parsed, lost]
    | plain n route params parsed found named =>
      have plain := (Route.table_plain route (Route.find?_eq_some found).1).1 named
      simp only [checkedPage?, parsed, found, if_neg plain]
  · intro elsewhere
    cases parsed : Navigation.parse target with
    | error e => exact .unreadable e parsed
    | ok n =>
      cases found : Route.find? n.path with
      | none => exact .unknown n parsed found
      | some pair =>
        obtain ⟨route, params⟩ := pair
        refine .plain n route params parsed found ?_
        rw [Route.table_plain route (Route.find?_eq_some found).1]
        rintro ⟨isPage, checked⟩
        rw [checkedPage?_of_find parsed found isPage checked] at elsewhere
        cases elsewhere

theorem not_idle (page : checkedPage? target = some (route, n)) : ¬Idle target := by
  intro idle
  rw [idle_iff, page] at idle
  cases idle

theorem isSigningOut_iff (parsed : Navigation.parse target = .ok n) : n.isSigningOut = true ↔
    ∃ value, Navigation.lastValue? target "signout" = some value ∧ value ≠ "" := by
  rw [← Navigation.queryParam_eq parsed "signout", Navigation.isSigningOut,
    show n.queryParam signOutParam = n.queryParam "signout" from rfl]
  cases n.queryParam "signout" <;> simp

theorem asksSignOut_iff (page : checkedPage? target = some (route, n)) :
    AsksSignOut target ↔ route = .signInPage ∧ n.isSigningOut = true := by
  obtain ⟨m, params, parsed, found, isPage, checked, rfl⟩ := checkedPage?_eq_some page
  have signingOut : m.isSigningOut = true ↔ _ := isSigningOut_iff parsed
  constructor
  · rintro ⟨m', route', params', parsed', found', named, asks⟩
    rw [parsed] at parsed'
    cases parsed'
    rw [found] at found'
    cases found'
    exact ⟨Route.table_signInName route (Route.find?_eq_some found).1 named, signingOut.2 asks⟩
  · rintro ⟨rfl, asks⟩
    exact ⟨m, _, params, parsed, found, rfl, signingOut.1 asks⟩

theorem not_idle_of_asksSignOut (asks : AsksSignOut target) : ¬Idle target := by
  obtain ⟨n, route, params, parsed, found, named, -⟩ := asks
  obtain rfl := Route.table_signInName route (Route.find?_eq_some found).1 named
  exact not_idle (checkedPage?_of_find parsed found rfl rfl)

inductive Lasting (route : Route) (n : Navigation) (user : Option CurrentUser) :
    List BackendCall → Prop where
  | nothing : Lasting route n user []
  | identity : Lasting route n user (identityCalls user)
  | project (id : Int64) (times : Nat) (resolves : route.resolveProject = true)
      (named : n.projectId? = some id) (twice : times ≤ 2) :
      Lasting route n user
        ((if user.isSome then .projectMembers id else .currentUser) ::
          .replicate times (.project id))

theorem lasting_project {id : Int64} (resolves : route.resolveProject = true)
    (named : n.projectId? = some id) :
    Lasting route n user (Upshot.project settings route n b user id).calls := by
  have shape : ∃ times ≤ 2, (Upshot.project settings route n b user id).calls =
      (if user.isSome then .projectMembers id else .currentUser) ::
        .replicate times (.project id) := by
    refine ⟨(if (Upshot.listed b user id).isSome then 0 else 1) +
      if b.admits user id then 1 else 0, by split <;> split <;> decide, ?_⟩
    simp only [Upshot.project, Upshot.memberCalls]
    split <;> split <;> split <;> rfl
  obtain ⟨times, twice, calls⟩ := shape
  rw [calls]
  exact .project id times resolves named twice

theorem lasting_upshot (settings : GuardSettings) (page : checkedPage? target = some (route, n))
    (lasts : ¬(route = .signInPage ∧ n.isSigningOut = true)) (b : MemoryBackend)
    (user : Option CurrentUser) (members : List ProjectMember) :
    Lasting route n user (upshot settings route n b user members).calls := by
  unfold upshot
  split
  · unfold Upshot.admitted
    split
    · rename_i guarded
      have atSignIn := eq_signInPage page (by rw [guarded]; exact List.mem_cons_self)
      have staying : ¬n.isSigningOut = true := fun signingOut => lasts ⟨atSignIn, signingOut⟩
      rw [Upshot.signIn, if_neg staying]
      exact .identity
    · rename_i guarded
      obtain ⟨m, params, -, found, -, -, -⟩ := checkedPage?_eq_some page
      have resolves := Route.table_members route (Route.find?_eq_some found).1
        (by rw [guarded]; exact List.mem_cons_self)
      unfold Upshot.member
      split
      · rename_i id named
        exact lasting_project resolves named
      · exact .nothing
    · exact .identity
    · exact .nothing
  · exact .nothing

namespace Lasting

theorem length_le (puts : Lasting route n user calls) : calls.length ≤ 3 := by
  cases puts with
  | nothing => exact Nat.zero_le 3
  | identity => exact Nat.le_trans (length_identityCalls_le user) (by decide)
  | project id times _ _ twice =>
    rw [List.length_cons, List.length_replicate]
    exact Nat.succ_le_succ twice

theorem count_currentUser_le (puts : Lasting route n user calls) :
    calls.count .currentUser ≤ if user.isSome then 0 else 1 := by
  cases puts with
  | nothing => exact Nat.zero_le _
  | identity => exact Nat.le_of_eq (count_identityCalls user)
  | project id times => cases user <;> simp [List.count_replicate]

theorem currentUser_not_mem (puts : Lasting route n user calls) (known : user.isSome = true) :
    .currentUser ∉ calls := by
  have none := puts.count_currentUser_le
  rw [if_pos known] at none
  exact List.count_eq_zero.1 (Nat.le_zero.1 none)

theorem signOut_not_mem (puts : Lasting route n user calls) : .signOut ∉ calls := by
  cases puts with
  | nothing => nofun
  | identity => simp
  | project id times => cases user <;> simp

theorem countP_project_le (puts : Lasting route n user calls) :
    calls.countP (·.kind = .project) ≤ 2 := by
  cases puts with
  | nothing => exact Nat.zero_le 2
  | identity =>
    rw [countP_identityCalls user .project (by decide)]
    exact Nat.zero_le 2
  | project id times _ _ twice =>
    cases user <;> simpa [List.countP_cons, List.countP_replicate, BackendCall.kind] using twice

theorem countP_projectMembers_le (puts : Lasting route n user calls) :
    calls.countP (·.kind = .projectMembers) ≤ 1 := by
  cases puts with
  | nothing => exact Nat.zero_le 1
  | identity =>
    rw [countP_identityCalls user .projectMembers (by decide)]
    exact Nat.zero_le 1
  | project id times =>
    cases user <;> simp [List.countP_replicate, BackendCall.kind]

theorem named (puts : Lasting route n user calls) {id : Int64}
    (asked : .project id ∈ calls ∨ .projectMembers id ∈ calls) :
    route.resolveProject = true ∧ n.projectId? = some id := by
  cases puts with
  | nothing => simp at asked
  | identity => simp at asked
  | project id' times resolves named =>
    have same : id = id' := by cases user <;> grind
    exact ⟨resolves, same ▸ named⟩

theorem known (puts : Lasting route n user calls) {id : Int64}
    (asked : .projectMembers id ∈ calls) :
    user.isSome = true ∧ [.projectMembers id] <+: calls := by
  cases puts with
  | nothing => simp at asked
  | identity => simp at asked
  | project id' times => cases user <;> simp_all

end Lasting

theorem measured_nil (lasts : ¬AsksSignOut target) : Measured target s b [] where
  few := Nat.zero_le 4
  identity := Nat.zero_le 2
  remembered := nofun
  ends asks := absurd asks lasts
  lasts := nofun
  projects := Nat.zero_le 2
  members := Nat.zero_le 1
  named := by simp
  known := nofun

theorem measured_signOut (asks : AsksSignOut target) :
    Measured target s b (identityCalls s.user ++ [.signOut]) where
  few := by
    have first := length_identityCalls_le s.user
    simp only [List.length_append, List.length_singleton]
    omega
  identity := by
    rw [List.count_append, count_identityCalls]
    split <;> decide
  remembered known := by
    rw [List.mem_append, not_or]
    exact ⟨currentUser_not_mem_identityCalls _ known, by decide⟩
  ends _ := by
    rw [List.count_append, count_signOut_identityCalls]
    rfl
  lasts lasts := absurd asks lasts
  projects := by
    rw [List.countP_append, countP_identityCalls _ .project (by decide)]
    decide
  members := by
    rw [List.countP_append, countP_identityCalls _ .projectMembers (by decide)]
    decide
  named := by simp
  known := by simp

theorem measured_lasting (page : checkedPage? target = some (route, n))
    (lasts : ¬AsksSignOut target) (puts : Lasting route n (s.caller b) calls) :
    Measured target s b (identityCalls s.user ++ calls) where
  few := by
    have first := length_identityCalls_le s.user
    have rest := puts.length_le
    simp only [List.length_append]
    omega
  identity := by
    have rest := puts.count_currentUser_le
    rw [List.count_append, count_identityCalls]
    split <;> split at rest <;> omega
  remembered known := by
    have caller : (s.caller b).isSome = true := by rw [Session.caller, Option.isSome_or, known]; rfl
    rw [List.mem_append, not_or]
    exact ⟨currentUser_not_mem_identityCalls _ known, puts.currentUser_not_mem caller⟩
  ends asks := absurd asks lasts
  lasts _ := by simp [puts.signOut_not_mem]
  projects := by
    rw [List.countP_append, countP_identityCalls _ .project (by decide), Nat.zero_add]
    exact puts.countP_project_le
  members := by
    rw [List.countP_append, countP_identityCalls _ .projectMembers (by decide), Nat.zero_add]
    exact puts.countP_projectMembers_le
  named id asked := by
    obtain ⟨m, params, parsed, found, -, -, rfl⟩ := checkedPage?_eq_some page
    obtain ⟨resolves, named⟩ := puts.named (by simpa using asked)
    exact ⟨m, route, params, parsed, found, resolves, named⟩
  known id asked := by
    obtain ⟨named, first⟩ := puts.known (by simpa using asked)
    cases remembered : s.user with
    | some u => exact .inl rfl
    | none =>
      rw [Session.caller, remembered] at named
      exact .inr ⟨named, List.prefix_cons_inj _ |>.2 first⟩

/-- What a visit does is settled by its target. Targets that lead to no page behind the auth check
get by without a call or a notice. All others post the same notices and put at most four calls: to
find out who the caller is, unless a user is remembered; to end the session, exactly when the sign-in
page is asked to; and about a project, the one that the path names. -/
theorem visit_measured (mode : NavigationMode) (settings : GuardSettings) (target : String)
    (s : Session) (b : MemoryBackend) :
    let r := (mode.flow settings target).run handle s b
    ∃ calls, r.backend.log = b.log ++ calls ∧
      (Idle target → r.notices = [] ∧ calls = []) ∧
      (¬Idle target → r.notices = checkNotices settings) ∧ Measured target s b calls := by
  intro r
  cases course target with
  | elsewhere page =>
    have idle : Idle target := idle_iff.2 page
    obtain ⟨outcome, runs⟩ := run_elsewhere settings page
    rw [show r = _ from runs mode s b]
    exact ⟨[], (List.append_nil _).symm, fun _ => ⟨rfl, rfl⟩, absurd idle,
      measured_nil fun asks => not_idle_of_asksSignOut asks idle⟩
  | signOut n page signingOut =>
    have asks : AsksSignOut target := (asksSignOut_iff page).2 ⟨rfl, signingOut⟩
    rw [show r = _ from run_page_signOut mode settings page signingOut s b]
    exact ⟨_, rfl, fun idle => absurd idle (not_idle page), fun _ => rfl, measured_signOut asks⟩
  | lasting route n page lasts =>
    have quiet : ¬AsksSignOut target := mt (asksSignOut_iff page).1 lasts
    rw [show r = _ from run_page_lasting mode settings page lasts s b]
    exact ⟨_, rfl, fun idle => absurd idle (not_idle page), fun _ => rfl,
      measured_lasting page quiet (lasting_upshot settings page lasts b _ _)⟩

theorem visit_measured_members :
    let target := "/harbor/projects/7/members?project_id=8"
    let r := (NavigationMode.load.flow { readOnly := true } target).run handle {} oneProject
    ¬Idle target ∧ r.notices = [.clearMessages, .readOnly, .closeSearch] ∧ .signOut ∉ r.backend.log ∧
      ∀ id, .projectMembers id ∈ r.backend.log → NamesProject target id := by
  intro target r
  have busy : ¬Idle target := by
    rw [idle_iff]
    decide +kernel
  have lasts : ¬AsksSignOut target := by
    have silent : Navigation.lastValue? target "signout" = none := by decide +kernel
    rintro ⟨n, route, params, -, -, -, value, asks, -⟩
    rw [silent] at asks
    cases asks
  obtain ⟨calls, log, -, notices, measured⟩ :=
    visit_measured .load { readOnly := true } target {} oneProject
  have start : r.backend.log = calls := log
  rw [start]
  exact ⟨busy, notices busy, measured.lasts lasts, fun id asked => measured.named id (.inr asked)⟩

end Navigator

end ConsoleGateway
