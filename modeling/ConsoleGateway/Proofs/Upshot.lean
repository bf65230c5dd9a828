import ConsoleGateway.Proofs.AdminAccess
import ConsoleGateway.Proofs.ProjectAccess
import ConsoleGateway.Proofs.SignOut

/-! What a visit to a page comes to when nobody else is about, in one piece. The auth check finds
out who the caller is; all that follows is settled by the caller, the members remembered, and what
the registry knows, and by nothing that was called before. -/

namespace ConsoleGateway

def identityCalls (user : Option CurrentUser) : List BackendCall :=
  if user.isSome then [] else [.currentUser]

def checkNotices (settings : GuardSettings) : List Notice :=
  .clearMessages :: ((if settings.readOnly then [.readOnly] else []) ++ [.closeSearch])

namespace MemoryBackend

def after (b : MemoryBackend) (calls : List BackendCall) : MemoryBackend :=
  { b with log := b.log ++ calls }

variable {b : MemoryBackend} {s : Session}

theorem record_eq (c : BackendCall) : b.record c = b.after [c] := rfl

theorem identify_eq : b.identify s = b.after (identityCalls s.user) := by
  cases known : s.user <;> simp [identify, identityCalls, after, known, record]

@[simp] theorem after_nil : b.after [] = b := by simp [after]

@[simp] theorem after_after (calls calls' : List BackendCall) :
    (b.after calls).after calls' = b.after (calls ++ calls') := by
  simp [after]

@[simp] theorem readable?_after (calls : List BackendCall) :
    (b.after calls).readable? = b.readable? := rfl

@[simp] theorem isOpen_after (calls : List BackendCall) : (b.after calls).isOpen = b.isOpen := rfl

end MemoryBackend

structure Upshot where
  outcome : Outcome
  -- The members remembered afterwards.
  members : List ProjectMember
  -- Whether the session has been ended.
  ended : Bool := false
  calls : List BackendCall

namespace Upshot

def session (u : Upshot) (s : Session) : Session :=
  if u.ended then s.clear else { s with projectMembers := u.members }

def registry (u : Upshot) (b : MemoryBackend) : MemoryBackend :=
  { b with
    user := if u.ended && !b.signOutFails then none else b.user
    log := b.log ++ u.calls }

theorem session_of_lasting {u : Upshot} (lasts : u.ended = false) (s : Session) :
    u.session s = { s with projectMembers := u.members } := by
  simp [session, lasts]

theorem registry_of_lasting {u : Upshot} (lasts : u.ended = false) (b : MemoryBackend) :
    u.registry b = b.after u.calls := by
  simp [registry, lasts, MemoryBackend.after]

def denied (n : Navigation) (members : List ProjectMember) : Upshot where
  outcome := .redirected ⟨signInPath, [(redirectUrlParam, n.url)]⟩
  members := members
  calls := []

variable (settings : GuardSettings) (route : Route) (n : Navigation) (b : MemoryBackend)
  (user : Option CurrentUser) (members : List ProjectMember)

def list : Upshot where
  outcome := .activated route n.params none
  members := members
  calls := []

def admin : Upshot where
  outcome := (Navigator.adminDenial settings n user).getD (.activated route n.params none)
  members := members
  calls := identityCalls user

def signIn : Upshot :=
  if n.isSigningOut then
    { outcome := if b.signOutFails then .redirected (.ofPath signInPath)
        else .activated route n.params none
      members := []
      ended := true
      calls := [.signOut] }
  else
    { outcome := if user.isSome then .redirected (.ofPath settings.defaultLanding)
        else .activated route n.params none
      members := members
      calls := identityCalls user }

def listed (id : Int64) : Option (List ProjectMember) :=
  if user.isSome then b.members.lookup id else none

def memberCalls (id : Int64) : List BackendCall :=
  (if user.isSome then [.projectMembers id] else [.currentUser]) ++
    if (listed b user id).isSome then [] else [.project id]

def project (id : Int64) : Upshot where
  outcome := if b.admits user id then
      match b.readable? id with
      | some p => .activated route n.params (some (.resolve p user))
      | none => .redirected (.ofPath projectListPath)
    else .redirected (.ofPath settings.defaultLanding)
  members := (listed b user id).getD []
  calls := memberCalls b user id ++ if b.admits user id then [.project id] else []

def member : Upshot :=
  match n.projectId? with
  | some id => project settings route n b user id
  | none =>
    { outcome := .redirected (.ofPath settings.defaultLanding)
      members := []
      calls := [] }

def admitted : Upshot :=
  match route.guards with
  | .signIn :: _ => signIn settings route n b user members
  | .member :: _ => member settings route n b user
  | .systemAdmin :: _ => admin settings route n user members
  | [] => list route n members

end Upshot

/-- What the visit of a caller comes to once the auth check knows him. -/
def upshot (settings : GuardSettings) (route : Route) (n : Navigation) (b : MemoryBackend)
    (user : Option CurrentUser) (members : List ProjectMember) : Upshot :=
  if user.isSome || isGuestPath n.url || isOpenUrl n.url then
    .admitted settings route n b user members
  else .denied n members

theorem Route.table_checkedPages : ∀ route ∈ table, route.redirectTo = none →
    route.authCheck = true →
      route.guards = [] ∧ route.resolveProject = false ∨
      route.guards = [.signIn] ∧ route.resolveProject = false ∨
      route.guards = [.systemAdmin] ∧ route.resolveProject = false ∨
      route.guards = [.member] ∧ route.resolveProject = true := by
  decide

theorem Route.table_unchecked : ∀ route ∈ table, route.authCheck = false →
    route.guards = [] ∧ route.resolveProject = false := by
  decide

namespace Navigator

open MemoryBackend

variable {settings : GuardSettings} {token : Option Token} {route : Route} {n : Navigation}
  {s : Session} {b : MemoryBackend}

def proceed (token : Option Token) (route : Route) (n : Navigation)
    (guards : List (Flow Decision)) : Flow Outcome := do
  match ← runGuards token guards with
  | some outcome => return outcome
  | none => arrive token route n

theorem visit_eq : visit settings token route n =
    proceed token route n (guards settings route n) := rfl

theorem run_proceed_allow {guard : Flow Decision} (guards : List (Flow Decision))
    (allowed : (guard.run handle s b).value = .allow)
    (wanted : (guard.run handle s b).session.isWanted token = true) :
    (proceed token route n (guard :: guards)).run handle s b =
      let r := guard.run handle s b
      let r' := (proceed token route n guards).run handle r.session r.backend
      { r' with notices := r.notices ++ r'.notices } := by
  simp only [proceed, Flow.bind_eq, Flow.run_bind, run_runGuards_allow guards allowed wanted,
    List.append_assoc]

theorem run_proceed_deny {guard : Flow Decision} (guards : List (Flow Decision))
    {redirect : Redirect} (denied : (guard.run handle s b).value = .denyRedirect redirect)
    (wanted : (guard.run handle s b).session.isWanted token = true) :
    (proceed token route n (guard :: guards)).run handle s b =
      { guard.run handle s b with value := .redirected redirect } := by
  simp [proceed, Flow.run_bind, run_runGuards_deny guards denied wanted]

theorem run_proceed_nil : (proceed token route n []).run handle s b =
    (arrive token route n).run handle s b := rfl

theorem run_arrive_plain (plain : route.resolveProject = false)
    (wanted : s.isWanted token = true) :
    (arrive token route n).run handle s b = ⟨.activated route n.params none, [], s, b⟩ := by
  simp [arrive, plain, run_settle, wanted]

theorem run_arrive_project {id : Int64} (resolves : route.resolveProject = true)
    (named : n.projectId? = some id) (wanted : s.isWanted token = true) :
    (arrive token route n).run handle s b =
      ⟨match b.readable? id with
        | some p => .activated route n.params (some (.resolve p s.user))
        | none => .redirected (.ofPath projectListPath),
        [], s, b.after [.project id]⟩ := by
  cases read : b.readable? id <;>
    simp [arrive, resolves, Flow.run_bind, run_resolveProject named, read, run_settle, wanted,
      record_eq]

theorem run_visit_checked (settings : GuardSettings) (n : Navigation)
    (checked : route.authCheck = true) (wanted : s.isWanted token = true) :
    (visit settings token route n).run handle s b =
      let s' := { s with user := s.caller b }
      let b' := b.after (identityCalls s.user)
      if (s.caller b).isSome || isGuestPath n.url || isOpenUrl n.url then
        let r := (proceed token route n (route.guards.map (·.check settings n))).run handle s' b'
        { r with notices := checkNotices settings ++ r.notices }
      else
        ⟨.redirected ⟨signInPath, [(redirectUrlParam, n.url)]⟩, checkNotices settings, s', b'⟩ := by
  have chain : guards settings route n =
      authCheck settings n :: route.guards.map (·.check settings n) := by
    simp [guards, checked]
  have check : (authCheck settings n).run handle s b = _ := run_authCheck
  rw [identify_eq] at check
  have still : ((authCheck settings n).run handle s b).session.isWanted token = true := by
    rw [check]
    exact (Session.isWanted_congr rfl token).trans wanted
  rw [visit_eq, chain]
  split
  · rename_i enters
    rw [run_proceed_allow _ (by rw [check]; exact if_pos enters) still, check]
    rfl
  · rename_i stops
    rw [run_proceed_deny _ (by rw [check]; exact if_neg stops) still, check]
    rfl

theorem run_proceed_last {guard : Flow Decision} {d : Decision} {s' : Session} {b' : MemoryBackend}
    (runs : guard.run handle s b = ⟨d, [], s', b'⟩) (plain : route.resolveProject = false)
    (wanted : s'.isWanted token = true) :
    (proceed token route n [guard]).run handle s b =
      ⟨d.denial.getD (.activated route n.params none), [], s', b'⟩ := by
  have still : (guard.run handle s b).session.isWanted token = true := by
    rw [runs]
    exact wanted
  cases d with
  | allow =>
    rw [run_proceed_allow [] (by rw [runs]) still, runs]
    dsimp only
    rw [run_proceed_nil, run_arrive_plain plain wanted]
    rfl
  | denyRedirect redirect =>
    rw [run_proceed_deny [] (by rw [runs]) still, runs]
    rfl

theorem run_signOut_alone (s : Session) (b : MemoryBackend) :
    signOut.run handle s b =
      ⟨if b.signOutFails then .denyRedirect (.ofPath signInPath) else .allow, [], s.clear,
        { b with
          user := if b.signOutFails then b.user else none
          log := b.log ++ [.signOut] }⟩ := by
  rw [Flow.run_signOut]
  cases fails : b.signOutFails <;> simp [handle, answer, reply, record, fails]

theorem run_proceed_signIn (settings : GuardSettings) (n : Navigation)
    (plain : route.resolveProject = false) (identified : s.caller b = s.user)
    (wanted : s.isWanted token = true) :
    let u := Upshot.signIn settings route n b s.user s.projectMembers
    (proceed token route n [signInGuard settings n]).run handle s b =
      ⟨u.outcome, [], u.session s, u.registry b⟩ := by
  cases signingOut : n.isSigningOut with
  | true =>
    have guard : signInGuard settings n = signOut := by simp [signInGuard, signingOut]
    have cleared : s.clear.isWanted token = true := (Session.isWanted_congr rfl token).trans wanted
    rw [guard, run_proceed_last (run_signOut_alone s b) plain cleared]
    cases fails : b.signOutFails <;>
      simp [Upshot.signIn, Upshot.session, Upshot.registry, signingOut, fails, Decision.denial]
  | false =>
    have looks := run_signInGuard settings (s := s) (b := b) signingOut
    rw [identified, identify_eq] at looks
    rw [run_proceed_last looks plain wanted]
    cases known : s.user <;>
      simp [Upshot.signIn, Upshot.session, Upshot.registry, signingOut, known, Decision.denial,
        GuardSettings.landing, after]

theorem run_proceed_admin (settings : GuardSettings) (n : Navigation)
    (plain : route.resolveProject = false) (identified : s.caller b = s.user)
    (wanted : s.isWanted token = true) :
    let u := Upshot.admin settings route n s.user s.projectMembers
    (proceed token route n [systemAdminGuard settings n]).run handle s b =
      ⟨u.outcome, [], u.session s, u.registry b⟩ := by
  have looks : (systemAdminGuard settings n).run handle s b = _ := run_systemAdminGuard
  rw [identified, identify_eq] at looks
  rw [run_proceed_last looks plain wanted]
  cases known : s.user with
  | none =>
    simp [Upshot.admin, Upshot.session, Upshot.registry, known, adminDenial, Decision.denial,
      signInRedirect, after]
  | some u =>
    cases admin : u.admin <;>
      simp [Upshot.admin, Upshot.session, Upshot.registry, known, adminDenial, admin,
        Decision.denial, GuardSettings.landing, after]

theorem run_memberGuard_identified {id : Int64} (named : n.projectId? = some id)
    (identified : s.caller b = s.user) :
    (memberGuard settings n).run handle s b =
      ⟨if b.admits s.user id then .allow else settings.landing, [],
        { s with projectMembers := (Upshot.listed b s.user id).getD [] },
        b.after (Upshot.memberCalls b s.user id)⟩ := by
  rw [run_memberGuard named, identified, identify_eq]
  cases s.user with
  | none =>
    cases shown : b.isOpen id <;>
      simp [run_publicFallback, admits, Upshot.listed, Upshot.memberCalls, identityCalls, record_eq,
        shown]
  | some u =>
    cases shown : b.members.lookup id <;>
      simp [run_checkMemberStatus, admits, Upshot.listed, Upshot.memberCalls, identityCalls,
        record_eq, shown]

theorem run_proceed_member (settings : GuardSettings) (n : Navigation)
    (resolves : route.resolveProject = true) (identified : s.caller b = s.user)
    (wanted : s.isWanted token = true) :
    let u := Upshot.member settings route n b s.user
    (proceed token route n [memberGuard settings n]).run handle s b =
      ⟨u.outcome, [], u.session s, u.registry b⟩ := by
  have cleared (members : List ProjectMember) :
      ({ s with projectMembers := members } : Session).isWanted token = true :=
    (Session.isWanted_congr rfl token).trans wanted
  cases named : n.projectId? with
  | none =>
    have runs : (memberGuard settings n).run handle s b = _ := run_memberGuard_unnamed named
    rw [run_proceed_deny [] (by rw [runs]; rfl) (by rw [runs]; exact cleared []), runs]
    simp [Upshot.member, named, Upshot.session_of_lasting, Upshot.registry_of_lasting]
  | some id =>
    have runs : (memberGuard settings n).run handle s b = _ :=
      run_memberGuard_identified named identified
    have still := cleared ((Upshot.listed b s.user id).getD [])
    have page : Upshot.member settings route n b s.user =
        Upshot.project settings route n b s.user id := by
      simp only [Upshot.member, named]
    simp only [page, Upshot.session_of_lasting, Upshot.registry_of_lasting, Upshot.project]
    by_cases admitted : b.admits s.user id
    · rw [if_pos admitted] at runs
      rw [run_proceed_allow [] (by rw [runs]) (by rw [runs]; exact still), runs]
      dsimp only
      rw [run_proceed_nil, run_arrive_project resolves named still]
      simp [admitted]
    · rw [if_neg admitted] at runs
      rw [run_proceed_deny [] (by rw [runs]; rfl) (by rw [runs]; exact still), runs]
      simp [admitted]

theorem run_proceed (settings : GuardSettings) (n : Navigation) (onTable : route ∈ Route.table)
    (isPage : route.redirectTo = none) (checked : route.authCheck = true)
    (identified : s.caller b = s.user) (wanted : s.isWanted token = true) :
    let u := Upshot.admitted settings route n b s.user s.projectMembers
    (proceed token route n (route.guards.map (·.check settings n))).run handle s b =
      ⟨u.outcome, [], u.session s, u.registry b⟩ := by
  rcases Route.table_checkedPages route onTable isPage checked with
    ⟨guarded, plain⟩ | ⟨guarded, plain⟩ | ⟨guarded, plain⟩ | ⟨guarded, resolves⟩
  all_goals simp only [guarded, Upshot.admitted, List.map_cons, List.map_nil, GuardKind.check]
  · rw [run_proceed_nil, run_arrive_plain plain wanted]
    simp [Upshot.list, Upshot.session, Upshot.registry]
  · exact run_proceed_signIn settings n plain identified wanted
  · exact run_proceed_admin settings n plain identified wanted
  · exact run_proceed_member settings n resolves identified wanted

def checkedPage? (target : String) : Option (Route × Navigation) :=
  match Navigation.parse target with
  | .error _ => none
  | .ok n =>
    match Route.find? n.path with
    | none => none
    | some (route, params) =>
      if route.redirectTo = none ∧ route.authCheck = true then some (route, { n with params })
      else none

variable {target : String}

theorem checkedPage?_eq_some (page : checkedPage? target = some (route, n)) :
    ∃ m params, Navigation.parse target = .ok m ∧ Route.find? m.path = some (route, params) ∧
      route.redirectTo = none ∧ route.authCheck = true ∧ n = { m with params } := by
  unfold checkedPage? at page
  split at page
  · cases page
  rename_i m parsed
  split at page
  · cases page
  rename_i route' params found
  split at page
  · rename_i checks
    cases page
    exact ⟨m, params, parsed, found, checks.1, checks.2, rfl⟩
  · cases page

theorem checkedPage?_of_find {m : Navigation} {params : List (String × String)}
    (parsed : Navigation.parse target = .ok m) (found : Route.find? m.path = some (route, params))
    (isPage : route.redirectTo = none) (checked : route.authCheck = true) :
    checkedPage? target = some (route, { m with params }) := by
  simp [checkedPage?, parsed, found, isPage, checked]

theorem run_page (mode : NavigationMode) (settings : GuardSettings)
    (page : checkedPage? target = some (route, n)) (s : Session) (b : MemoryBackend) :
    let u := upshot settings route n b (s.caller b) s.projectMembers
    (mode.flow settings target).run handle s b =
      ⟨u.outcome, checkNotices settings, u.session { mode.enter s with user := s.caller b },
        u.registry (b.after (identityCalls s.user))⟩ := by
  obtain ⟨m, params, parsed, found, isPage, checked, rfl⟩ := checkedPage?_eq_some page
  rw [run_of_find mode parsed found isPage,
    run_visit_checked settings _ checked (mode.isWanted_enter s)]
  simp only [mode.enter_caller, mode.enter_user, upshot]
  split
  · have identified : ({ mode.enter s with user := s.caller b } : Session).caller
        (b.after (identityCalls s.user)) = s.caller b := by
      have known := caller_identified (s := mode.enter s) (b := b)
      rwa [identify_eq, mode.enter_user, mode.enter_caller] at known
    have wanted : ({ mode.enter s with user := s.caller b } : Session).isWanted (mode.token s) =
        true :=
      (Session.isWanted_congr rfl _).trans (mode.isWanted_enter s)
    rw [run_proceed settings _ (Route.find?_eq_some found).1 isPage checked identified wanted,
      mode.enter_projectMembers, List.append_nil]
    rfl
  · simp [Upshot.denied, Upshot.session, Upshot.registry, after]

theorem run_elsewhere (settings : GuardSettings) (elsewhere : checkedPage? target = none) :
    ∃ outcome, ∀ (mode : NavigationMode) (s : Session) (b : MemoryBackend),
      (mode.flow settings target).run handle s b = ⟨outcome, [], mode.enter s, b⟩ := by
  rcases go_done_or_page settings target with
    ⟨outcome, answer, -⟩ | ⟨m, route, params, parsed, found, isPage⟩
  · exact ⟨outcome, fun mode s b => by rw [mode.run_flow, answer, Flow.run]⟩
  have unchecked : route.authCheck = false := by
    simpa [checkedPage?, parsed, found, isPage] using elsewhere
  obtain ⟨unguarded, plain⟩ :=
    Route.table_unchecked route (Route.find?_eq_some found).1 unchecked
  refine ⟨.activated route params none, fun mode s b => ?_⟩
  have chain : guards settings route { m with params } = [] := by simp [guards, unchecked, unguarded]
  rw [run_of_find mode parsed found isPage, visit_eq, chain, run_proceed_nil,
    run_arrive_plain plain (mode.isWanted_enter s)]

theorem isOpenUrl_of_page (page : checkedPage? target = some (.signInPage, n)) :
    isOpenUrl n.url = true := by
  obtain ⟨m, params, parsed, found, -, -, rfl⟩ := checkedPage?_eq_some page
  have isOpen : isOpenUrl m.url = true :=
    isOpenUrl_signInPage parsed (Route.trimSlashes_of_signIn found)
  exact isOpen

theorem upshot_signOut (settings : GuardSettings)
    (page : checkedPage? target = some (.signInPage, n)) (signingOut : n.isSigningOut = true)
    (b : MemoryBackend) (user : Option CurrentUser) (members : List ProjectMember) :
    upshot settings .signInPage n b user members =
      { outcome := if b.signOutFails then .redirected (.ofPath signInPath)
          else .activated .signInPage n.params none
        members := []
        ended := true
        calls := [.signOut] } := by
  rw [upshot, isOpenUrl_of_page page, Bool.or_true, if_pos rfl]
  exact if_pos signingOut

theorem eq_signInPage (page : checkedPage? target = some (route, n))
    (guarded : .signIn ∈ route.guards) : route = .signInPage := by
  obtain ⟨m, params, -, found, -, -, -⟩ := checkedPage?_eq_some page
  exact Route.table_signIn route (Route.find?_eq_some found).1 guarded

theorem upshot_lasting (settings : GuardSettings) (page : checkedPage? target = some (route, n))
    (lasts : ¬(route = .signInPage ∧ n.isSigningOut = true)) (b : MemoryBackend)
    (user : Option CurrentUser) (members : List ProjectMember) :
    let u := upshot settings route n b user members
    u.ended = false ∧ upshot settings route n b user u.members = u := by
  intro u
  have enters (members' : List ProjectMember) :
      upshot settings route n b user members' =
        if user.isSome || isGuestPath n.url || isOpenUrl n.url then
          .admitted settings route n b user members'
        else .denied n members' := rfl
  by_cases admitted : (user.isSome || isGuestPath n.url || isOpenUrl n.url) = true
  · simp only [u, enters, if_pos admitted, Upshot.admitted]
    split
    · rename_i guarded
      have atSignIn := eq_signInPage page (by rw [guarded]; exact List.mem_cons_self)
      have staying : n.isSigningOut = false := by
        simpa using fun signingOut => lasts ⟨atSignIn, signingOut⟩
      simp [Upshot.signIn, staying]
    · cases named : n.projectId? <;> simp [Upshot.member, Upshot.project, named]
    · exact ⟨rfl, rfl⟩
    · exact ⟨rfl, rfl⟩
  · simp only [u, enters, if_neg admitted]
    exact ⟨rfl, rfl⟩

theorem run_page_signOut (mode : NavigationMode) (settings : GuardSettings)
    (page : checkedPage? target = some (.signInPage, n)) (signingOut : n.isSigningOut = true)
    (s : Session) (b : MemoryBackend) :
    (mode.flow settings target).run handle s b =
      ⟨if b.signOutFails then .redirected (.ofPath signInPath)
          else .activated .signInPage n.params none,
        checkNotices settings, (mode.enter s).clear,
        { b with
          user := if b.signOutFails then b.user else none
          log := b.log ++ (identityCalls s.user ++ [.signOut]) }⟩ := by
  rw [run_page mode settings page, upshot_signOut settings page signingOut]
  cases fails : b.signOutFails <;>
    simp [Upshot.session, Upshot.registry, after, fails, Session.clear]

theorem run_page_lasting (mode : NavigationMode) (settings : GuardSettings)
    (page : checkedPage? target = some (route, n))
    (lasts : ¬(route = .signInPage ∧ n.isSigningOut = true)) (s : Session) (b : MemoryBackend) :
    let u := upshot settings route n b (s.caller b) s.projectMembers
    (mode.flow settings target).run handle s b =
      ⟨u.outcome, checkNotices settings,
        { mode.enter s with user := s.caller b, projectMembers := u.members },
        b.after (identityCalls s.user ++ u.calls)⟩ := by
  intro u
  have ended : u.ended = false := (upshot_lasting settings page lasts b _ _).1
  rw [run_page mode settings page]
  simp only [u] at ended
  rw [Upshot.session_of_lasting ended, Upshot.registry_of_lasting ended, after_after]

inductive Course (target : String) : Prop where
  | elsewhere (page : checkedPage? target = none)
  | signOut (n : Navigation) (page : checkedPage? target = some (.signInPage, n))
      (signingOut : n.isSigningOut = true)
  | lasting (route : Route) (n : Navigation) (page : checkedPage? target = some (route, n))
      (lasts : ¬(route = .signInPage ∧ n.isSigningOut = true))

theorem course (target : String) : Course target := by
  cases page : checkedPage? target with
  | none => exact .elsewhere page
  | some pair =>
    obtain ⟨route, n⟩ := pair
    by_cases ending : route = .signInPage ∧ n.isSigningOut = true
    · obtain ⟨rfl, signingOut⟩ := ending
      exact .signOut n page signingOut
    · exact .lasting route n page ending

end Navigator

end ConsoleGateway
