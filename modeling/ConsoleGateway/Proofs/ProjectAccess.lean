import ConsoleGateway.Proofs.Alone
import ConsoleGateway.Proofs.Pages

namespace ConsoleGateway

namespace MemoryBackend

def admits (b : MemoryBackend) (caller : Option CurrentUser) (id : Int64) : Bool :=
  (caller.isSome && (b.members.lookup id).isSome) || b.isOpen id

variable {b : MemoryBackend} {s : Session}

@[simp] theorem admits_identify : (b.identify s).admits = b.admits := by
  funext caller id
  simp [admits]

theorem memberGuard_spec (settings : GuardSettings) (n : Navigation) :
    let r := (memberGuard settings n).run handle s b
    r.value = (if n.projectId?.any (b.admits (s.caller b)) then .allow else settings.landing) ∧
      r.session.begun = s.begun ∧
      (n.projectId? ≠ none → r.session.user = s.caller b ∧ r.backend.readable? = b.readable?) := by
  cases named : n.projectId? with
  | none => simp [run_memberGuard_unnamed named]
  | some id =>
    simp only [run_memberGuard named, run_checkMemberStatus, run_publicFallback, identify_members]
    cases known : s.caller b with
    | none => simp [admits]
    | some u => cases listed : b.members.lookup id <;> simp [admits, listed]

end MemoryBackend

theorem Route.table_projectPages : ∀ route ∈ table, route.resolveProject = true →
    route.authCheck = true ∧ route.guards = [.member] ∧ route.redirectTo = none := by
  decide

namespace Navigator

open MemoryBackend

variable {b : MemoryBackend} {s : Session} {settings : GuardSettings} {n : Navigation}
  {token : Option Token} {route : Route}

theorem projectGuards_spec (settings : GuardSettings) (wanted : s.isWanted token = true)
    (notOpen : isOpenUrl n.url = false) :
    let r := (runGuards token [authCheck settings n, memberGuard settings n]).run handle s b
    r.value =
        (if (s.caller b).isSome || isGuestPath n.url then
          if n.projectId?.any (b.admits (s.caller b)) then none
          else some (.redirected (.ofPath settings.defaultLanding))
        else some (.redirected ⟨signInPath, [(redirectUrlParam, n.url)]⟩)) ∧
      (r.value = none → r.session.user = s.caller b ∧ r.session.isWanted token = true ∧
        r.backend.readable? = b.readable?) := by
  intro r
  obtain ⟨hvalue, hbegun, hrest⟩ := memberGuard_spec (b := b.identify s)
    (s := { s with user := s.caller b }) settings n
  simp only [caller_identified, admits_identify] at hvalue hrest
  by_cases enters : (s.caller b).isSome || isGuestPath n.url
  · obtain ⟨hdenial, hsession, hbackend⟩ := run_checked settings n _ wanted enters hbegun
    simp only [r, hdenial, hsession, hbackend, hvalue, enters, if_true]
    by_cases admitted : n.projectId?.any (b.admits (s.caller b))
    · have named : n.projectId? ≠ none := by
        intro unnamed
        simp [unnamed] at admitted
      obtain ⟨huser, hreadable⟩ := hrest named
      have still := (Session.isWanted_congr hbegun token).trans wanted
      simp [admitted, Decision.denial, huser, hreadable, still]
    · simp [admitted, Decision.denial, GuardSettings.landing]
  · have stops := run_checked_stranger settings (memberGuard settings n) wanted
      (Bool.eq_false_iff.2 enters) notOpen
    simp [r, stops, enters]

theorem run_arrive_projectPage {id : Int64} (wanted : s.isWanted token = true)
    (resolves : route.resolveProject = true) (named : n.projectId? = some id) :
    ((arrive token route n).run handle s b).value =
      match b.readable? id with
      | some p => .activated route n.params (some (.resolve p s.user))
      | none => .redirected (.ofPath projectListPath) := by
  cases read : b.readable? id <;>
    simp [arrive, resolves, Flow.run_bind, run_resolveProject named, read, run_settle, wanted]

def projectPageOutcome (settings : GuardSettings) (route : Route) (n : Navigation)
    (caller : Option CurrentUser) (b : MemoryBackend) : Outcome :=
  if caller.isSome || isGuestPath n.url then
    match n.projectId? with
    | none => .redirected (.ofPath settings.defaultLanding)
    | some id =>
      if b.admits caller id then
        match b.readable? id with
        | some p => .activated route n.params (some (.resolve p caller))
        | none => .redirected (.ofPath projectListPath)
      else .redirected (.ofPath settings.defaultLanding)
  else .redirected ⟨signInPath, [(redirectUrlParam, n.url)]⟩

theorem visit_projectPage (wanted : s.isWanted token = true) (checked : route.authCheck = true)
    (guarded : route.guards = [.member]) (resolves : route.resolveProject = true)
    (notOpen : isOpenUrl n.url = false) :
    ((visit settings token route n).run handle s b).value =
      projectPageOutcome settings route n (s.caller b) b := by
  have chain : guards settings route n = [authCheck settings n, memberGuard settings n] := by
    simp [guards, checked, guarded, GuardKind.check]
  obtain ⟨hvalue, hrest⟩ := projectGuards_spec settings wanted notOpen
  rw [← chain] at hvalue hrest
  unfold projectPageOutcome
  by_cases enters : (s.caller b).isSome || isGuestPath n.url
  · rw [if_pos enters] at hvalue ⊢
    cases named : n.projectId? with
    | none => simp [run_visit_of_denied (by rw [hvalue, named]; rfl)]
    | some id =>
      rw [named, Option.any_some] at hvalue
      by_cases admitted : b.admits (s.caller b) id
      · rw [if_pos admitted] at hvalue
        obtain ⟨huser, hwanted, hreadable⟩ := hrest hvalue
        rw [run_visit_of_allowed hvalue]
        simp only [run_arrive_projectPage hwanted resolves named, huser, hreadable, admitted,
          if_true]
      · rw [if_neg admitted] at hvalue
        simp only [run_visit_of_denied hvalue, admitted, Bool.false_eq_true, if_false]
  · rw [if_neg enters] at hvalue ⊢
    rw [run_visit_of_denied hvalue]

theorem run_projectPage (mode : NavigationMode) {target : String}
    {params : List (String × String)} (parsed : Navigation.parse target = .ok n)
    (found : Route.find? n.path = some (route, params)) (resolves : route.resolveProject = true) :
    ((mode.flow settings target).run handle s b).value =
      projectPageOutcome settings route { n with params } (s.caller b) b := by
  obtain ⟨checked, guarded, isPage⟩ :=
    Route.table_projectPages route (Route.find?_eq_some found).1 resolves
  have notOpen : isOpenUrl n.url = false :=
    isOpenUrl_eq_false parsed found checked isPage (by simp [guarded])
  rw [run_of_find mode parsed found isPage, ← mode.enter_caller]
  exact visit_projectPage (mode.isWanted_enter s) checked guarded resolves notOpen

/-- A page of a project is shown exactly when its path names a project, the caller is known or the
url is a guest page, the caller may see the project's members or the project is public, and the
project can be read. It then shows that project for that caller; otherwise the first condition that
fails decides where the caller is sent. -/
theorem projectPage_outcome {mode : NavigationMode} {target : String}
    {params : List (String × String)} (keyed : b.Keyed) (parsed : Navigation.parse target = .ok n)
    (found : Route.find? n.path = some (route, params))
    (isProjectPage : route.resolveProject = true) :
    let caller := s.caller b
    let id? := (params.lookup "id").bind Integer.int64?
    let outcome := ((mode.flow settings target).run handle s b).value
    let enters := caller.isSome = true ∨ isGuestPath n.url = true
    let admitted := ∃ id, id? = some id ∧
      (caller.isSome = true ∧ (b.members.lookup id).isSome = true ∨
        ∃ p, b.readable? id = some p ∧ p.isPublic = true)
    let readable := ∃ id p, id? = some id ∧ b.readable? id = some p
    ((∃ r ps project, outcome = .activated r ps project) ↔ enters ∧ admitted ∧ readable) ∧
      (∀ r ps project, outcome = .activated r ps project →
        r = route ∧ ps = params ∧ ∃ id p, id? = some id ∧ b.readable? id = some p ∧ p.id = id ∧
          project = some (.resolve p caller)) ∧
      (¬enters → outcome = .redirected ⟨signInPath, [(redirectUrlParam, n.url)]⟩) ∧
      (enters → ¬admitted → outcome = .redirected (.ofPath settings.defaultLanding)) ∧
      (enters → admitted → ¬readable → outcome = .redirected (.ofPath projectListPath)) := by
  intro caller id? outcome enters admitted readable
  have houtcome : outcome = projectPageOutcome settings route { n with params } caller b :=
    run_projectPage mode parsed found isProjectPage
  have hid : ({ n with params } : Navigation).projectId? = id? := rfl
  have hadmits : ∀ id, (caller.isSome = true ∧ (b.members.lookup id).isSome = true ∨
      ∃ p, b.readable? id = some p ∧ p.isPublic = true) ↔ b.admits caller id = true := by
    intro id
    simp [MemoryBackend.admits, MemoryBackend.isOpen, Option.any_eq_true]
  simp only [houtcome, projectPageOutcome, hid, enters, admitted, readable, hadmits,
    Bool.or_eq_true]
  by_cases henters : caller.isSome = true ∨ isGuestPath n.url = true
  · simp only [henters, if_true, true_and, not_true_eq_false, false_implies, true_implies]
    cases named : id? with
    | none => simp
    | some id =>
      cases hallowed : b.admits caller id with
      | false => simp [hallowed]
      | true =>
        cases read : b.readable? id with
        | none => simp [hallowed, read]
        | some p =>
          simp only [hallowed, read, if_true]
          refine ⟨⟨fun _ => ⟨⟨id, rfl, hallowed⟩, id, p, rfl, read⟩, fun _ => ⟨_, _, _, rfl⟩⟩,
            fun r ps project activated => ?_, fun refused => ?_, fun _ unreadable => ?_⟩
          · cases activated
            exact ⟨rfl, rfl, id, p, rfl, read, keyed.id_eq read, rfl⟩
          · exact absurd ⟨id, rfl, hallowed⟩ refused
          · exact absurd ⟨id, p, rfl, read⟩ unreadable
  · simp [henters]

def oneProject : MemoryBackend :=
  { user := some ⟨3, "ann", false⟩
    projects := [(7, ⟨7, "library", false, 2⟩)]
    members := [(7, [])] }

theorem projectPage_outcome_member :
    oneProject.Keyed ∧ ∃ r ps,
      ((NavigationMode.navigate.flow {}
        "/harbor/projects/7/members?project_id=8").run handle {} oneProject).value =
          .activated r ps
            (some (.resolve ⟨7, "library", false, 2⟩ (some ⟨3, "ann", false⟩))) := by
  have keyed : oneProject.Keyed := by
    intro pair hpair
    simp [oneProject] at hpair
    rw [hpair]
  obtain ⟨activates, shows, -⟩ := @projectPage_outcome oneProject {} {} _ _ .navigate
    "/harbor/projects/7/members?project_id=8" _ keyed rfl rfl rfl
  obtain ⟨r, ps, project, h⟩ :=
    activates.2 ⟨.inl rfl, ⟨7, rfl, .inl ⟨rfl, rfl⟩⟩, ⟨7, _, rfl, rfl⟩⟩
  obtain ⟨-, -, id, p, hid, hp, -, rfl⟩ := shows r ps project h
  cases hid
  cases hp
  exact ⟨keyed, r, ps, h⟩

end Navigator

end ConsoleGateway
