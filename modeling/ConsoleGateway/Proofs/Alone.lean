import ConsoleGateway.Backend.Scripted
import ConsoleGateway.Proofs.Run

namespace ConsoleGateway

/-- Whom a navigation runs for: the user remembered, or else the one that the registry names. -/
def Session.caller (s : Session) (b : MemoryBackend) : Option CurrentUser := s.user.or b.user

@[simp] theorem NavigationMode.enter_caller (mode : NavigationMode) (s : Session)
    (b : MemoryBackend) : (mode.enter s).caller b = s.caller b := by
  simp [Session.caller]

namespace MemoryBackend

def handle : Flow.Handler MemoryBackend := fun c s b => ((b.answer c).1, s, (b.answer c).2)

def readable? (b : MemoryBackend) (id : Int64) : Option Project :=
  if b.projectsUnreachable then none else b.projects.lookup id

def unreadable (b : MemoryBackend) (id : Int64) : GuardError :=
  if b.projectsUnreachable then refused else .projectNotFound id

def isOpen (b : MemoryBackend) (id : Int64) : Bool := (b.readable? id).any (·.isPublic)

/-- Every project is kept under its own number. -/
def Keyed (b : MemoryBackend) : Prop := ∀ pair ∈ b.projects, pair.2.id = pair.1

def identify (b : MemoryBackend) (s : Session) : MemoryBackend :=
  if s.user.isSome then b else b.record .currentUser

variable {b : MemoryBackend} {s : Session} {settings : GuardSettings} {n : Navigation}

theorem Keyed.id_eq (h : b.Keyed) {id : Int64} {p : Project} (hp : b.readable? id = some p) :
    p.id = id := by
  unfold readable? at hp
  split at hp
  · cases hp
  · obtain ⟨before, after, hsplit, -⟩ := List.lookup_eq_some_iff.1 hp
    exact h (id, p) (by simp [hsplit])

@[simp] theorem readable?_record (c : BackendCall) : (b.record c).readable? = b.readable? := rfl

@[simp] theorem isOpen_record (c : BackendCall) : (b.record c).isOpen = b.isOpen := rfl

@[simp] theorem record_members (c : BackendCall) : (b.record c).members = b.members := rfl

@[simp] theorem record_user (c : BackendCall) : (b.record c).user = b.user := rfl

@[simp] theorem readable?_identify : (b.identify s).readable? = b.readable? := by
  unfold identify; split <;> rfl

@[simp] theorem isOpen_identify : (b.identify s).isOpen = b.isOpen := by
  unfold identify; split <;> rfl

@[simp] theorem identify_members : (b.identify s).members = b.members := by
  unfold identify; split <;> rfl

@[simp] theorem identify_user : (b.identify s).user = b.user := by
  unfold identify; split <;> rfl

@[simp] theorem caller_identified :
    ({ s with user := s.caller b } : Session).caller (b.identify s) = s.caller b := by
  simp only [Session.caller, identify_user]
  cases s.user <;> simp

theorem handle_project (id : Int64) :
    handle (.project id) s b =
      (match b.readable? id with
        | some p => .ok p
        | none => .error (b.unreadable id), s, b.record (.project id)) := by
  cases reach : b.projectsUnreachable <;> cases found : b.projects.lookup id <;>
    simp [handle, answer, reply, record, readable?, unreadable, reach, found]

theorem handle_projectMembers (id : Int64) :
    handle (.projectMembers id) s b =
      (match b.members.lookup id with
        | some ms => .ok ms
        | none => .error (.notAMember id), s, b.record (.projectMembers id)) := rfl

theorem run_knownUser :
    Flow.knownUser.run handle s b =
      ⟨s.caller b, [], { s with user := s.caller b }, b.identify s⟩ := by
  obtain ⟨user, members, begun⟩ := s
  cases user with
  | some u => simp [Flow.knownUser, Session.caller, identify]
  | none =>
    cases known : b.user <;>
      simp [Flow.knownUser, Flow.retrieveUser, Session.caller, identify, handle, answer, reply,
        record, known]

theorem run_authCheck :
    (authCheck settings n).run handle s b =
      ⟨if (s.caller b).isSome || isGuestPath n.url || isOpenUrl n.url then .allow
        else signInRedirect n.url,
        .clearMessages :: ((if settings.readOnly then [.readOnly] else []) ++ [.closeSearch]),
        { s with user := s.caller b }, b.identify s⟩ := by
  cases warn : settings.readOnly <;> cases known : s.caller b <;>
    cases guest : isGuestPath n.url <;> cases isOpen : isOpenUrl n.url <;>
    simp [authCheck, Flow.run_bind, run_knownUser, warn, known, guest, isOpen]

theorem run_publicFallback (id : Int64) :
    (publicFallback settings id).run handle s b =
      ⟨if b.isOpen id then .allow else settings.landing, [], s, b.record (.project id)⟩ := by
  cases read : b.readable? id <;> simp [publicFallback, handle_project, isOpen, read]

theorem run_checkMemberStatus (id : Int64) :
    (checkMemberStatus settings id).run handle s b =
      match b.members.lookup id with
      | some ms => ⟨.allow, [], { s with projectMembers := ms }, b.record (.projectMembers id)⟩
      | none =>
        ⟨if b.isOpen id then .allow else settings.landing, [], s,
          (b.record (.projectMembers id)).record (.project id)⟩ := by
  cases listed : b.members.lookup id with
  | none =>
    simp only [checkMemberStatus, Flow.bind_eq, Flow.call, Flow.bind, Flow.run,
      handle_projectMembers, listed, run_publicFallback]
    rfl
  | some ms => simp [checkMemberStatus, handle_projectMembers, listed]

theorem run_memberGuard {id : Int64} (named : n.projectId? = some id) :
    (memberGuard settings n).run handle s b =
      if (s.caller b).isSome then
        (checkMemberStatus settings id).run handle
          { s with user := s.caller b, projectMembers := [] } (b.identify s)
      else (publicFallback settings id).run handle
        { s with user := none, projectMembers := [] } (b.identify s) := by
  have same : ({ s with projectMembers := [] } : Session).caller b = s.caller b := rfl
  have asked : b.identify { s with projectMembers := [] } = b.identify s := rfl
  cases known : s.caller b <;>
    simp [memberGuard, named, Flow.run_bind, run_knownUser, same, asked, known]

theorem run_memberGuard_unnamed (unnamed : n.projectId? = none) :
    (memberGuard settings n).run handle s b =
      ⟨settings.landing, [], { s with projectMembers := [] }, b⟩ := by
  simp [memberGuard, unnamed]

theorem run_systemAdminGuard :
    (systemAdminGuard settings n).run handle s b =
      ⟨match s.caller b with
        | some u => if u.admin then .allow else settings.landing
        | none => signInRedirect n.url,
        [], { s with user := s.caller b }, b.identify s⟩ := by
  cases known : s.caller b <;> simp [systemAdminGuard, Flow.run_bind, run_knownUser, known]

theorem run_signInGuard (settings : GuardSettings) {n : Navigation}
    (staying : n.isSigningOut = false) :
    (signInGuard settings n).run handle s b =
      ⟨match s.caller b with
        | some _ => settings.landing
        | none => .allow,
        [], { s with user := s.caller b }, b.identify s⟩ := by
  cases known : s.caller b <;>
    simp [signInGuard, staying, Flow.run_bind, run_knownUser, known]

theorem run_resolveProject {id : Int64} (named : n.projectId? = some id) :
    (resolveProject n).run handle s b =
      ⟨match b.readable? id with
        | some p => .resolved (.resolve p s.user)
        | none => .fallback (.ofPath projectListPath),
        [], s, b.record (.project id)⟩ := by
  obtain ⟨text, hText, hId⟩ := Option.bind_eq_some_iff.1 named
  cases read : b.readable? id <;> simp [resolveProject, hText, hId, handle_project, read]

end MemoryBackend

def Decision.denial : Decision → Option Outcome
  | .allow => none
  | .denyRedirect redirect => some (.redirected redirect)

namespace Navigator

open MemoryBackend

variable {b : MemoryBackend} {s : Session} {settings : GuardSettings} {n : Navigation}
  {token : Option Token} {guard : Flow Decision}

theorem run_checked (settings : GuardSettings) (n : Navigation) (guard : Flow Decision)
    (wanted : s.isWanted token = true)
    (passes : ((s.caller b).isSome || isGuestPath n.url) = true)
    (keeps : (guard.run handle { s with user := s.caller b } (b.identify s)).session.begun =
      s.begun) :
    let r := (runGuards token [authCheck settings n, guard]).run handle s b
    let r' := guard.run handle { s with user := s.caller b } (b.identify s)
    r.value = r'.value.denial ∧ r.session = r'.session ∧ r.backend = r'.backend := by
  intro r r'
  have still : r'.session.isWanted token = true := (Session.isWanted_congr keeps token).trans wanted
  have hr : r = _ := run_runGuards_allow [guard] (by simp [run_authCheck, passes])
    (by rw [run_authCheck]; exact (Session.isWanted_congr rfl token).trans wanted)
  simp only [run_authCheck] at hr
  cases decision : r'.value with
  | allow =>
    rw [run_runGuards_allow [] decision still] at hr
    simp only [runGuards, Flow.pure_eq, Flow.run] at hr
    rw [hr]
    exact ⟨rfl, rfl, rfl⟩
  | denyRedirect redirect =>
    rw [run_runGuards_deny [] decision still] at hr
    rw [hr]
    exact ⟨rfl, rfl, rfl⟩

theorem run_checked_stranger (settings : GuardSettings) (guard : Flow Decision)
    (wanted : s.isWanted token = true)
    (stops : ((s.caller b).isSome || isGuestPath n.url) = false)
    (notOpen : isOpenUrl n.url = false) :
    ((runGuards token [authCheck settings n, guard]).run handle s b).value =
      some (.redirected ⟨signInPath, [(redirectUrlParam, n.url)]⟩) := by
  have denied : ((authCheck settings n).run handle s b).value = signInRedirect n.url := by
    simp [run_authCheck, stops, notOpen]
  rw [run_runGuards_deny [guard] denied
    (by rw [run_authCheck]; exact (Session.isWanted_congr rfl token).trans wanted)]

end Navigator

namespace ScriptedBackend

variable {b : ScriptedBackend} {cookie : Option String} {registry : MemoryBackend}

theorem lookup_replace (value : String) (own : List (String × MemoryBackend)) :
    (own.map fun (v, old) => (v, if v = value then registry else old)).lookup value =
      (own.lookup value).map fun _ => registry := by
  induction own with
  | nil => rfl
  | cons pair own ih =>
    obtain ⟨v, old⟩ := pair
    by_cases h : v = value
    · simp [h]
    · have h' : (value == v) = false := by simpa using Ne.symm h
      simp only [List.map_cons, List.lookup_cons, h', ih]

@[simp] theorem registryOf_setRegistryOf :
    (b.setRegistryOf cookie registry).registryOf cookie = registry := by
  cases cookie with
  | none => simp [setRegistryOf, owns, registryOf]
  | some value =>
    cases owned : b.own.lookup value <;>
      simp [setRegistryOf, owns, registryOf, owned, lookup_replace]

@[simp] theorem arrangements_setRegistryOf :
    (b.setRegistryOf cookie registry).arrangements = b.arrangements := by
  unfold setRegistryOf; split <;> rfl

theorem handle_of_quiet (cookie : Option String) (quiet : b.arrangements = []) (c : BackendCall)
    (s : Session) :
    ∃ b', handle cookie c s b = ((MemoryBackend.handle c s (b.registryOf cookie)).1, s, b') ∧
      b'.registryOf cookie = (MemoryBackend.handle c s (b.registryOf cookie)).2.2 ∧
      b'.arrangements = [] := by
  have passage : (b.issue cookie c).1 = .clear := by simp [issue, quiet]
  have same : (b.issue cookie c).2.registryOf cookie = b.registryOf cookie := rfl
  refine ⟨(((b.issue cookie c).2.arrive cookie c).reply cookie c).2, ?_, ?_, ?_⟩
  · simp [handle, passage, Passage.clear, Passage.disturb, arrive, reply, same,
      MemoryBackend.handle, MemoryBackend.answer]
  · simp [arrive, reply, same, MemoryBackend.handle, MemoryBackend.answer]
  · simp [arrive, reply, issue, quiet]

theorem run_of_quiet (cookie : Option String) (flow : Flow α) (s : Session)
    (quiet : b.arrangements = []) :
    ∃ b', flow.run (handle cookie) s b =
        { flow.run MemoryBackend.handle s (b.registryOf cookie) with backend := b' } ∧
      b'.registryOf cookie = (flow.run MemoryBackend.handle s (b.registryOf cookie)).backend ∧
      b'.arrangements = [] := by
  induction flow generalizing s b with
  | done a => exact ⟨b, rfl, rfl, quiet⟩
  | access update next ih => exact ih _ _ quiet
  | notify notice next ih =>
    obtain ⟨b', hrun, hb⟩ := ih s quiet
    exact ⟨b', by simp only [Flow.run, hrun], hb⟩
  | ask c next ih =>
    obtain ⟨b₁, hcall, hregistry, hquiet⟩ := handle_of_quiet cookie quiet c s
    obtain ⟨b', hrun, hb⟩ := ih _ s hquiet
    rw [hregistry] at hrun hb
    refine ⟨b', ?_, hb⟩
    rw [Flow.run, hcall]
    exact hrun

end ScriptedBackend

end ConsoleGateway
