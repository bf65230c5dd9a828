import ConsoleGateway.Proofs.DeepLink

namespace ConsoleGateway

inductive Keeping where
  | shared
  -- Each load is made on a session of its own.
  | fresh
  deriving DecidableEq, Repr

def Keeping.next : Keeping → Session → Session
  | shared, s => s
  | fresh, _ => {}

theorem Keeping.next_known {keeping : Keeping} {s s' : Session} {b b' : MemoryBackend}
    (known : ((keeping.next s).caller b).isSome) (kept : s'.user = (keeping.next s).caller b)
    (same : b'.user = b.user) : ((keeping.next s').caller b').isSome := by
  cases keeping with
  | shared =>
    rw [Keeping.next, Session.caller, kept, Option.isSome_or, known]
    rfl
  | fresh =>
    rw [Keeping.next, Session.caller, same]
    exact known

def Outcome.isShown : Outcome → Bool
  | .activated .. => true
  | .notFound => true
  | _ => false

namespace Navigator

open MemoryBackend

def loaded (settings : GuardSettings) (target : String) (s : Session) (b : MemoryBackend) :
    Flow.Result Outcome MemoryBackend :=
  (NavigationMode.load.flow settings target).run handle s b

/-- Loads a target and follows so many redirects at most. -/
def follow (settings : GuardSettings) (keeping : Keeping) :
    Nat → String → Session → MemoryBackend → Outcome
  | 0, target, s, b => (loaded settings target s b).value
  | limit + 1, target, s, b =>
    let r := loaded settings target s b
    match r.value with
    | .redirected redirect =>
      follow settings keeping limit redirect.location (keeping.next r.session) r.backend
    | outcome => outcome

variable {settings : GuardSettings} {keeping : Keeping} {limit : Nat} {target : String}
  {s : Session} {b : MemoryBackend} {redirect : Redirect}

theorem follow_of_shown (shown : (loaded settings target s b).value.isShown = true) :
    (follow settings keeping limit target s b).isShown = true := by
  cases limit with
  | zero => exact shown
  | succ limit =>
    rw [follow]
    split
    · rename_i redirected
      rw [redirected] at shown
      cases shown
    · exact shown

theorem follow_of_redirected
    (redirected : (loaded settings target s b).value = .redirected redirect) :
    follow settings keeping (limit + 1) target s b =
      let r := loaded settings target s b
      follow settings keeping limit redirect.location (keeping.next r.session) r.backend := by
  simp only [follow, redirected]

theorem follow_succ (shown : (follow settings keeping limit target s b).isShown = true) :
    (follow settings keeping (limit + 1) target s b).isShown = true := by
  induction limit generalizing target s b with
  | zero => exact follow_of_shown shown
  | succ limit ih =>
    cases answer : (loaded settings target s b).value with
    | redirected redirect =>
      rw [follow_of_redirected answer] at shown ⊢
      exact ih shown
    | activated route params project => exact follow_of_shown (by rw [answer]; rfl)
    | notFound => exact follow_of_shown (by rw [answer]; rfl)
    | superseded =>
      simp only [follow, answer] at shown
      cases shown

theorem loaded_signIn (atSignIn : redirect.path = signInPath) :
    loaded settings redirect.location s b =
      (visit settings none .signInPage redirect.toSignIn).run handle s b :=
  Redirect.run_signIn atSignIn .load handle s b

theorem signIn_unknown (issued : redirect.Issued settings target)
    (atSignIn : redirect.path = signInPath) (unknown : s.caller b = none) :
    (loaded settings redirect.location s b).value.isShown = true := by
  obtain ⟨nobody, nameless⟩ := Option.or_eq_none_iff.1 unknown
  rw [loaded_signIn atSignIn, run_signIn_anonymous settings MemoryBackend.anonymous
    (fun _ _ _ => rfl) nobody nameless rfl (Redirect.isOpenUrl_signIn atSignIn)
    issued.isSigningOut_toSignIn]
  rfl

theorem signIn_known (issued : redirect.Issued settings target)
    (atSignIn : redirect.path = signInPath) (known : (s.caller b).isSome) :
    let r := loaded settings redirect.location s b
    r.value = .redirected (.ofPath settings.defaultLanding) ∧ r.session.user = s.caller b ∧
      r.backend.user = b.user := by
  obtain ⟨u, caller⟩ := Option.isSome_iff_exists.1 known
  have sent := run_signInGuard settings (s := { s with user := s.caller b }) (b := b.identify s)
    issued.isSigningOut_toSignIn
  have wanted : s.isWanted none = true := rfl
  have passes : ((s.caller b).isSome || isGuestPath redirect.toSignIn.url) = true := by
    simp [known]
  obtain ⟨value, session, backend⟩ := run_checked settings redirect.toSignIn _ wanted passes
    (by rw [sent])
  rw [sent, show [authCheck settings redirect.toSignIn, signInGuard settings redirect.toSignIn] =
    guards settings .signInPage redirect.toSignIn from rfl] at value session backend
  simp only [caller_identified] at value session backend
  rw [loaded_signIn atSignIn, run_visit_of_denied (by rw [value, caller]; rfl)]
  exact ⟨rfl, congrArg Session.user session, by simp [backend]⟩

theorem list_value : (loaded settings projectListPath s b).value =
    if (s.caller b).isSome then .activated (.page "projects" (Route.underHarbor
      [.literal "projects"]) []) [] none
    else .redirected ⟨signInPath, [(redirectUrlParam, projectListPath)]⟩ := by
  have parsed : Navigation.parse projectListPath =
      .ok ⟨projectListPath, projectListPath, [], []⟩ := by
    decide +kernel
  have plain : isGuestPath projectListPath = false := by decide
  rw [loaded, listPage_outcome parsed rfl (by decide), plain, Bool.or_false]

theorem list_known (known : (s.caller b).isSome) :
    (loaded settings projectListPath s b).value.isShown = true := by
  rw [list_value, if_pos known]
  rfl

theorem list_unknown (settings : GuardSettings) (unknown : s.caller b = none) :
    let r := loaded settings projectListPath s b
    r.value = .redirected ⟨signInPath, [(redirectUrlParam, projectListPath)]⟩ ∧
      r.session.user = none ∧ r.backend.user = none := by
  obtain ⟨nobody, nameless⟩ := Option.or_eq_none_iff.1 unknown
  exact ⟨by rw [list_value, unknown]; rfl, run_flow_anonymous .load settings projectListPath
    MemoryBackend.anonymous (fun _ _ _ => rfl) nobody nameless⟩

theorem root_value :
    loaded settings harborRoot s b = ⟨.redirected (.ofPath signInPath), [], s, b⟩ := by
  have parsed : Navigation.parse harborRoot = .ok ⟨harborRoot, harborRoot, [], []⟩ := by
    decide +kernel
  have answer : go settings none harborRoot = .done (.redirected (.ofPath signInPath)) := by
    simp only [go, parsed]
    rfl
  rw [loaded, NavigationMode.run_flow, NavigationMode.token, answer]
  rfl

theorem loaded_issues (settings : GuardSettings) (target : String) (s : Session)
    (b : MemoryBackend) : (loaded settings target s b).value.Issues settings target none :=
  run_issues .load settings target handle s b

theorem issued_of_redirected
    (redirected : (loaded settings target s b).value = .redirected redirect) :
    redirect.Issued settings target := by
  have issues := loaded_issues settings target s b
  rw [redirected] at issues
  exact issues

theorem follow_list : (follow settings keeping 1 projectListPath s b).isShown = true := by
  cases caller : s.caller b with
  | some u => exact follow_of_shown (list_known (by rw [caller]; rfl))
  | none =>
    obtain ⟨sent, nobody, nameless⟩ := list_unknown settings caller
    rw [follow_of_redirected sent]
    refine follow_of_shown (signIn_unknown (issued_of_redirected sent) rfl ?_)
    cases keeping <;> simp [Keeping.next, Session.caller, nobody, nameless]

theorem follow_signIn (landing : settings.defaultLanding = projectListPath)
    (issued : redirect.Issued settings target) (atSignIn : redirect.path = signInPath) :
    (follow settings keeping 1 redirect.location (keeping.next s) b).isShown = true := by
  cases caller : (keeping.next s).caller b with
  | none => exact follow_of_shown (signIn_unknown issued atSignIn caller)
  | some u =>
    have known : ((keeping.next s).caller b).isSome := by rw [caller]; rfl
    obtain ⟨sent, kept, same⟩ := signIn_known issued atSignIn known
    rw [follow_of_redirected sent, landing]
    exact follow_of_shown (list_known (Keeping.next_known known kept same))

theorem follow_root (landing : settings.defaultLanding = projectListPath) :
    (follow settings keeping 2 harborRoot s b).isShown = true := by
  have issued : (Redirect.ofPath signInPath).Issued settings harborRoot := .signIn
  rw [follow_of_redirected (by rw [root_value]), root_value]
  exact follow_signIn landing issued rfl

theorem follow_issued (landing : settings.defaultLanding = projectListPath)
    (issued : redirect.Issued settings target) :
    (follow settings keeping 2 redirect.location (keeping.next s) b).isShown = true := by
  cases sent : issued with
  | root => exact follow_root landing
  | signIn => exact follow_succ (follow_signIn landing issued rfl)
  | list => exact follow_succ follow_list
  | landing =>
    rw [landing]
    exact follow_succ follow_list
  | back own => exact follow_succ (follow_signIn landing issued rfl)

/-- Chains of redirects end. With the list of projects as landing page, a browser that loads a
target and follows wherever it is sent has a page before it after three redirects, or is told that
there is none; whoever is signed in, whatever the registry refuses, and whether or not the browser
keeps its session. -/
theorem follow_shown (readOnly : Bool) (keeping : Keeping) (target : String) (s : Session)
    (b : MemoryBackend) :
    (follow ⟨readOnly, projectListPath⟩ keeping 3 target s b).isShown = true := by
  cases answer : (loaded ⟨readOnly, projectListPath⟩ target s b).value with
  | redirected redirect =>
    rw [follow_of_redirected answer]
    exact follow_issued rfl (issued_of_redirected answer)
  | activated route params project => exact follow_of_shown (by rw [answer]; rfl)
  | notFound => exact follow_of_shown (by rw [answer]; rfl)
  | superseded =>
    have issues := loaded_issues ⟨readOnly, projectListPath⟩ target s b
    rw [answer] at issues
    exact absurd rfl issues

example : (follow {} .shared 2 "/" { user := some ⟨2, "alice", false⟩ } {}).isShown = false := by
  decide +kernel

end Navigator

end ConsoleGateway
