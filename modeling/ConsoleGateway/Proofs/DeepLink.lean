import ConsoleGateway.Gateway.Serve
import ConsoleGateway.Proofs.GuestAccess
import ConsoleGateway.Proofs.Redirects

namespace ConsoleGateway

theorem Unicode.trim_of_visible {cs : List Char}
    (visible : ∀ c ∈ cs, 0x20 < c.toNat ∧ c.toNat < 0x7F) : trim cs = cs := by
  have black : ∀ k < 0x7F, 0x20 < k → inRanges blankTable k = false := by decide
  exact trimBy_of_forall fun c hc => black _ (visible c hc).2 (visible c hc).1

section SameOrigin

variable {segment : List Char} {segments : List (List Char)} {query : Option (List Char)}

theorem isSameOriginPath_targetText (settled : Url.IsSettledTarget (segment :: segments) query)
    (nonempty : segment ≠ []) :
    isSameOriginPath (Url.targetText (segment :: segments) query) =
      !(Url.targetText (segment :: segments) query).contains '\\' := by
  have joined : Url.parse (some standInOrigin) (Url.targetText (segment :: segments) query) =
      .ok { standInOrigin with path := .segments (segment :: segments), query } :=
    Url.parse_targetText rfl (by decide) (by decide) settled nonempty
  obtain ⟨rest, written, single⟩ : ∃ rest,
      Url.targetText (segment :: segments) query = '/' :: rest ∧ rest.head? ≠ some '/' := by
    obtain ⟨c, cs, rfl⟩ := List.exists_cons_of_ne_nil nonempty
    refine ⟨_, rfl, fun slash => ?_⟩
    have whole := (settled.segments _ List.mem_cons_self).whole c List.mem_cons_self
    rw [Option.some.inj slash] at whole
    exact absurd whole (by decide)
  rw [written] at joined ⊢
  unfold isSameOriginPath
  split
  · rename_i two
    rw [(List.cons.inj two).2] at single
    exact absurd rfl single
  · have known : standInOrigin.origin?.isSome = true := by decide
    rw [joined]
    change (!_ && (standInOrigin.origin?.isSome &&
      decide (standInOrigin.origin? = standInOrigin.origin?))) = _
    simp [known]
  · rename_i other
    exact absurd rfl (other rest)

end SameOrigin

theorem postSignInTarget_url {target : String} {n : Navigation} {cs below : List Char} {c : Char}
    (slash : target.toList = '/' :: cs) (parsed : Navigation.parse target = .ok n)
    (named : n.path.toList = '/' :: c :: below) (single : c ≠ '/') (landing : String) :
    Navigation.parse n.url = .ok n ∧ postSignInTarget (some n.url) landing =
      if '\\' ∈ n.url.toList then landing else n.url := by
  obtain ⟨segment, segments, query, settled, nonempty, written, whole⟩ :=
    Navigation.exists_settled slash parsed named single
  constructor
  · rw [Navigation.parse_settled settled nonempty written, ← whole]
  · have trimmed : Unicode.trim n.url.toList = n.url.toList := by
      refine Unicode.trim_of_visible fun c hc => ?_
      rw [written] at hc
      exact ⟨(settled.visible hc).1, (settled.visible hc).2.1⟩
    have stays := isSameOriginPath_targetText settled nonempty
    rw [← written] at stays
    simp only [postSignInTarget, trimmed, stays, String.ofList_toList]
    by_cases backslash : '\\' ∈ n.url.toList <;> simp [backslash]

namespace Flow

/-- In these states the registry names nobody, and whatever it is asked it stays in them. -/
structure Handler.Anonymous (handle : Handler σ) (ok : σ → Prop) : Prop where
  refuses : ∀ s b, ok b → ∃ e, (handle .currentUser s b).1 = .error e
  stays : ∀ c s b, ok b → ok (handle c s b).2.2

variable {handle : Handler σ} {ok : σ → Prop} {s : Session} {b : σ}

theorem Handler.Anonymous.guest_hold (anonymous : handle.Anonymous ok)
    (alone : handle.LeavesSession) : (Terms.guest fun _ => True).Hold handle ok where
  answers c s b _ hb := by
    cases c with
    | currentUser => exact anonymous.refuses s b hb
    | project id => exact fun _ _ _ => trivial
    | signOut => trivial
    | projectMembers id => trivial
  session c s b hs _ := by
    rw [alone]
    exact hs
  ok c s b _ hb := anonymous.stays c s b hb

theorem run_knownUser_anonymous (anonymous : handle.Anonymous ok) (alone : handle.LeavesSession)
    (unknown : s.user = none) (hb : ok b) :
    ∃ b', ok b' ∧ knownUser.run handle s b = ⟨none, [], s, b'⟩ := by
  obtain ⟨e, refused⟩ := anonymous.refuses s b hb
  have still := alone .currentUser s b
  have hb' := anonymous.stays .currentUser s b hb
  have same : { s with user := none } = s := by
    rw [← unknown]
  rcases answered : handle .currentUser s b with ⟨answer, s', b'⟩
  rw [answered] at refused still hb'
  obtain rfl : answer = .error e := refused
  obtain rfl : s' = s := still
  exact ⟨b', hb', by simp [knownUser, retrieveUser, unknown, answered, same]⟩

end Flow

theorem MemoryBackend.anonymous : Flow.Handler.Anonymous handle fun b => b.user = none where
  refuses s b unknown := ⟨.unauthenticated, by simp [handle, answer, reply, record, unknown]⟩
  stays c s b unknown := by
    cases c with
    | signOut =>
      cases fails : (b.record .signOut).signOutFails
      · simp [handle, answer, reply, fails]
      · simp [handle, answer, reply, fails, unknown]
    | _ => exact unknown

namespace Navigator

variable {settings : GuardSettings} {token : Option Token} {handle : Flow.Handler σ}
  {ok : σ → Prop} {s : Session} {b : σ} {n : Navigation}

theorem run_authCheck_anonymous (settings : GuardSettings) (anonymous : handle.Anonymous ok)
    (alone : handle.LeavesSession) (unknown : s.user = none) (hb : ok b)
    (isOpen : isOpenUrl n.url = true) :
    ∃ notices b', ok b' ∧ (authCheck settings n).run handle s b = ⟨.allow, notices, s, b'⟩ := by
  obtain ⟨b', hb', known⟩ := Flow.run_knownUser_anonymous anonymous alone unknown hb
  refine ⟨.clearMessages :: ((if settings.readOnly then [.readOnly] else []) ++ [.closeSearch]), b',
    hb', ?_⟩
  cases warn : settings.readOnly <;> cases guest : isGuestPath n.url <;>
    simp [authCheck, Flow.run_bind, known, warn, guest, isOpen]

theorem run_signIn_anonymous (settings : GuardSettings) (anonymous : handle.Anonymous ok)
    (alone : handle.LeavesSession) (unknown : s.user = none) (hb : ok b)
    (wanted : s.isWanted token = true) (isOpen : isOpenUrl n.url = true)
    (staying : n.isSigningOut = false) :
    ((visit settings token .signInPage n).run handle s b).value =
      .activated .signInPage n.params none := by
  have chain : guards settings .signInPage n = [authCheck settings n, signInGuard settings n] := rfl
  obtain ⟨notices, b', hb', checked⟩ :=
    run_authCheck_anonymous settings anonymous alone unknown hb isOpen
  obtain ⟨b'', -, known⟩ := Flow.run_knownUser_anonymous anonymous alone unknown hb'
  have stays : (signInGuard settings n).run handle s b' = ⟨.allow, [], s, b''⟩ := by
    simp [signInGuard, staying, Flow.run_bind, known]
  have passed : (runGuards token (guards settings .signInPage n)).run handle s b =
      ⟨none, notices, s, b''⟩ := by
    rw [chain, run_runGuards_allow _ (by rw [checked]) (by rw [checked]; exact wanted), checked]
    simp only
    rw [run_runGuards_last (by rw [stays]; exact wanted), stays]
    simp [Decision.denial]
  rw [run_visit_of_allowed (by rw [passed]), passed]
  simp [arrive, Route.signInPage, Route.page, run_settle, wanted]

theorem run_flow_anonymous (mode : NavigationMode) (settings : GuardSettings) (target : String)
    (anonymous : handle.Anonymous ok) (alone : handle.LeavesSession) (unknown : s.user = none)
    (hb : ok b) :
    let r := (mode.flow settings target).run handle s b
    r.session.user = none ∧ ok r.backend := by
  have visitor : (Terms.guest fun _ => True).session (mode.enter s) := by
    simpa [Terms.guest] using unknown
  rw [mode.run_flow]
  rcases go_cases settings (mode.token s) target with
    ⟨outcome, hgo, -⟩ | ⟨n, route, params, -, -, -, hgo⟩
  · rw [hgo]
    exact ⟨visitor, hb⟩
  · rw [hgo]
    exact ((visit_guest settings _ route _).run (anonymous.guest_hold alone) visitor hb).2

/-- A page that someone unknown asks for survives the sign-in: the redirect leads to the sign-in
page, which leads back to the url of the page, and that is a target for the same navigation. A
backslash in the query is the exception, for no target with one is accepted after the sign-in. -/
theorem deepLink_survives {config : Config} {mode : NavigationMode} {target : String}
    {r : Redirect} (anonymous : handle.Anonymous ok) (alone : handle.LeavesSession) (hb : ok b)
    (unknown : s.user = none) (slash : "/".toList <+: target.toList)
    (redirected : ((mode.flow (.ofConfig config) target).run handle s b).value = .redirected r)
    (carries : (r.queryValue redirectUrlParam).isSome) :
    let first := (mode.flow (.ofConfig config) target).run handle s b
    first.session.user = none ∧ ok first.backend ∧
      ∃ n, Navigation.parse target = .ok n ∧ Navigation.parse n.url = .ok n ∧
        ∀ s' b', s'.user = none → ok b' →
          let signIn :=
            (NavigationMode.navigate.flow (.ofConfig config) r.location).run handle s' b'
          signIn.value = .activated .signInPage [] none ∧
            afterSignIn? config r.location signIn.value =
              some (if '\\' ∈ n.url.toList then config.routes.defaultLanding else n.url) := by
  have issued := run_issues mode (.ofConfig config) target handle s b
  rw [redirected] at issued
  obtain ⟨url, ⟨n, parsed, rfl, below⟩, told⟩ : ∃ url, IsConsoleUrl target url ∧
      r = ⟨signInPath, [(redirectUrlParam, url)]⟩ := by
    cases issued with
    | back own => exact ⟨_, own, rfl⟩
    | _ => simp [Redirect.ofPath, Redirect.queryValue] at carries
  obtain ⟨more, named⟩ := below
  obtain ⟨cs, hcs⟩ := slash
  obtain ⟨again, leads⟩ := postSignInTarget_url hcs.symm parsed named.symm (by decide)
    config.routes.defaultLanding
  obtain ⟨unknownStill, hbStill⟩ :=
    run_flow_anonymous mode (.ofConfig config) target anonymous alone unknown hb
  refine ⟨unknownStill, hbStill, n, parsed, again, fun s' b' unknown' hb' => ?_⟩
  have atSignIn : r.path = signInPath := by rw [told]
  have staying : r.toSignIn.isSigningOut = false := by
    rw [told]
    rfl
  have stays : ((NavigationMode.navigate.flow (.ofConfig config) r.location).run handle s'
      b').value = .activated .signInPage [] none := by
    rw [Redirect.run_signIn atSignIn]
    exact run_signIn_anonymous _ anonymous alone (by simpa using unknown') hb'
      (NavigationMode.navigate.isWanted_enter s') (Redirect.isOpenUrl_signIn atSignIn) staying
  have carried : r.toSignIn.queryParam redirectUrlParam = some n.url := by
    simp [Navigation.queryParam, Redirect.toSignIn, told, lastWins_singleton]
  refine ⟨stays, ?_⟩
  rw [stays, ← leads]
  simp [afterSignIn?, Outcome.route?, Route.signInPage, Route.page, Redirect.parse_signIn atSignIn,
    carried]

theorem deepLink_survives_logs :
    let target := "/harbor/logs?name=a b+c%26d&p=\"é\""
    let url := "/harbor/logs?name=a%20b+c%26d&p=%22%C3%A9%22"
    let r : Redirect := ⟨signInPath, [(redirectUrlParam, url)]⟩
    let signIn := (NavigationMode.navigate.flow {} r.location).run MemoryBackend.handle {} {}
    ((NavigationMode.load.flow {} target).run MemoryBackend.handle {} {}).value = .redirected r ∧
      signIn.value = .activated .signInPage [] none ∧
        afterSignIn? {} r.location signIn.value = some url := by
  intro target url r signIn
  have redirected : ((NavigationMode.load.flow (.ofConfig {}) target).run MemoryBackend.handle {}
      {}).value = .redirected r := by
    decide +kernel
  obtain ⟨-, -, n, parsed, -, survives⟩ := deepLink_survives MemoryBackend.anonymous
    (fun _ _ _ => rfl) rfl rfl (by decide) redirected (by decide)
  obtain ⟨shown, leads⟩ := survives {} {} rfl rfl
  have same : n.url = url := by
    have read : (Navigation.parse target).map (·.url) = .ok url := by decide +kernel
    rw [parsed] at read
    exact Except.ok.inj read
  refine ⟨redirected, shown, leads.trans ?_⟩
  rw [same]
  decide

/-- A backslash in the query loses the page asked for. -/
theorem deepLink_lost :
    ¬∀ (config : Config) (mode : NavigationMode) (target : String) (s : Session)
      (b : MemoryBackend) (r : Redirect), b.user = none → s.user = none →
        "/".toList <+: target.toList →
        ((mode.flow (.ofConfig config) target).run MemoryBackend.handle s b).value =
          .redirected r →
        (r.queryValue redirectUrlParam).isSome →
          let first := (mode.flow (.ofConfig config) target).run MemoryBackend.handle s b
          let signIn := (NavigationMode.navigate.flow (.ofConfig config) r.location).run
            MemoryBackend.handle first.session first.backend
          ∃ n, Navigation.parse target = .ok n ∧
            afterSignIn? config r.location signIn.value = some n.url := by
  intro h
  obtain ⟨n, parsed, survives⟩ := h {} .load "/harbor/logs?x=\\" {} {}
    ⟨signInPath, [(redirectUrlParam, "/harbor/logs?x=\\")]⟩ rfl rfl (by decide) (by decide +kernel)
    (by decide)
  have read : (Navigation.parse "/harbor/logs?x=\\").map (·.url) = .ok "/harbor/logs?x=\\" := by
    decide +kernel
  rw [parsed] at read
  rw [show n.url = "/harbor/logs?x=\\" from Except.ok.inj read] at survives
  revert survives
  decide +kernel

end Navigator

end ConsoleGateway
