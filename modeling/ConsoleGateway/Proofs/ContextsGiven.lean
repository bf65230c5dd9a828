import ConsoleGateway.Proofs.Registrations

namespace ConsoleGateway

namespace SessionRegistry

variable {ttl : Int64} {calls early late between : List RegistryCall} {call : RegistryCall}
  {now : Int} {cookie : String} {caller : Option String} {id : ContextId} {r : SessionRegistry}

theorem owner?_after (calls : List RegistryCall) {owner : Option String} (owned : r.Owned)
    (mine : r.owner? id = some owner) :
    (r.after calls).Owned ∧ (r.after calls).owner? id = some owner := by
  induction calls generalizing r with
  | nil => exact ⟨owned, mine⟩
  | cons call calls ih =>
    have grows := r.grows_answer owned call
    exact ih (grows.owned owned) (grows.owner id owner mine)

theorem isFiled_of_answer (there : r.context? id ≠ none)
    (filed : (r.answer call).2.IsFiled id) : r.IsFiled id := by
  obtain ⟨key, filed⟩ := filed
  rcases r.entries_answer call with fewer | ⟨now, cookie, -, -, registered⟩
  · exact ⟨key, fewer.mem filed⟩
  · rw [registered, List.mem_cons] at filed
    rcases filed with new | old
    · cases new
      exact absurd (context?_eq_none.2 (Nat.le_refl _)) there
    · exact ⟨key, (List.mem_filter.1 old).1⟩

theorem context?_ne_none_answer (there : r.context? id ≠ none) (call : RegistryCall) :
    (r.answer call).2.context? id ≠ none := by
  obtain ⟨ctx, found⟩ := Option.ne_none_iff_exists'.1 there
  obtain ⟨ctx', found', -⟩ := (r.continues_answer call).kept id ctx found
  simp [found']

theorem not_isFiled_after (calls : List RegistryCall) (there : r.context? id ≠ none)
    (out : ¬r.IsFiled id) : (r.after calls).context? id ≠ none ∧ ¬(r.after calls).IsFiled id := by
  induction calls generalizing r with
  | nil => exact ⟨there, out⟩
  | cons call calls ih =>
    exact ih (context?_ne_none_answer there call) fun filed => out (isFiled_of_answer there filed)

theorem contextFor_found_or_new (r : SessionRegistry) (now : Int) (caller : Option String) :
    r.context? (r.contextFor now caller).1 = none ∨
      ∃ cookie, namedCookie caller = some cookie ∧
        r.find? cookie = some (r.contextFor now caller).1 := by
  rcases r.contextFor_cases now caller with
    ⟨cookie, rfl, named, found, -, -⟩ | ⟨-, made⟩ | ⟨cookie, -, -, made⟩
  · exact .inr ⟨cookie, namedCookie_eq_some.2 ⟨rfl, named⟩, found⟩
  · rw [made]
    exact .inl (context?_eq_none.2 (Nat.le_refl _))
  · rw [made]
    exact .inl (context?_eq_none.2 (Nat.le_refl _))

def Gives (ttl : Int64) (calls early : List RegistryCall) (caller : Option String)
    (id : ContextId) : Prop :=
  ∃ now late, calls = early ++ .contextFor now caller :: late ∧
    ((after { ttl } early).contextFor now caller).1 = id

variable {caller' : Option String} {id' : ContextId} {early' : List RegistryCall}

theorem Gives.mem_cookiesOf (gives : Gives ttl calls early (some cookie) id) :
    cookie ∈ cookiesOf calls := by
  obtain ⟨now, late, rfl, -⟩ := gives
  simp [cookiesOf, RegistryCall.cookie?]

theorem same_or_after (one : calls = early ++ call :: late) {call' : RegistryCall}
    {late' : List RegistryCall} (other : calls = early' ++ call' :: late')
    (first : early.length ≤ early'.length) :
    early = early' ∨ ∃ between, early' = early ++ call :: between := by
  rw [one] at other
  rcases List.append_eq_append_iff.1 other with ⟨middle, same, rest⟩ | ⟨middle, same, rest⟩
  · cases middle with
    | nil => exact .inl (by simpa using same.symm)
    | cons call'' middle =>
      obtain ⟨rfl, -⟩ := List.cons.inj rest
      exact .inr ⟨middle, same⟩
  · have : middle = [] := by
      have := congrArg List.length same
      rw [List.length_append] at this
      exact List.length_eq_zero_iff.1 (by omega)
    exact .inl (by simpa [this] using same)

theorem owner?_given (ttl : Int64) (early : List RegistryCall) (now : Int) (caller : Option String)
    (between : List RegistryCall) :
    (after { ttl } (early ++ .contextFor now caller :: between)).Lends
      (caller.map fingerprint) ((after { ttl } early).contextFor now caller).1 := by
  have owned := (sound_after ttl early).owned
  obtain ⟨work, owner, mine, lent⟩ := serves_contextFor owned now caller
  refine ⟨owner, ?_, lent⟩
  rw [after_append]
  exact (owner?_after between (work.owned owned) mine).2

theorem Gives.again (differ : KeysDiffer calls) (gives : Gives ttl calls early caller id)
    (again : Gives ttl calls early' caller' id) (first : early.length ≤ early'.length) :
    early = early' ∨
      ∃ cookie, namedCookie caller = some cookie ∧ namedCookie caller' = some cookie := by
  have among : ∀ cookie, caller = some cookie → cookie ∈ cookiesOf calls := by
    rintro cookie rfl
    exact gives.mem_cookiesOf
  have among' : ∀ cookie, caller' = some cookie → cookie ∈ cookiesOf calls := by
    rintro cookie rfl
    exact again.mem_cookiesOf
  obtain ⟨now, late, split, rfl⟩ := gives
  obtain ⟨now', late', split', given⟩ := again
  rcases same_or_after split split' first with same | ⟨between, rfl⟩
  · exact .inl same
  obtain ⟨owner, mine, lent⟩ := owner?_given ttl early now caller between
  rcases contextFor_found_or_new _ now' caller' with new | ⟨cookie, named, found⟩
  · rw [given] at new
    simp [owner?, new] at mine
  · rw [given] at found
    rw [(sound_after ttl _).owned _ _ (mem_entries_of_find? found)] at mine
    obtain rfl := Option.some.inj mine
    rcases lent with nobody | own
    · cases nobody
    · obtain ⟨cookie', rfl, same⟩ := Option.map_eq_some_iff.1 own.symm
      obtain ⟨rfl, named'⟩ := namedCookie_eq_some.1 named
      obtain rfl := differ _ (among _ rfl) _ (among' _ rfl) same
      exact .inr ⟨cookie', named, named⟩

theorem Gives.once (negative : ttl.toInt < 0) (forward : (timesOf calls).Pairwise (· ≤ ·))
    (gives : Gives ttl calls early caller id) (again : Gives ttl calls early' caller' id)
    (first : early.length ≤ early'.length) : early = early' := by
  obtain ⟨now, late, split, rfl⟩ := gives
  obtain ⟨now', late', split', given⟩ := again
  rcases same_or_after split split' first with same | ⟨between, rfl⟩
  · exact same
  have timely : Timely ttl calls := ⟨forward, .inr negative⟩
  rw [split', List.append_cons _ _ late'] at timely
  have new := (sound_after ttl _).contextFor_fresh negative timely.of_append.forward
  obtain ⟨owner, mine, -⟩ := owner?_given ttl early now caller between
  rw [given] at new
  simp [owner?, new] at mine

theorem not_gives_of_taken_out {middle : List RegistryCall}
    (before : (after { ttl } early).IsFiled id)
    (out : ¬(after { ttl } (early ++ between)).IsFiled id) :
    ¬Gives ttl calls (early ++ between ++ middle) caller id := by
  rintro ⟨now, late, -, given⟩
  obtain ⟨key, filed⟩ := before
  have owned := (sound_after ttl early).owned
  have mine := (owner?_after between owned (owned key id filed)).2
  rw [← after_append] at mine
  have there : (after { ttl } (early ++ between)).context? id ≠ none := by
    intro missing
    simp [owner?, missing] at mine
  have gone := not_isFiled_after middle there out
  rw [← after_append] at gone
  rcases contextFor_found_or_new (after { ttl } (early ++ between ++ middle)) now caller with
    new | ⟨cookie, -, found⟩
  · rw [given] at new
    exact gone.1 new
  · rw [given] at found
    exact gone.2 ⟨_, mem_entries_of_find? found⟩

theorem find?_between (never : NeverLapses ttl (early ++ between))
    (own : HasOwnKey cookie (early ++ between))
    (found : (after { ttl } early).find? cookie = some id)
    (stays : .invalidate cookie ∉ between) :
    (after { ttl } (early ++ between)).find? cookie = some id := by
  induction between using List.reverseRecOn with
  | nil => simpa using found
  | append_singleton between call ih =>
    rw [← List.append_assoc] at never own ⊢
    have before := ih never.of_append own.of_append fun forgets => stays (by simp [forgets])
    have sound := sound_after ttl (early ++ between)
    rw [after_snoc]
    cases call with
    | contextFor now caller =>
      change ((after { ttl } (early ++ between)).contextFor now caller).2.find? cookie = some id
      cases who : namedCookie caller with
      | none =>
        rw [contextFor_unnamed _ now who]
        exact before
      | some other =>
        obtain ⟨rfl, named⟩ := namedCookie_eq_some.1 who
        by_cases same : other = cookie
        · subst same
          rw [find?_contextFor_self _ now other named, sound.contextFor_found never named before]
        · have apart : fingerprint cookie ≠ fingerprint other := fun keys =>
            same (own other (by simp [cookiesOf, RegistryCall.cookie?]) keys.symm)
          rw [find?_contextFor_other _ now other cookie apart, before]
    | invalidate other =>
      have apart : fingerprint cookie ≠ fingerprint other := by
        intro keys
        obtain rfl := own other (by simp [cookiesOf, RegistryCall.cookie?]) keys.symm
        exact stays (by simp)
      change ((after { ttl } (early ++ between)).invalidate other).2.find? cookie = some id
      rw [find?_invalidate, if_neg apart, before]
    | cleanup now =>
      change ((after { ttl } (early ++ between)).cleanupExpired now).2.find? cookie = some id
      rw [sound.cleanup_none never, before]
    | write id' s => exact before

theorem find?_given (never : NeverLapses ttl (early ++ .contextFor now (some cookie) :: between))
    (own : HasOwnKey cookie (early ++ .contextFor now (some cookie) :: between))
    (named : cookie ≠ "") (stays : .invalidate cookie ∉ between) :
    (after { ttl } (early ++ .contextFor now (some cookie) :: between)).find? cookie =
      some ((after { ttl } early).contextFor now (some cookie)).1 := by
  rw [List.append_cons] at never own ⊢
  refine find?_between never own ?_ stays
  rw [after_snoc]
  exact find?_contextFor_self _ now cookie named

theorem Gives.same (never : NeverLapses ttl calls) (differ : KeysDiffer calls) (named : cookie ≠ "")
    (gives : Gives ttl calls early (some cookie) id)
    (again : Gives ttl calls (early ++ between) (some cookie) id')
    (stays : .invalidate cookie ∉ between) : id' = id := by
  have own := differ.hasOwnKey gives.mem_cookiesOf
  obtain ⟨now, late, split, rfl⟩ := gives
  obtain ⟨now', late', split', rfl⟩ := again
  cases between with
  | nil =>
    rw [List.append_nil] at split' ⊢
    rw [split, List.append_cancel_left_eq, List.cons.injEq, RegistryCall.contextFor.injEq] at split'
    rw [split'.1.1]
  | cons call between =>
    rw [split, List.append_assoc, List.append_cancel_left_eq, List.cons_append,
      List.cons.injEq] at split'
    obtain ⟨rfl, rfl⟩ := split'
    have whole : calls = early ++ .contextFor now (some cookie) :: between ++
        [.contextFor now' (some cookie)] ++ late' := by simp [split]
    rw [whole] at never own
    have found := find?_given never.of_append.of_append own.of_append.of_append named fun forgets =>
      stays (List.mem_cons_of_mem _ forgets)
    exact (sound_after ttl _).contextFor_found never.of_append named found

theorem Gives.forgotten (never : NeverLapses ttl calls) (differ : KeysDiffer calls)
    (named : cookie ≠ "") (gives : Gives ttl calls early (some cookie) id)
    (split : calls = early ++ between ++ .invalidate cookie :: late)
    (stays : .invalidate cookie ∉ between) :
    let r := ((after { ttl } (early ++ between)).invalidate cookie).2
    (r.session id).user = none ∧ (r.session id).projectMembers = [] := by
  have own := differ.hasOwnKey gives.mem_cookiesOf
  obtain ⟨now, late', split', rfl⟩ := gives
  rw [split, List.append_assoc, List.append_cancel_left_eq] at split'
  cases between with
  | nil => simp at split'
  | cons call between =>
    obtain ⟨rfl, -⟩ := List.cons.inj split'
    rw [split] at never own
    have found := find?_given never.of_append own.of_append named fun forgets =>
      stays (List.mem_cons_of_mem _ forgets)
    intro r
    rw [session_invalidate, if_pos found]
    exact ⟨rfl, rfl⟩

/-- What the registry promises over calls, from the first on. -/
structure OneContextEach (ttl : Int64) (calls : List RegistryCall) : Prop where
  -- No context is given to two cookies, and what a caller without one is given is given once.
  own : ∀ early early' caller caller' id, Gives ttl calls early caller id →
    Gives ttl calls early' caller' id → early = early' ∨
      ∃ cookie, namedCookie caller = some cookie ∧ namedCookie caller' = some cookie
  -- What has been taken out is not given again.
  gone : ∀ early between middle caller id, (after { ttl } early).IsFiled id →
    ¬(after { ttl } (early ++ between)).IsFiled id →
      ¬Gives ttl calls (early ++ between ++ middle) caller id
  -- A caller without a cookie is given a context that is not kept.
  anonymous : ∀ early now caller late, calls = early ++ .contextFor now caller :: late →
    namedCookie caller = none →
      let r : SessionRegistry := after { ttl } early
      r.context? (r.contextFor now caller).1 = none ∧ (r.contextFor now caller).2 =
        { r with contexts := r.contexts ++ [{ cookie := none, lastActive := now }] }
  forgotten : ∀ early cookie late, calls = early ++ .invalidate cookie :: late →
    (((after { ttl } early).invalidate cookie).1 = true ↔ HasContext ttl cookie early)
  -- Contexts that do not lapse stay until they are forgotten.
  lasting : NeverLapses ttl calls → ∀ early between cookie id id', cookie ≠ "" →
    Gives ttl calls early (some cookie) id → .invalidate cookie ∉ between →
      Gives ttl calls (early ++ between) (some cookie) id' → id' = id
  cleared : NeverLapses ttl calls → ∀ early between cookie late id, cookie ≠ "" →
    calls = early ++ between ++ .invalidate cookie :: late →
      Gives ttl calls early (some cookie) id → .invalidate cookie ∉ between →
        let r := ((after { ttl } (early ++ between)).invalidate cookie).2
        (r.session id).user = none ∧ (r.session id).projectMembers = []
  kept : NeverLapses ttl calls → ∀ early now late, calls = early ++ .cleanup now :: late →
    (after { ttl } early).cleanupExpired now = (0, after { ttl } early)
  -- Contexts that always have lapsed are given once and are all swept away.
  fresh : ttl.toInt < 0 → ∀ early early' caller caller' id, Gives ttl calls early caller id →
    Gives ttl calls early' caller' id → early = early'
  emptied : ttl.toInt < 0 → ∀ early now late, calls = early ++ .cleanup now :: late →
    ((after { ttl } early).cleanupExpired now).2.entries = []
  -- What is counted.
  counts : ∃ cookies : List String, cookies.Nodup ∧
    (∀ cookie, cookie ∈ cookies ↔ HasContext ttl cookie calls) ∧
    (after { ttl } calls).metrics.total = cookies.length ∧
    (after { ttl } calls).metrics.authenticated =
      cookies.countP fun cookie => ((after { ttl } calls).userOf cookie).isSome
  expired : (after { ttl } calls).metrics.expired =
    ((answers { ttl } calls).map (·.sweptCount)).sum

/-- Over calls at times that go on, of cookies whose keys differ, with contexts that never lapse or
always have, the registry keeps one context for each cookie. -/
theorem oneContextEach (differ : KeysDiffer calls) (forward : (timesOf calls).Pairwise (· ≤ ·))
    (regime : NeverLapses ttl calls ∨ ttl.toInt < 0) : OneContextEach ttl calls := by
  have timely : Timely ttl calls := ⟨forward, regime⟩
  refine
    { own := fun early early' caller caller' id gives again => ?_
      gone := fun early between middle caller id => not_gives_of_taken_out
      anonymous := fun early now caller late _ nobody => ?_
      forgotten := fun early cookie late split => ?_
      lasting := fun never early between cookie id id' named gives stays again =>
        gives.same never differ named again stays
      cleared := fun never early between cookie late id named split gives stays =>
        gives.forgotten never differ named split stays
      kept := fun never early now late split => ?_
      fresh := fun negative early early' caller caller' id gives again => ?_
      emptied := fun negative early now late split => ?_
      counts := ?_
      expired := ?_ }
  · rcases Nat.le_total early.length early'.length with first | first
    · exact gives.again differ again first
    · rcases again.again differ gives first with same | ⟨cookie, named, named'⟩
      · exact .inl same.symm
      · exact .inr ⟨cookie, named', named⟩
  · intro r
    rw [contextFor_unnamed r now nobody]
    exact ⟨context?_eq_none.2 (Nat.le_refl _), rfl⟩
  · have said : cookie ∈ cookiesOf calls := by simp [split, cookiesOf, RegistryCall.cookie?]
    have own := differ.hasOwnKey said
    rw [split] at own timely
    rw [invalidate_fst, isSome_find?_after own.of_append timely.of_append]
  · rw [split, List.append_cons] at never
    exact (sound_after ttl early).cleanup_none never.of_append
  · rcases Nat.le_total early.length early'.length with first | first
    · exact gives.once negative forward again first
    · exact (again.once negative forward gives first).symm
  · rw [split, List.append_cons] at timely
    exact (sound_after ttl early).cleanup_all negative timely.of_append.forward
  · obtain ⟨cookies, distinct, listed, total, authenticated⟩ :=
      (sound_after ttl calls).counts differ
    refine ⟨cookies, distinct, fun cookie => ?_, total, authenticated⟩
    rw [listed]
    constructor
    · rintro ⟨said, found⟩
      exact (isSome_find?_after (differ.hasOwnKey said) timely).1 found
    · intro has
      have said := mem_cookiesOf_of_hasContext has
      exact ⟨said, (isSome_find?_after (differ.hasOwnKey said) timely).2 has⟩
  · rw [metrics, expiredCount_after]
    exact Nat.zero_add _

def aliceReturns : List RegistryCall :=
  [.contextFor 0 (some "abc"), .write ⟨0⟩ { user := some ⟨2, "alice", false⟩ },
    .contextFor 5 none, .contextFor 7 (some "xyz"), .contextFor 10 (some "abc"),
    .invalidate "abc", .contextFor 20 (some "abc"), .cleanup 30]

theorem oneContextEach_alice :
    (KeysDiffer aliceReturns ∧ (timesOf aliceReturns).Pairwise (· ≤ ·) ∧
        NeverLapses 1800 aliceReturns ∧ OneContextEach 1800 aliceReturns ∧
        answers { ttl := 1800 } aliceReturns = [.context ⟨0⟩, .written, .context ⟨1⟩, .context ⟨2⟩,
          .context ⟨0⟩, .forgotten true, .context ⟨3⟩, .swept 0] ∧
        (after { ttl := 1800 } aliceReturns).metrics = ⟨2, 0, 0⟩) ∧
      (-1 : Int64).toInt < 0 ∧ OneContextEach (-1) aliceReturns ∧
        answers { ttl := -1 } aliceReturns = [.context ⟨0⟩, .written, .context ⟨1⟩, .context ⟨2⟩,
          .context ⟨3⟩, .forgotten true, .context ⟨4⟩, .swept 2] ∧
        (after { ttl := -1 } aliceReturns).metrics = ⟨0, 0, 2⟩ := by
  have differ : KeysDiffer aliceReturns := by decide +kernel
  have forward : (timesOf aliceReturns).Pairwise (· ≤ ·) := by decide +kernel
  have never : NeverLapses 1800 aliceReturns := by decide +kernel
  have negative : (-1 : Int64).toInt < 0 := by decide +kernel
  exact ⟨⟨differ, forward, never, oneContextEach differ forward (.inl never), by decide +kernel,
    by decide +kernel⟩, negative, oneContextEach differ forward (.inr negative), by decide +kernel,
    by decide +kernel⟩

end SessionRegistry

end ConsoleGateway
