import Mathlib.Algebra.GroupWithZero.Nat
import Mathlib.Data.List.Nodup
import ConsoleGateway.Proofs.RegistryCalls
import ConsoleGateway.Proofs.Splitting

namespace ConsoleGateway

variable {ttl : Int64} {calls early late between : List RegistryCall} {call : RegistryCall}
  {now : Int} {cookie : String} {caller : Option String} {id : ContextId}

@[simp] theorem cookiesOf_append (calls calls' : List RegistryCall) :
    cookiesOf (calls ++ calls') = cookiesOf calls ++ cookiesOf calls' :=
  List.filterMap_append

@[simp] theorem timesOf_append (calls calls' : List RegistryCall) :
    timesOf (calls ++ calls') = timesOf calls ++ timesOf calls' :=
  List.filterMap_append

theorem namedCookie_eq_some :
    namedCookie caller = some cookie ↔ caller = some cookie ∧ cookie ≠ "" := by
  simp [namedCookie, Option.filter_eq_some_iff]

theorem namedCookie_eq_none : namedCookie caller = none ↔ caller = none ∨ caller = some "" := by
  cases caller <;> simp [namedCookie]

theorem hasContext_nil : ¬HasContext ttl cookie [] := by
  rintro ⟨before, call, after, split, -⟩
  simp at split

theorem hasContext_snoc : HasContext ttl cookie (calls ++ [call]) ↔
    call.Registers cookie ∨ HasContext ttl cookie calls ∧ ¬call.Removes ttl cookie := by
  constructor
  · rintro ⟨before, call', after, split, registers, stays⟩
    rcases snoc_eq_append_cons split with ⟨middle, rfl, rfl⟩ | ⟨-, -, rfl⟩
    · refine .inr ⟨⟨before, call', middle, rfl, registers, fun later among => ?_⟩, ?_⟩
      · exact stays later (List.mem_append_left _ among)
      · exact stays call (by simp)
    · exact .inl registers
  · rintro (registers | ⟨⟨before, call', after, rfl, registers, stays⟩, keeps⟩)
    · exact ⟨calls, call, [], rfl, registers, nofun⟩
    · refine ⟨before, call', after ++ [call], by simp, registers, fun later among => ?_⟩
      rcases List.mem_append.1 among with old | last
      · exact stays later old
      · rw [List.mem_singleton.1 last]
        exact keeps

theorem mem_cookiesOf_of_hasContext (has : HasContext ttl cookie calls) :
    cookie ∈ cookiesOf calls := by
  obtain ⟨before, call, after, rfl, registers, -⟩ := has
  cases call with
  | contextFor now caller =>
    obtain ⟨rfl, -⟩ := namedCookie_eq_some.1 registers
    simp [cookiesOf, RegistryCall.cookie?]
  | invalidate => cases registers
  | cleanup => cases registers
  | write => cases registers

/-- No cookie that is named in the calls has the key of this one, unless it is the same. -/
def HasOwnKey (cookie : String) (calls : List RegistryCall) : Prop :=
  ∀ other ∈ cookiesOf calls, fingerprint other = fingerprint cookie → other = cookie

theorem KeysDiffer.hasOwnKey (differ : KeysDiffer calls) (said : cookie ∈ cookiesOf calls) :
    HasOwnKey cookie calls :=
  fun other among same => differ other among cookie said same

theorem HasOwnKey.of_append (own : HasOwnKey cookie (early ++ late)) : HasOwnKey cookie early :=
  fun other among => own other (by simp [among])

structure Timely (ttl : Int64) (calls : List RegistryCall) : Prop where
  forward : (timesOf calls).Pairwise (· ≤ ·)
  regime : NeverLapses ttl calls ∨ ttl.toInt < 0

theorem NeverLapses.of_append (never : NeverLapses ttl (early ++ late)) : NeverLapses ttl early :=
  fun t among t' among' => never t (by simp [among]) t' (by simp [among'])

theorem Timely.of_append (timely : Timely ttl (early ++ late)) : Timely ttl early := by
  have forward := timely.forward
  rw [timesOf_append] at forward
  exact ⟨(List.pairwise_append.1 forward).1, timely.regime.imp_left NeverLapses.of_append⟩

theorem NeverLapses.not_negative (never : NeverLapses ttl calls) (said : now ∈ timesOf calls) :
    0 ≤ ttl.toInt := by
  have := never now said now said
  omega

namespace SessionRegistry

variable {r : SessionRegistry} {ctx : Context}

theorem contextFor_unnamed (r : SessionRegistry) (now : Int) (nobody : namedCookie caller = none) :
    r.contextFor now caller = r.create now none := by
  rcases namedCookie_eq_none.1 nobody with rfl | rfl
  · rfl
  · simp [contextFor]

theorem Owned.context? (owned : r.Owned) {key : String} (filed : (key, id) ∈ r.entries) :
    ∃ ctx cookie, r.context? id = some ctx ∧ ctx.cookie = some cookie ∧
      fingerprint cookie = key := by
  have mine := owned key id filed
  simpa [owner?] using mine

theorem invalidate_fst (r : SessionRegistry) (cookie : String) :
    (r.invalidate cookie).1 = (r.find? cookie).isSome := by
  unfold invalidate
  split
  · rename_i found
    rw [found]
    rfl
  · rename_i missing
    rw [missing]
    rfl

namespace Sound

theorem not_expired (sound : Sound ttl calls r) (never : NeverLapses ttl (calls ++ [call]))
    (timed : call.time? = some now) (there : r.context? id = some ctx) :
    r.isExpired now id = false := by
  have idle := never ctx.lastActive (by simp [sound.times id ctx there]) now
    (by simp [timesOf, timed])
  simp only [isExpired, there, Option.map_some, Option.getD_some, Context.isExpired, sound.lives,
    decide_eq_false_iff_not]
  omega

theorem expired (sound : Sound ttl calls r) (negative : ttl.toInt < 0)
    (forward : (timesOf (calls ++ [call])).Pairwise (· ≤ ·)) (timed : call.time? = some now)
    (id : ContextId) : r.isExpired now id = true := by
  cases there : r.context? id with
  | none => simp [isExpired, there]
  | some ctx =>
    rw [timesOf_append] at forward
    have seen : ctx.lastActive ≤ now := (List.pairwise_append.1 forward).2.2 ctx.lastActive
      (sound.times id ctx there) now (by simp [timesOf, timed])
    simp only [isExpired, there, Option.map_some, Option.getD_some, Context.isExpired,
      sound.lives, decide_eq_true_eq]
    omega

theorem contextFor_found (sound : Sound ttl calls r)
    (never : NeverLapses ttl (calls ++ [.contextFor now (some cookie)])) (named : cookie ≠ "")
    (found : r.find? cookie = some id) : (r.contextFor now (some cookie)).1 = id := by
  obtain ⟨ctx, -, there, -⟩ := sound.owned.context? (mem_entries_of_find? found)
  simp [contextFor, named, found, sound.not_expired never rfl there]

theorem contextFor_fresh (sound : Sound ttl calls r) (negative : ttl.toInt < 0)
    (forward : (timesOf (calls ++ [.contextFor now caller])).Pairwise (· ≤ ·)) :
    r.context? (r.contextFor now caller).1 = none := by
  have lapsed := sound.expired negative forward rfl
  have new : (r.contextFor now caller).1 = ⟨r.contexts.length⟩ := by
    cases caller with
    | none => rfl
    | some cookie =>
      by_cases named : cookie = ""
      · simp [contextFor, named, create]
      · cases found : r.find? cookie <;> simp [contextFor, named, found, lapsed, register, create]
  rw [new]
  exact context?_eq_none.2 (Nat.le_refl _)

theorem cleanup_none (sound : Sound ttl calls r)
    (never : NeverLapses ttl (calls ++ [.cleanup now])) : r.cleanupExpired now = (0, r) := by
  have all : r.entries.filter (fun pair => !r.isExpired now pair.2) = r.entries := by
    refine List.filter_eq_self.2 fun pair filed => ?_
    obtain ⟨ctx, -, there, -⟩ := sound.owned.context? filed
    rw [sound.not_expired never rfl there]
    rfl
  simp [cleanupExpired, all]

theorem cleanup_all (sound : Sound ttl calls r) (negative : ttl.toInt < 0)
    (forward : (timesOf (calls ++ [.cleanup now])).Pairwise (· ≤ ·)) :
    (r.cleanupExpired now).2.entries = [] :=
  List.filter_eq_nil_iff.2 fun pair _ => by simp [sound.expired negative forward rfl pair.2]

theorem isSome_find?_answer (sound : Sound ttl calls r) (own : HasOwnKey cookie (calls ++ [call]))
    (timely : Timely ttl (calls ++ [call])) :
    ((r.answer call).2.find? cookie).isSome ↔
      call.Registers cookie ∨ (r.find? cookie).isSome ∧ ¬call.Removes ttl cookie := by
  cases call with
  | contextFor now caller =>
    change ((r.contextFor now caller).2.find? cookie).isSome ↔
      namedCookie caller = some cookie ∨ (r.find? cookie).isSome ∧ ¬False
    cases who : namedCookie caller with
    | none =>
      rw [r.contextFor_unnamed now who]
      simp [create, find?]
    | some other =>
      obtain ⟨rfl, named⟩ := namedCookie_eq_some.1 who
      by_cases same : other = cookie
      · subst same
        simp [r.find?_contextFor_self now other named]
      · have apart : fingerprint cookie ≠ fingerprint other := fun keys =>
          same (own other (by simp [cookiesOf, RegistryCall.cookie?]) keys.symm)
        simp [r.find?_contextFor_other now other cookie apart, same]
  | invalidate other =>
    change ((r.invalidate other).2.find? cookie).isSome ↔ False ∨ _ ∧ ¬other = cookie
    rw [find?_invalidate]
    by_cases same : other = cookie
    · simp [same]
    · have apart : fingerprint cookie ≠ fingerprint other := fun keys =>
        same (own other (by simp [cookiesOf, RegistryCall.cookie?]) keys.symm)
      simp [apart, same]
  | cleanup now =>
    change ((r.cleanupExpired now).2.find? cookie).isSome ↔ False ∨ _ ∧ ¬ttl.toInt < 0
    rcases timely.regime with never | negative
    · have := never.not_negative (show now ∈ timesOf _ by simp [timesOf, RegistryCall.time?])
      rw [sound.cleanup_none never]
      simp [Int.not_lt.2 this]
    · simp [find?, sound.cleanup_all negative timely.forward, negative]
  | write id s => simp [SessionRegistry.answer, RegistryCall.Registers, RegistryCall.Removes]

end Sound

theorem after_snoc (r : SessionRegistry) (calls : List RegistryCall) (call : RegistryCall) :
    r.after (calls ++ [call]) = ((r.after calls).answer call).2 :=
  after_append r calls [call]

theorem isSome_find?_after (own : HasOwnKey cookie calls) (timely : Timely ttl calls) :
    ((after { ttl } calls).find? cookie).isSome ↔ HasContext ttl cookie calls := by
  induction calls using List.reverseRecOn with
  | nil => simp [SessionRegistry.after, find?, hasContext_nil]
  | append_singleton calls call ih =>
    rw [after_snoc, (sound_after ttl calls).isSome_find?_answer own timely,
      ih own.of_append timely.of_append, hasContext_snoc]

theorem expiredCount_answer (r : SessionRegistry) (call : RegistryCall) :
    (r.answer call).2.expiredCount = r.expiredCount + (r.answer call).1.sweptCount := by
  cases call with
  | contextFor now caller =>
    change (r.contextFor now caller).2.expiredCount = r.expiredCount
    rcases r.contextFor_cases now caller with
      ⟨cookie, -, -, -, -, kept⟩ | ⟨-, made⟩ | ⟨cookie, -, -, made⟩
    · rw [kept]
      rfl
    · rw [made]
      rfl
    · rw [made]
      rfl
  | invalidate cookie =>
    change (r.invalidate cookie).2.expiredCount = r.expiredCount
    unfold invalidate
    split <;> rfl
  | cleanup now => rfl
  | write id s => rfl

theorem expiredCount_after (r : SessionRegistry) (calls : List RegistryCall) :
    (r.after calls).expiredCount =
      r.expiredCount + ((r.answers calls).map (·.sweptCount)).sum := by
  induction calls generalizing r with
  | nil => rfl
  | cons call calls ih =>
    calc ((r.answer call).2.after calls).expiredCount
      _ = (r.answer call).2.expiredCount +
          (((r.answer call).2.answers calls).map (·.sweptCount)).sum := ih _
      _ = _ := by rw [expiredCount_answer, answers, List.map_cons, List.sum_cons, Nat.add_assoc]

def cookieOf (r : SessionRegistry) (id : ContextId) : String :=
  ((r.context? id).bind (·.cookie)).getD ""

theorem Owned.fingerprint_cookieOf (owned : r.Owned) {key : String}
    (filed : (key, id) ∈ r.entries) : fingerprint (r.cookieOf id) = key := by
  obtain ⟨ctx, cookie, there, mine, same⟩ := owned.context? filed
  simpa [cookieOf, there, mine] using same

theorem find?_eq_some_of_mem (distinct : (r.entries.map Prod.fst).Nodup)
    (filed : (fingerprint cookie, id) ∈ r.entries) : r.find? cookie = some id := by
  obtain ⟨before, after, split⟩ := List.append_of_mem filed
  refine List.lookup_eq_some_iff.2 ⟨before, after, split, fun pair earlier => ?_⟩
  rw [split, List.map_append, List.nodup_append] at distinct
  exact bne_iff_ne.2 (distinct.2.2 pair.1 (List.mem_map_of_mem earlier) _ (by simp)).symm

def userOf (r : SessionRegistry) (cookie : String) : Option CurrentUser :=
  (r.find? cookie).bind fun id => (r.session id).user

theorem Sound.counts (sound : Sound ttl calls r) (differ : KeysDiffer calls) :
    ∃ cookies : List String, cookies.Nodup ∧
      (∀ cookie, cookie ∈ cookies ↔ cookie ∈ cookiesOf calls ∧ (r.find? cookie).isSome) ∧
      r.metrics.total = cookies.length ∧
      r.metrics.authenticated = cookies.countP fun cookie => (r.userOf cookie).isSome := by
  have keyed : ∀ pair ∈ r.entries, fingerprint (r.cookieOf pair.2) = pair.1 :=
    fun pair filed => sound.owned.fingerprint_cookieOf filed
  have finds : ∀ pair ∈ r.entries, r.find? (r.cookieOf pair.2) = some pair.2 := fun pair filed =>
    find?_eq_some_of_mem sound.keys (by rw [keyed pair filed]; exact filed)
  refine ⟨r.entries.map fun pair => r.cookieOf pair.2, ?_, fun cookie => ⟨?_, ?_⟩, ?_, ?_⟩
  · refine List.Nodup.of_map fingerprint ?_
    rw [List.map_map]
    exact (List.map_congr_left keyed) ▸ sound.keys
  · intro listed
    obtain ⟨pair, filed, rfl⟩ := List.mem_map.1 listed
    refine ⟨?_, by rw [finds pair filed]; rfl⟩
    obtain ⟨ctx, cookie, there, mine, -⟩ := sound.owned.context? filed
    simpa [cookieOf, there, mine] using (sound.cookies _ ctx cookie there mine).2
  · rintro ⟨said, found⟩
    obtain ⟨id, found⟩ := Option.isSome_iff_exists.1 found
    have filed := mem_entries_of_find? found
    refine List.mem_map.2 ⟨_, filed, ?_⟩
    obtain ⟨ctx, other, there, mine, same⟩ := sound.owned.context? filed
    simpa [cookieOf, there, mine] using
      differ _ (sound.cookies _ ctx other there mine).2 _ said same
  · simp [metrics]
  · rw [List.countP_map]
    refine List.countP_congr fun pair filed => ?_
    simp [userOf, finds pair filed]

end SessionRegistry

end ConsoleGateway
