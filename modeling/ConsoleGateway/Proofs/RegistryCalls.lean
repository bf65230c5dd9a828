import Mathlib.Data.List.Induction
import ConsoleGateway.Proofs.Isolation

namespace ConsoleGateway

/-- A call to the registry, or what a navigation leaves in a context between two calls. -/
inductive RegistryCall where
  | contextFor (now : Int) (caller : Option String)
  | invalidate (cookie : String)
  | cleanup (now : Int)
  | write (id : ContextId) (session : Session)
  deriving DecidableEq, Repr

inductive RegistryAnswer where
  | context (id : ContextId)
  | forgotten (existed : Bool)
  | swept (count : Nat)
  | written
  deriving DecidableEq, Repr

def RegistryAnswer.sweptCount : RegistryAnswer → Nat
  | swept count => count
  | _ => 0

def namedCookie (caller : Option String) : Option String := caller.filter (· ≠ "")

namespace RegistryCall

def cookie? : RegistryCall → Option String
  | contextFor _ caller => caller
  | invalidate cookie => some cookie
  | _ => none

def time? : RegistryCall → Option Int
  | contextFor now _ => some now
  | cleanup now => some now
  | _ => none

def Registers (cookie : String) : RegistryCall → Prop
  | contextFor _ caller => namedCookie caller = some cookie
  | _ => False

def Removes (ttl : Int64) (cookie : String) : RegistryCall → Prop
  | invalidate other => other = cookie
  | cleanup _ => ttl.toInt < 0
  | _ => False

end RegistryCall

def cookiesOf (calls : List RegistryCall) : List String := calls.filterMap (·.cookie?)

def timesOf (calls : List RegistryCall) : List Int := calls.filterMap (·.time?)

/-- No two of the cookies that are named have one key. -/
def KeysDiffer (calls : List RegistryCall) : Prop :=
  ∀ c ∈ cookiesOf calls, ∀ c' ∈ cookiesOf calls, fingerprint c = fingerprint c' → c = c'

/-- The calls take less time in all than a context may be idle. -/
def NeverLapses (ttl : Int64) (calls : List RegistryCall) : Prop :=
  ∀ t ∈ timesOf calls, ∀ t' ∈ timesOf calls, t' - t ≤ ttl.toInt

instance (calls : List RegistryCall) : Decidable (KeysDiffer calls) :=
  inferInstanceAs (Decidable (∀ c ∈ cookiesOf calls, ∀ c' ∈ cookiesOf calls,
    fingerprint c = fingerprint c' → c = c'))

instance (ttl : Int64) (calls : List RegistryCall) : Decidable (NeverLapses ttl calls) :=
  inferInstanceAs (Decidable (∀ t ∈ timesOf calls, ∀ t' ∈ timesOf calls, t' - t ≤ ttl.toInt))

/-- A context has been registered for the cookie and not been removed since. -/
def HasContext (ttl : Int64) (cookie : String) (calls : List RegistryCall) : Prop :=
  ∃ before call after, calls = before ++ call :: after ∧ call.Registers cookie ∧
    ∀ later ∈ after, ¬later.Removes ttl cookie

namespace SessionRegistry

def answer (r : SessionRegistry) : RegistryCall → RegistryAnswer × SessionRegistry
  | .contextFor now caller => ((r.contextFor now caller).1 |> .context, (r.contextFor now caller).2)
  | .invalidate cookie => ((r.invalidate cookie).1 |> .forgotten, (r.invalidate cookie).2)
  | .cleanup now => ((r.cleanupExpired now).1 |> .swept, (r.cleanupExpired now).2)
  | .write id s => (.written, r.setSession id s)

def after (r : SessionRegistry) (calls : List RegistryCall) : SessionRegistry :=
  calls.foldl (fun r call => (r.answer call).2) r

def answers : SessionRegistry → List RegistryCall → List RegistryAnswer
  | _, [] => []
  | r, call :: calls => (r.answer call).1 :: (r.answer call).2.answers calls

def IsFiled (r : SessionRegistry) (id : ContextId) : Prop := ∃ key, (key, id) ∈ r.entries

structure Continues (call : RegistryCall) (r r' : SessionRegistry) : Prop where
  kept : ∀ id ctx, r.context? id = some ctx → ∃ ctx', r'.context? id = some ctx' ∧
    ctx'.cookie = ctx.cookie ∧
      (ctx'.lastActive = ctx.lastActive ∨ call.time? = some ctx'.lastActive)
  made : ∀ id ctx, r.context? id = none → r'.context? id = some ctx →
    ∃ now caller, call = .contextFor now caller ∧ ctx.cookie = namedCookie caller ∧
      ctx.lastActive = now

variable {r r' : SessionRegistry} {id id' : ContextId} {call : RegistryCall} {cookie : String}

theorem context?_modify (f : Context → Context) :
    (r.modify id f).context? id' =
      if id = id' then (r.context? id').map f else r.context? id' := by
  split
  · rename_i same
    subst same
    cases found : r.contexts[id.number]? <;> simp [modify, context?, found]
  · rename_i apart
    exact context?_modify_ne f (Ne.symm apart)

theorem context?_eq_none : r.context? id = none ↔ r.contexts.length ≤ id.number := by
  simp [context?]

theorem continues_of_modify {f : Context → Context} (keeps : ∀ ctx, (f ctx).cookie = ctx.cookie)
    (time : ∀ ctx, (f ctx).lastActive = ctx.lastActive ∨ call.time? = some (f ctx).lastActive) :
    Continues call r (r.modify id f) := by
  refine ⟨fun id' ctx found => ?_, fun id' ctx missing found => ?_⟩
  · rw [context?_modify, found]
    split
    · exact ⟨f ctx, rfl, keeps ctx, time ctx⟩
    · exact ⟨ctx, rfl, rfl, .inl rfl⟩
  · rw [context?_modify, missing] at found
    split at found <;> cases found

theorem continues_refl (call : RegistryCall) (r : SessionRegistry) : Continues call r r :=
  ⟨fun _ ctx found => ⟨ctx, found, rfl, .inl rfl⟩, fun _ _ missing found => by
    rw [missing] at found
    cases found⟩

theorem context?_create_new (now : Int) (caller : Option String)
    (missing : r.context? id = none) {ctx : Context}
    (found : (r.create now caller).2.context? id = some ctx) :
    ctx = { cookie := caller, lastActive := now } := by
  have outside := context?_eq_none.1 missing
  have inside : id.number < r.contexts.length + 1 := by
    apply Nat.lt_of_not_le
    intro far
    rw [context?_eq_none.2 (by simpa [create] using far)] at found
    cases found
  have last : id.number = r.contexts.length := by omega
  simpa [create, context?, last, eq_comm] using found

theorem continues_create {now : Int} {caller : Option String} :
    Continues (.contextFor now caller) r (r.create now (namedCookie caller)).2 := by
  refine ⟨fun id ctx found => ⟨ctx, ?_, rfl, .inl rfl⟩, fun id ctx missing found => ?_⟩
  · rw [context?_create now _ (Nat.lt_of_not_le fun outside => ?_)]
    · exact found
    · rw [context?_eq_none.2 outside] at found
      cases found
  · obtain rfl := context?_create_new now _ missing found
    exact ⟨now, caller, rfl, rfl, rfl⟩

theorem continues_answer (r : SessionRegistry) (call : RegistryCall) :
    Continues call r (r.answer call).2 := by
  cases call with
  | contextFor now caller =>
    change Continues _ r (r.contextFor now caller).2
    rcases r.contextFor_cases now caller with
      ⟨cookie, rfl, -, -, -, kept⟩ | ⟨none_, made⟩ | ⟨cookie, rfl, named, made⟩
    · rw [kept]
      exact continues_of_modify (fun _ => rfl) fun _ => .inr rfl
    · have nobody : namedCookie caller = none := by
        rcases none_ with rfl | rfl <;> rfl
      rw [made, ← nobody]
      exact continues_create
    · have somebody : namedCookie (some cookie) = some cookie := by
        simp [namedCookie, named]
      have same : Continues (.contextFor now (some cookie)) r
          (r.create now (namedCookie (some cookie))).2 := continues_create
      rw [somebody] at same
      rw [made]
      exact ⟨same.kept, same.made⟩
  | invalidate cookie =>
    change Continues _ r (r.invalidate cookie).2
    unfold invalidate
    split
    · rename_i found _
      have same : Continues (.invalidate cookie) r
          (r.modify found fun ctx => { ctx with session := ctx.session.clear }) :=
        continues_of_modify (fun _ => rfl) fun _ => .inl rfl
      exact ⟨same.kept, same.made⟩
    · exact continues_refl _ r
  | cleanup now => exact ⟨(continues_refl _ r).kept, (continues_refl _ r).made⟩
  | write id s => exact continues_of_modify (fun _ => rfl) fun _ => .inl rfl

theorem grows_answer (owned : r.Owned) (call : RegistryCall) : Grows r (r.answer call).2 := by
  cases call with
  | contextFor now caller => exact (serves_contextFor owned now caller).1.toGrows
  | invalidate cookie => exact (serves_invalidate owned cookie).toGrows
  | cleanup now => exact r.grows_cleanupExpired now
  | write id s =>
    have same (id') : (r.setSession id s).owner? id' = r.owner? id' :=
      owner?_modify (f := fun ctx => { ctx with session := s }) (fun _ => rfl) id'
    exact ⟨fun owned key id' filed => (same id').trans (owned key id' filed),
      fun id' owner mine => (same id').trans mine⟩

theorem entries_answer (r : SessionRegistry) (call : RegistryCall) :
    (r.answer call).2.entries.Sublist r.entries ∨
      ∃ now cookie, call = .contextFor now (some cookie) ∧ cookie ≠ "" ∧
        (r.answer call).2.entries =
          (fingerprint cookie, ⟨r.contexts.length⟩) ::
            r.entries.filter (·.1 ≠ fingerprint cookie) := by
  cases call with
  | contextFor now caller =>
    change (r.contextFor now caller).2.entries.Sublist _ ∨ _
    rcases r.contextFor_cases now caller with
      ⟨cookie, rfl, -, -, -, kept⟩ | ⟨-, made⟩ | ⟨cookie, rfl, named, made⟩
    · rw [kept]
      exact .inl (.refl _)
    · rw [made]
      exact .inl (.refl _)
    · refine .inr ⟨now, cookie, rfl, named, ?_⟩
      change (r.contextFor now (some cookie)).2.entries = _
      rw [made]
      rfl
  | invalidate cookie =>
    refine .inl ?_
    change (r.invalidate cookie).2.entries.Sublist _
    unfold invalidate
    split
    · exact List.filter_sublist
    · exact .refl _
  | cleanup now => exact .inl List.filter_sublist
  | write id s => exact .inl (.refl _)

variable {ttl : Int64} {calls : List RegistryCall}

structure Sound (ttl : Int64) (calls : List RegistryCall) (r : SessionRegistry) : Prop where
  lives : r.ttl = ttl
  owned : r.Owned
  keys : (r.entries.map Prod.fst).Nodup
  cookies : ∀ id ctx cookie, r.context? id = some ctx → ctx.cookie = some cookie →
    cookie ≠ "" ∧ cookie ∈ cookiesOf calls
  times : ∀ id ctx, r.context? id = some ctx → ctx.lastActive ∈ timesOf calls

theorem ttl_answer (r : SessionRegistry) (call : RegistryCall) : (r.answer call).2.ttl = r.ttl := by
  cases call with
  | contextFor now caller =>
    change (r.contextFor now caller).2.ttl = _
    rcases r.contextFor_cases now caller with
      ⟨cookie, -, -, -, -, kept⟩ | ⟨-, made⟩ | ⟨cookie, -, -, made⟩
    · rw [kept]
      rfl
    · rw [made]
      rfl
    · rw [made]
      rfl
  | invalidate cookie =>
    change (r.invalidate cookie).2.ttl = _
    unfold invalidate
    split <;> rfl
  | cleanup now => rfl
  | write id s => rfl

theorem keys_answer (distinct : (r.entries.map Prod.fst).Nodup) (call : RegistryCall) :
    ((r.answer call).2.entries.map Prod.fst).Nodup := by
  rcases r.entries_answer call with fewer | ⟨now, cookie, -, -, registered⟩
  · exact distinct.sublist (fewer.map _)
  · rw [registered, List.map_cons, List.nodup_cons]
    refine ⟨fun again => ?_, distinct.sublist (List.filter_sublist.map _)⟩
    obtain ⟨pair, kept, same⟩ := List.mem_map.1 again
    simp [same] at kept

theorem sound_start (ttl : Int64) : Sound ttl [] { ttl } :=
  ⟨rfl, nofun, .nil, fun id => by simp [context?], fun id => by simp [context?]⟩

theorem Sound.answer (sound : Sound ttl calls r) (call : RegistryCall) :
    Sound ttl (calls ++ [call]) (r.answer call).2 := by
  obtain ⟨kept, made⟩ := r.continues_answer call
  have owned := (r.grows_answer sound.owned call).owned sound.owned
  refine ⟨(r.ttl_answer call).trans sound.lives, owned, keys_answer sound.keys call,
    fun id ctx cookie found mine => ?_, fun id ctx found => ?_⟩
  · cases before : r.context? id with
    | none =>
      obtain ⟨now, caller, rfl, named, -⟩ := made id ctx before found
      rw [named, namedCookie, Option.filter_eq_some_iff] at mine
      simpa [cookiesOf, RegistryCall.cookie?, mine.1] using mine.2
    | some old =>
      obtain ⟨ctx', found', same, -⟩ := kept id old before
      obtain rfl : ctx' = ctx := Option.some.inj (found'.symm.trans found)
      obtain ⟨named, said⟩ := sound.cookies id old cookie before (same ▸ mine)
      exact ⟨named, by simp [cookiesOf] at said ⊢; exact .inl said⟩
  · cases before : r.context? id with
    | none =>
      obtain ⟨now, caller, rfl, -, same⟩ := made id ctx before found
      simp [timesOf, RegistryCall.time?, same]
    | some old =>
      obtain ⟨ctx', found', -, time⟩ := kept id old before
      obtain rfl : ctx' = ctx := Option.some.inj (found'.symm.trans found)
      rcases time with same | now
      · rw [same, timesOf, List.filterMap_append]
        exact List.mem_append_left _ (sound.times id old before)
      · simp [timesOf, now]

theorem after_append (r : SessionRegistry) (calls calls' : List RegistryCall) :
    r.after (calls ++ calls') = (r.after calls).after calls' :=
  List.foldl_append

theorem sound_after (ttl : Int64) (calls : List RegistryCall) :
    Sound ttl calls (after { ttl } calls) := by
  induction calls using List.reverseRecOn with
  | nil => exact sound_start ttl
  | append_singleton calls call ih =>
    rw [after_append]
    exact ih.answer call

end SessionRegistry

end ConsoleGateway
