import ConsoleGateway.Session.Registry

namespace ConsoleGateway

theorem lookup_filter_ne [DecidableEq α] (key key' : α) (pairs : List (α × β)) :
    (pairs.filter (·.1 ≠ key)).lookup key' =
      if key' = key then none else pairs.lookup key' := by
  induction pairs with
  | nil => simp
  | cons pair pairs ih =>
    obtain ⟨k, v⟩ := pair
    by_cases dropped : k = key
    · subst dropped
      rw [List.filter_cons_of_neg (by simp), ih, List.lookup_cons]
      by_cases same : key' = k
      · simp [same]
      · simp [same, beq_eq_false_iff_ne.2 same]
    · rw [List.filter_cons_of_pos (by simpa using dropped), List.lookup_cons, List.lookup_cons, ih]
      by_cases same : key' = k
      · simp [same, dropped]
      · simp [beq_eq_false_iff_ne.2 same]

namespace SessionRegistry

variable (r : SessionRegistry) (now : Int) (cookie other : String) (id id' : ContextId)

@[simp] theorem length_modify (f : Context → Context) :
    (r.modify id f).contexts.length = r.contexts.length := by
  simp [modify]

@[simp] theorem length_setSession (s : Session) :
    (r.setSession id s).contexts.length = r.contexts.length := by
  simp [setSession]

@[simp] theorem find?_modify (f : Context → Context) :
    (r.modify id f).find? cookie = r.find? cookie := rfl

@[simp] theorem find?_setSession (s : Session) :
    (r.setSession id s).find? cookie = r.find? cookie := rfl

theorem session_modify (f : Context → Context) :
    (r.modify id f).session id' =
      if id = id' then ((r.context? id').map fun ctx => (f ctx).session).getD {}
      else r.session id' := by
  obtain ⟨i⟩ := id
  obtain ⟨j⟩ := id'
  by_cases same : i = j
  · cases found : r.contexts[j]? <;> simp [session, context?, modify, same, found]
  · simp [session, context?, modify, same]

theorem session_of_length_le (outside : r.contexts.length ≤ id.number) : r.session id = {} := by
  simp [session, context?, outside]

theorem session_setSession (s : Session) :
    (r.setSession id s).session id' =
      if id = id' ∧ id.number < r.contexts.length then s else r.session id' := by
  rw [setSession, session_modify]
  by_cases same : id = id'
  · subst same
    by_cases inside : id.number < r.contexts.length
    · simp [inside, context?]
    · simp [inside, context?, session]
  · simp [same]

@[simp] theorem setSession_session : r.setSession id (r.session id) = r := by
  obtain ⟨ttl, contexts, entries, expiredCount⟩ := r
  simp only [setSession, modify, session, context?, SessionRegistry.mk.injEq, and_true, true_and]
  refine List.ext_getElem? fun j => ?_
  rw [List.getElem?_modify]
  split
  · rename_i same
    subst same
    cases contexts[id.number]? <;> rfl
  · cases contexts[j]? <;> rfl

@[simp] theorem setSession_setSession (s t : Session) :
    (r.setSession id s).setSession id t = r.setSession id t := by
  simp [setSession, modify, List.modify_modify_eq, Function.comp_def]

@[simp] theorem session_create (owner : Option String) :
    (r.create now owner).2.session id = r.session id := by
  by_cases inside : id.number < r.contexts.length
  · simp [session, context?, create, List.getElem?_append_left inside]
  · rw [session_of_length_le r id (by omega)]
    by_cases new : id.number = r.contexts.length
    · simp [session, context?, create, new]
    · rw [session_of_length_le]
      simp only [create, List.length_append, List.length_singleton]
      omega

@[simp] theorem session_register : (r.register now cookie).2.session id = r.session id :=
  session_create r now id (some cookie)

theorem find?_register_self :
    (r.register now cookie).2.find? cookie = some (r.register now cookie).1 := by
  simp [register, find?, create]

theorem find?_register_other (apart : fingerprint other ≠ fingerprint cookie) :
    (r.register now cookie).2.find? other = r.find? other := by
  simp only [register, find?, create, List.lookup_cons, beq_eq_false_iff_ne.2 apart]
  rw [lookup_filter_ne, if_neg apart]

theorem contextFor_cases (caller : Option String) :
    (∃ cookie, caller = some cookie ∧ cookie ≠ "" ∧
      r.find? cookie = some (r.contextFor now caller).1 ∧
      (r.contextFor now caller).1.number < r.contexts.length ∧
      (r.contextFor now caller).2 =
        r.modify (r.contextFor now caller).1 fun ctx => { ctx with lastActive := now }) ∨
    ((caller = none ∨ caller = some "") ∧ r.contextFor now caller = r.create now none) ∨
    ∃ cookie, caller = some cookie ∧ cookie ≠ "" ∧
      r.contextFor now caller = r.register now cookie := by
  cases caller with
  | none => exact .inr (.inl ⟨.inl rfl, rfl⟩)
  | some cookie =>
    by_cases named : cookie = ""
    · exact .inr (.inl ⟨.inr (by rw [named]), by simp [contextFor, named]⟩)
    cases found : r.find? cookie with
    | none => exact .inr (.inr ⟨cookie, rfl, named, by simp [contextFor, named, found]⟩)
    | some id =>
      by_cases expired : r.isExpired now id
      · exact .inr (.inr ⟨cookie, rfl, named, by simp [contextFor, named, found, expired]⟩)
      · have kept : r.contextFor now (some cookie) =
            (id, r.modify id fun ctx => { ctx with lastActive := now }) := by
          simp [contextFor, named, found, expired]
        have inside : id.number < r.contexts.length := by
          refine Nat.lt_of_not_le fun outside => expired ?_
          simp [isExpired, context?, outside]
        exact .inl ⟨cookie, rfl, named, by rw [kept, found], by rw [kept]; exact inside,
          by rw [kept]⟩

@[simp] theorem session_contextFor (caller : Option String) :
    (r.contextFor now caller).2.session id = r.session id := by
  rcases r.contextFor_cases now caller with
    ⟨cookie, -, -, -, -, kept⟩ | ⟨-, made⟩ | ⟨cookie, -, -, made⟩
  · rw [kept, session_modify]
    split
    · rfl
    · rfl
  · rw [made, session_create]
  · rw [made, session_register]

theorem contextFor_lt_length (caller : Option String) :
    (r.contextFor now caller).1.number < (r.contextFor now caller).2.contexts.length := by
  rcases r.contextFor_cases now caller with
    ⟨cookie, -, -, -, inside, kept⟩ | ⟨-, made⟩ | ⟨cookie, -, -, made⟩
  · rw [kept, length_modify]
    exact inside
  · simp [made, create]
  · simp [made, register, create]

theorem length_contextFor_le (caller : Option String) :
    r.contexts.length ≤ (r.contextFor now caller).2.contexts.length := by
  rcases r.contextFor_cases now caller with
    ⟨cookie, -, -, -, -, kept⟩ | ⟨-, made⟩ | ⟨cookie, -, -, made⟩
  · exact Nat.le_of_eq (by rw [kept, length_modify])
  · simp [made, create]
  · simp [made, register, create]

theorem mem_entries_of_find? {r : SessionRegistry} {cookie : String} {id : ContextId}
    (found : r.find? cookie = some id) : (fingerprint cookie, id) ∈ r.entries := by
  obtain ⟨before, after, split, -⟩ := List.lookup_eq_some_iff.1 found
  simp [split]

theorem contextFor_origin :
    (fingerprint cookie, (r.contextFor now (some cookie)).1) ∈ r.entries ∨
      (r.contextFor now (some cookie)).1 = ⟨r.contexts.length⟩ := by
  rcases r.contextFor_cases now (some cookie) with
    ⟨_, same, -, found, -, -⟩ | ⟨-, made⟩ | ⟨_, -, -, made⟩
  · cases same
    exact .inl (mem_entries_of_find? found)
  · exact .inr (by rw [made]; rfl)
  · exact .inr (by rw [made]; rfl)

theorem mem_entries_contextFor {key : String} {caller : Option String}
    (filed : (key, id) ∈ (r.contextFor now caller).2.entries) :
    (key, id) ∈ r.entries ∨ id = ⟨r.contexts.length⟩ := by
  rcases r.contextFor_cases now caller with
    ⟨cookie, -, -, -, -, kept⟩ | ⟨-, made⟩ | ⟨cookie, -, -, made⟩
  · rw [kept] at filed
    exact .inl filed
  · rw [made] at filed
    exact .inl filed
  · rw [made] at filed
    rcases List.mem_cons.1 filed with new | old
    · cases new
      exact .inr rfl
    · exact .inl (List.mem_filter.1 old).1

theorem find?_contextFor_self (named : cookie ≠ "") :
    (r.contextFor now (some cookie)).2.find? cookie =
      some (r.contextFor now (some cookie)).1 := by
  rcases r.contextFor_cases now (some cookie) with
    ⟨_, same, -, found, -, kept⟩ | ⟨unnamed, -⟩ | ⟨_, same, -, made⟩
  · cases same
    rw [kept, find?_modify, found]
  · simp [named] at unnamed
  · cases same
    rw [made, find?_register_self]

theorem find?_contextFor_other (apart : fingerprint other ≠ fingerprint cookie) :
    (r.contextFor now (some cookie)).2.find? other = r.find? other := by
  rcases r.contextFor_cases now (some cookie) with
    ⟨_, -, -, -, -, kept⟩ | ⟨-, made⟩ | ⟨_, same, -, made⟩
  · rw [kept, find?_modify]
  · rw [made]
    rfl
  · cases same
    rw [made, find?_register_other r now _ _ apart]

theorem find?_invalidate :
    (r.invalidate cookie).2.find? other =
      if fingerprint other = fingerprint cookie then none else r.find? other := by
  cases found : r.find? cookie with
  | none =>
    simp only [invalidate, found]
    split
    · rename_i same
      rw [find?, same]
      exact found
    · rfl
  | some id =>
    have rest : (r.invalidate cookie).2.entries =
        r.entries.filter (·.1 ≠ fingerprint cookie) := by
      simp only [invalidate, found]
      rfl
    rw [find?, rest, lookup_filter_ne]
    rfl

theorem session_invalidate :
    (r.invalidate cookie).2.session id =
      if r.find? cookie = some id then (r.session id).clear else r.session id := by
  cases found : r.find? cookie with
  | none => simp [invalidate, found]
  | some id' =>
    have forgotten : (r.invalidate cookie).2.session id =
        (r.modify id' fun ctx => { ctx with session := ctx.session.clear }).session id := by
      simp only [invalidate, found]
      rfl
    rw [forgotten, session_modify]
    by_cases same : id' = id
    · subst same
      cases existing : r.context? id' <;> simp [session, existing, Session.clear]
    · simp [same]

@[simp] theorem length_invalidate :
    (r.invalidate cookie).2.contexts.length = r.contexts.length := by
  cases found : r.find? cookie <;> simp [invalidate, found]

theorem mem_entries_invalidate {key : String} :
    (key, id) ∈ (r.invalidate cookie).2.entries ↔
      (key, id) ∈ r.entries ∧ key ≠ fingerprint cookie := by
  cases found : r.find? cookie with
  | some id' => simp [invalidate, found, modify]
  | none =>
    simp only [invalidate, found]
    refine ⟨fun filed => ⟨filed, ?_⟩, And.left⟩
    rintro rfl
    exact bne_iff_ne.1 (List.lookup_eq_none_iff.1 found _ filed) rfl

theorem mem_entries_cleanupExpired {pair : String × ContextId}
    (filed : pair ∈ (r.cleanupExpired now).2.entries) : pair ∈ r.entries :=
  (List.mem_filter.1 filed).1

end SessionRegistry

end ConsoleGateway
