import ConsoleGateway.Proofs.ValueReading

namespace ConsoleGateway.Decode

open Json

def Field.spellings (field : Field α) : List String := field.name :: field.aliases

def Fields.spellings : Fields ts → List (List String)
  | .nil => []
  | .cons field rest => field.spellings :: rest.spellings

def isNamed (names : List String) (m : Doc × Doc) : Bool := (text? m.1).any names.contains

def given (names : List String) (members : List (Doc × Doc)) : List Doc :=
  (members.filter (isNamed names)).map (·.2)

def Field.value? (field : Field α) (ctx : Context) : List Doc → Option α
  | [] => field.ifNoMember
  | [d] => (field.read ctx d).toOption
  | _ => none

def Fields.values? (ctx : Context) (members : List (Doc × Doc)) : Fields ts → Option (Values ts)
  | .nil => some ()
  | .cons field rest =>
    (field.value? ctx (given field.spellings members)).bind fun a =>
      (rest.values? ctx members).map fun values => (a, values)

def Fields.admits (fields : Fields ts) (m : Doc × Doc) : Bool :=
  (text? m.1).any fun name => fields.names.contains name || skippable m.2

def Field.take (field : Field α) (ctx : Context) : Option α → List Doc → Option (Option α)
  | slot, [] => some slot
  | none, [d] => (field.read ctx d).toOption.map some
  | _, _ => none

def Fields.take (ctx : Context) (members : List (Doc × Doc)) :
    Fields ts → Slots ts → Option (Slots ts)
  | .nil, _ => some ()
  | .cons field rest, (slot, slots) =>
    (field.take ctx slot (given field.spellings members)).bind fun slot =>
      (rest.take ctx members slots).map fun slots => (slot, slots)

def Field.item? (field : Field α) (ctx : Context) : Option Doc → Option α
  | none => field.ifNoItem
  | some d => (field.read ctx d).toOption

def Fields.items? (ctx : Context) : Fields ts → List Doc → Option (Values ts × List Doc)
  | .nil, items => some ((), items)
  | .cons field rest, items =>
    (field.item? ctx items.head?).bind fun a =>
      (rest.items? ctx items.tail).map fun (values, left) => ((a, values), left)

def Fields.defaults (stands : {α : Type} → Field α → Option α) : Fields ts → Option (Values ts)
  | .nil => some ()
  | .cons field rest =>
    (stands field).bind fun a => (rest.defaults stands).map fun values => (a, values)

def Fields.Alike : Fields ts → Prop
  | .nil => True
  | .cons field rest =>
    (Fields.cons field rest).defaults Field.ifNoItem =
        (Fields.cons field rest).defaults Field.ifNoMember ∧
      rest.Alike

def InOrder : List (List String) → List (Doc × Doc) → Prop
  | _, [] => True
  | [], _ :: _ => False
  | names :: spellings, m :: members => isNamed names m = true ∧ InOrder spellings members

variable {ε α β : Type} {ts : List Type} {field : Field α} {fields : Fields ts} {ctx : Context}
  {name : String} {key d : Doc} {names : List String} {members members' : List (Doc × Doc)}

theorem Fields.names_eq (fields : Fields ts) : fields.names = fields.spellings.flatten := by
  induction fields with
  | nil => rfl
  | cons field rest ih => rw [names, ih, spellings, List.flatten_cons, Field.spellings]

theorem Fields.names_cons (field : Field α) (rest : Fields ts) :
    (Fields.cons field rest).names = field.spellings ++ rest.names := rfl

@[simp] theorem toOption_ok (a : α) : (Except.ok a : Except ε α).toOption = some a := rfl

@[simp] theorem toOption_error (e : ε) : (Except.error e : Except ε α).toOption = none := rfl

theorem toOption_bind (x : Except ε α) (f : α → Except ε β) :
    (x >>= f).toOption = x.toOption.bind fun a => (f a).toOption := by
  cases x <;> rfl

theorem toOption_map (f : α → β) (x : Except ε α) : (x.map f).toOption = x.toOption.map f := by
  cases x <;> rfl

theorem isNamed_iff {m : Doc × Doc} :
    isNamed names m = true ↔ ∃ name, text? m.1 = some name ∧ name ∈ names := by
  simp [isNamed, Option.any_eq_true]

theorem given_cons_of_mem (spelled : text? key = some name) (own : name ∈ names) :
    given names ((key, d) :: members) = d :: given names members := by
  have named : isNamed names (key, d) = true := isNamed_iff.2 ⟨name, spelled, own⟩
  rw [given, List.filter_cons_of_pos named]
  rfl

theorem given_cons_of_not_mem (spelled : text? key = some name) (other : name ∉ names) :
    given names ((key, d) :: members) = given names members := by
  have unnamed : ¬isNamed names (key, d) = true := by simp [isNamed, spelled, other]
  rw [given, List.filter_cons_of_neg unnamed]
  rfl

theorem given_append (names : List String) (before after : List (Doc × Doc)) :
    given names (before ++ after) = given names before ++ given names after := by
  simp [given]

theorem Field.take_cons (field : Field α) (ctx : Context) (slot : Option α) (d : Doc)
    (ds : List Doc) : field.take ctx slot (d :: ds) =
      if slot.isSome then none
      else (field.read ctx d).toOption.bind fun a => field.take ctx (some a) ds := by
  cases slot with
  | some a => simp [take]
  | none =>
    cases ds with
    | nil => cases read : field.read ctx d <;> simp [take, read]
    | cons d' ds => cases read : field.read ctx d <;> simp [take]

theorem Fields.take_nil (slots : Slots ts) : fields.take ctx [] slots = some slots := by
  induction fields with
  | nil => rfl
  | cons field rest ih =>
    obtain ⟨slot, slots⟩ := slots
    rw [take, ih]
    rfl

theorem Fields.take_of_not_mem (spelled : text? key = some name) (other : name ∉ fields.names)
    (slots : Slots ts) : fields.take ctx ((key, d) :: members) slots =
      fields.take ctx members slots := by
  induction fields with
  | nil => rfl
  | cons field rest ih =>
    obtain ⟨slot, slots⟩ := slots
    rw [names_cons, List.mem_append, not_or] at other
    rw [take, take, given_cons_of_not_mem spelled other.1, ih other.2]

theorem Fields.take_of_mem (separate : fields.Separate) (spelled : text? key = some name)
    (own : name ∈ fields.names) (ctx : Context) (d : Doc) (members : List (Doc × Doc))
    (slots : Slots ts) : ∃ put, fields.put? ctx name d slots = some put ∧
      fields.take ctx ((key, d) :: members) slots =
        put.toOption.bind (fields.take ctx members) := by
  induction fields with
  | nil => simp [names] at own
  | cons field rest ih =>
    obtain ⟨slot, slots⟩ := slots
    obtain ⟨apart, separate⟩ := separate
    by_cases first : name ∈ field.spellings
    · have isFirst : name = field.name ∨ name ∈ field.aliases := List.mem_cons.1 first
      refine ⟨_, by rw [put?, if_pos isFirst], ?_⟩
      rw [take, given_cons_of_mem spelled first, Field.take_cons,
        take_of_not_mem spelled (apart name first)]
      cases slot with
      | some a => rfl
      | none => cases read : field.read ctx d <;> rfl
    · have notFirst : ¬(name = field.name ∨ name ∈ field.aliases) := fun h =>
        first (List.mem_cons.2 h)
      rw [names_cons, List.mem_append] at own
      obtain ⟨put, found, taken⟩ := ih separate (own.resolve_left first) slots
      refine ⟨_, by rw [put?, if_neg notFirst, found, Option.map_some], ?_⟩
      rw [take, given_cons_of_not_mem spelled first, taken]
      cases put with
      | error e => cases field.take ctx slot (given field.spellings members) <;> rfl
      | ok slots => rfl

theorem Fields.collect_toOption (separate : fields.Separate) (members : List (Doc × Doc))
    (slots : Slots ts) : (fields.collect ctx members slots).toOption =
      if members.all fields.admits then fields.take ctx members slots else none := by
  induction members generalizing slots with
  | nil =>
    rw [take_nil]
    rfl
  | cons m members ih =>
    obtain ⟨key, d⟩ := m
    unfold collect
    cases spelled : text? key with
    | none => simp [admits, spelled]
    | some name =>
      by_cases own : name ∈ fields.names
      · have admitted : fields.admits (key, d) = true := by simp [admits, spelled, own]
        obtain ⟨put, found, taken⟩ :=
          fields.take_of_mem separate spelled own ctx d members slots
        dsimp only
        rw [found, taken, List.all_cons, admitted, Bool.true_and]
        cases put with
        | error e => simp
        | ok slots => exact ih slots
      · dsimp only
        rw [put?_of_not_mem own, take_of_not_mem spelled own]
        by_cases skipped : skippable d = true
        · have admitted : fields.admits (key, d) = true := by simp [admits, spelled, skipped]
          rw [List.all_cons, admitted, Bool.true_and, if_pos skipped]
          exact ih slots
        · have refused : fields.admits (key, d) = false := by simp [admits, spelled, own, skipped]
          rw [List.all_cons, refused, Bool.false_and, if_neg skipped]
          rfl

theorem Field.take_or (field : Field α) (ctx : Context) (own : List Doc) :
    ((field.take ctx none own).bind fun slot => slot.or field.ifNoMember) =
      field.value? ctx own := by
  match own with
  | [] => rfl
  | [d] => cases read : field.read ctx d <;> simp [take, value?, read]
  | _ :: _ :: _ => rfl

theorem Fields.finish_toOption (rest : Fields ts) (slot : Option α) (slots : Slots ts) :
    ((Fields.cons field rest).finish (slot, slots)).toOption =
      (slot.or field.ifNoMember).bind fun a =>
        (rest.finish slots).toOption.map fun values => (a, values) := by
  cases slot with
  | some a => exact toOption_map _ _
  | none => cases default : field.ifNoMember <;> simp [finish, default, toOption_map]

theorem Fields.take_finish (fields : Fields ts) (ctx : Context) (members : List (Doc × Doc)) :
    ((fields.take ctx members fields.empty).bind fun slots => (fields.finish slots).toOption) =
      fields.values? ctx members := by
  induction fields with
  | nil => rfl
  | cons field rest ih =>
    rw [values?, ← ih, empty, take, ← Field.take_or]
    cases rest.take ctx members rest.empty with
    | none => simp
    | some slots =>
      simp only [Option.map_some, Option.bind_assoc, Option.bind_some]
      exact congrArg _ (funext fun slot => finish_toOption rest slot slots)

theorem Fields.ofMembers_toOption (separate : fields.Separate) (members : List (Doc × Doc))
    (closed : Bool) : (fields.ofMembers ctx members closed).toOption =
      if closed && members.all fields.admits then fields.values? ctx members else none := by
  rw [ofMembers, toOption_bind, fields.collect_toOption separate, ← take_finish]
  cases closed with
  | false => simp
  | true => cases members.all fields.admits <;> rfl

theorem Field.value?_perm {own own' : List Doc} (same : own.Perm own') :
    field.value? ctx own = field.value? ctx own' := by
  match own with
  | [] => rw [List.nil_perm.1 same]
  | [d] => rw [List.singleton_perm.1 same]
  | d :: d' :: ds =>
    match own' with
    | [] => cases List.perm_nil.1 same
    | [e] => cases List.perm_singleton.1 same
    | _ :: _ :: _ => rfl

theorem Fields.values?_perm (same : members.Perm members') :
    fields.values? ctx members = fields.values? ctx members' := by
  induction fields with
  | nil => rfl
  | cons field rest ih =>
    have own : (given field.spellings members).Perm (given field.spellings members') :=
      (same.filter _).map _
    rw [values?, values?, Field.value?_perm own, ih]

theorem Fields.values?_congr (same : ∀ names ∈ fields.spellings, given names members =
    given names members') : fields.values? ctx members = fields.values? ctx members' := by
  induction fields with
  | nil => rfl
  | cons field rest ih =>
    obtain ⟨first, later⟩ := List.forall_mem_cons.1 same
    rw [values?, values?, first, ih later]

theorem Fields.values?_of_twice (listed : names ∈ fields.spellings)
    (twice : 2 ≤ (given names members).length) : fields.values? ctx members = none := by
  induction fields with
  | nil => cases listed
  | cons field rest ih =>
    rw [values?]
    rcases List.mem_cons.1 listed with rfl | listed
    · match own : given field.spellings members with
      | [] => simp [own] at twice
      | [_] => simp [own] at twice
      | _ :: _ :: _ => rfl
    · rw [ih listed]
      cases field.value? ctx (given field.spellings members) <;> rfl

theorem Fields.Separate.eq_of_mem (separate : fields.Separate) {names' : List String}
    (listed : names ∈ fields.spellings) (listed' : names' ∈ fields.spellings) (own : name ∈ names)
    (own' : name ∈ names') : names = names' := by
  induction fields with
  | nil => cases listed
  | cons field rest ih =>
    obtain ⟨apart, separate⟩ := separate
    have later {names} (listed : names ∈ rest.spellings) (own : name ∈ names) :
        name ∈ rest.names := by
      rw [names_eq]
      exact List.mem_flatten.2 ⟨names, listed, own⟩
    rcases List.mem_cons.1 listed with rfl | listed <;>
      rcases List.mem_cons.1 listed' with rfl | listed'
    · rfl
    · exact absurd (later listed' own') (apart name own)
    · exact absurd (later listed own) (apart name own')
    · exact ih separate listed listed'

theorem Fields.values?_nil (fields : Fields ts) (ctx : Context) :
    fields.values? ctx [] = fields.defaults Field.ifNoMember := by
  induction fields with
  | nil => rfl
  | cons field rest ih =>
    rw [values?, defaults, ih]
    rfl

theorem Fields.items?_nil (fields : Fields ts) (ctx : Context) : fields.items? ctx [] =
    (fields.defaults Field.ifNoItem).map fun values => (values, []) := by
  induction fields with
  | nil => rfl
  | cons field rest ih =>
    rw [items?, defaults, List.tail_nil, ih, List.head?_nil, Field.item?]
    cases field.ifNoItem with
    | none => rfl
    | some a => cases rest.defaults Field.ifNoItem <;> rfl

theorem Fields.positional_toOption (fields : Fields ts) (ctx : Context) (short : Nat → Error)
    (i : Nat) (items : List Doc) :
    (fields.positional ctx short true i items).toOption = fields.items? ctx items := by
  induction fields generalizing i items with
  | nil => rfl
  | cons field rest ih =>
    cases items with
    | nil =>
      rw [positional, items?, ← ih (i + 1)]
      cases standing : field.ifNoItem with
      | none => simp [Field.item?, standing]
      | some a => simp [Field.item?, standing, toOption_map]
    | cons d items =>
      simp only [positional, items?, toOption_bind, ih, List.head?_cons, Field.item?,
        List.tail_cons]
      cases (field.read ctx d).toOption with
      | none => rfl
      | some a => cases rest.items? ctx items <;> rfl

theorem Fields.ofItems_toOption (fields : Fields ts) (title : String) (ctx : Context)
    (items : List Doc) (closed : Bool) : (fields.ofItems title ctx items closed).toOption =
      if closed then (fields.items? ctx items).bind fun (values, left) =>
        if left = [] then some values else none
      else none := by
  cases closed with
  | false =>
    rw [ofItems]
    cases fields.positional ctx _ false 0 items with
    | error e => rfl
    | ok read => by_cases all : read.2 = [] <;> simp [toOption_bind, all]
  | true =>
    rw [ofItems, toOption_bind, positional_toOption]
    cases fields.items? ctx items with
    | none => rfl
    | some read => by_cases all : read.2 = [] <;> simp [all, pure, Except.pure]

theorem given_of_inOrder (ordered : InOrder fields.spellings members)
    (apart : ∀ name ∈ names, name ∉ fields.names) : given names members = [] := by
  induction fields generalizing members with
  | nil =>
    cases members with
    | nil => rfl
    | cons m members => cases ordered
  | cons field rest ih =>
    cases members with
    | nil => rfl
    | cons m members =>
      obtain ⟨own, ordered⟩ := ordered
      obtain ⟨name, spelled, listed⟩ := isNamed_iff.1 own
      have other : name ∉ names := fun h => apart name h (List.mem_append_left _ listed)
      rw [given_cons_of_not_mem spelled other]
      exact ih ordered fun name h => fun later => apart name h (List.mem_append_right _ later)

theorem Fields.values?_of_not_mem (spelled : text? key = some name) (other : name ∉ fields.names) :
    fields.values? ctx ((key, d) :: members) = fields.values? ctx members := by
  refine values?_congr fun names listed => given_cons_of_not_mem spelled fun own => other ?_
  rw [names_eq]
  exact List.mem_flatten.2 ⟨names, listed, own⟩

theorem Fields.items?_of_inOrder (separate : fields.Separate) (alike : fields.Alike)
    (ordered : InOrder fields.spellings members) : fields.items? ctx (members.map (·.2)) =
      (fields.values? ctx members).map fun values => (values, []) := by
  induction fields generalizing members with
  | nil =>
    cases members with
    | nil => rfl
    | cons m members => cases ordered
  | cons field rest ih =>
    cases members with
    | nil => rw [List.map_nil, items?_nil, alike.1, values?_nil]
    | cons m members =>
      obtain ⟨own, ordered⟩ := ordered
      obtain ⟨apart, separate⟩ := separate
      obtain ⟨name, spelled, listed⟩ := isNamed_iff.1 own
      have none : given field.spellings members = [] := given_of_inOrder ordered apart
      have only : given field.spellings (m :: members) = [m.2] := by
        rw [given_cons_of_mem spelled listed, none]
      have others : rest.values? ctx (m :: members) = rest.values? ctx members :=
        values?_of_not_mem spelled (apart name listed)
      rw [List.map_cons, items?, List.head?_cons, List.tail_cons, ih separate alike.2 ordered,
        values?, only, others, Field.item?, Field.value?]
      cases (field.read ctx m.2).toOption with
      | none => rfl
      | some a => cases rest.values? ctx members <;> rfl

end ConsoleGateway.Decode
