import ConsoleGateway.Proofs.RecordForms

namespace ConsoleGateway

open Decode Json

namespace Json

theorem accumulate_exact {s : Nat} {ds : List Nat} (whole : (accumulate s ds).2 = 0) :
    (accumulate s ds).1 = digitsFrom s ds := by
  induction ds generalizing s with
  | nil => rfl
  | cons d ds ih =>
    rw [accumulate] at whole ⊢
    split at whole
    · rename_i fits
      rw [if_pos fits, ih whole]
      rfl
    · cases whole

structure Literal.IsInteger (l : Literal) (z : Int) : Prop where
  fraction : l.fraction = []
  exponent : l.exponent = none
  value : z = if l.negative then -(digitsFrom 0 l.whole : Int) else digitsFrom 0 l.whole
  nonzero : l.negative = true → z ≠ 0

def Number.int? : Number → Option Int
  | .natural n => some n
  | .negative z => some z
  | .floating _ => none

variable {l : Literal} {z : Int}

theorem Literal.isInteger_of_value? (read : l.value?.bind Number.int? = some z) :
    l.IsInteger z := by
  unfold value? at read
  dsimp only at read
  split at read
  · rename_i plain
    obtain ⟨exact_, fraction, exponent⟩ := plain
    have whole := accumulate_exact exact_
    split at read
    · rename_i positive
      have negative : l.negative = false := by simpa using positive
      refine ⟨fraction, exponent, ?_, by simp [negative]⟩
      rw [negative, ← whole]
      simpa [Number.int?] using read.symm
    · rename_i minus
      have negative : l.negative = true := by simpa using minus
      split at read
      · rename_i counts
        have value : -((accumulate 0 l.whole).1 : Int) = z := by simpa [Number.int?] using read
        refine ⟨fraction, exponent, ?_, fun _ => by omega⟩
        rw [negative, if_pos rfl, ← whole, value]
      · cases read
  · split at read
    · cases scaled : scale _ _ <;> rw [scaled] at read <;> cases read
    · split at read
      · cases scaled : scale _ _ <;> rw [scaled] at read <;> cases read
      · split at read <;> cases read

theorem Literal.IsInteger.value? (integer : l.IsInteger z) (fits : Integer.fitsInt64 z = true) :
    l.value?.bind Number.int? = some z := by
  have least : Int64.minValue.toInt = -2 ^ 63 := rfl
  have most : Int64.maxValue.toInt = 2 ^ 63 - 1 := rfl
  have range := fits
  simp only [Integer.fitsInt64, Bool.and_eq_true, decide_eq_true_eq, least, most] at range
  obtain ⟨fraction, exponent, value, nonzero⟩ := integer
  have size : UInt64.size = 2 ^ 64 := rfl
  have small : digitsFrom 0 l.whole < UInt64.size := by
    cases negative : l.negative <;> simp only [negative] at value <;> simp at value <;> omega
  unfold Literal.value?
  rw [accumulate_of_lt small]
  cases negative : l.negative with
  | false => simp [fraction, exponent, value, negative, Number.int?]
  | true =>
    have isMinus : z = -(digitsFrom 0 l.whole : Int) := by simpa [negative] using value
    have counts : 0 < digitsFrom 0 l.whole ∧ Integer.fitsInt64 (-(digitsFrom 0 l.whole : Int)) := by
      have := nonzero negative
      exact ⟨by omega, isMinus ▸ fits⟩
    simp [fraction, exponent, counts, isMinus, Number.int?]

end Json

namespace Decode

/-- The values that a flag may be given, and what they make of it. -/
inductive Means : Doc → Bool → Prop where
  | literal (b : Bool) : Means (.bool b) b
  | one {l : Literal} (integer : l.IsInteger 1) : Means (.number l) true
  | number {l : Literal} {z : Int} (integer : l.IsInteger z) (fits : Integer.fitsInt64 z = true)
    (other : z ≠ 1) : Means (.number l) false
  | yes {ps : List Piece} {cs : List Char} (joined : joinPieces ps = some cs)
    (word : Unicode.lowercase (Unicode.trim cs) ∈ ["true".toList, "1".toList]) :
    Means (.string ps) true
  | no {ps : List Piece} {cs : List Char} (joined : joinPieces ps = some cs)
    (word : Unicode.lowercase (Unicode.trim cs) ∈ ["false".toList, "0".toList, []]) :
    Means (.string ps) false

variable {ctx : Context} {d : Doc} {b : Bool}

def Found.flag : Found → Except Error Bool
  | .bool b => .ok b
  | .integer z => if Integer.fitsInt64 z then .ok (decide (z = 1)) else .error .notAFlag
  | .string s => flagOfText s
  | _ => .error .notAFlag

theorem flag_of_found? {f : Found} (kept : buffer ctx d = .ok ()) (found : found? d = some f) :
    flag ctx d = f.flag := by
  unfold flag
  rw [kept, found]
  cases f with
  | string s => simp only [Found.flag, bind, Except.bind]
  | _ => rfl

theorem flag_eq_ok_iff_found :
    flag ctx d = .ok b ↔ ∃ f, found? d = some f ∧ f.flag = .ok b := by
  constructor
  · intro read
    cases kept : buffer ctx d with
    | error e =>
      rw [flag, kept] at read
      cases read
    | ok _ =>
      cases found : found? d with
      | none =>
        rw [flag, kept, found] at read
        cases read
      | some f => exact ⟨f, rfl, (flag_of_found? kept found).symm.trans read⟩
  · rintro ⟨f, found, read⟩
    have scalar : readable ctx.depth d = (found? d).isSome := by
      cases d with
      | array items closed => cases found; cases read
      | object members closed => cases found; cases read
      | _ => cases ctx.depth <;> rfl
    have kept : buffer ctx d = .ok () := buffer_of_readable (by rw [scalar, found]; rfl)
    exact (flag_of_found? kept found).trans read

theorem found?_number {l : Literal} {f : Found} (found : found? (.number l) = some f) :
    (∃ z, l.value?.bind Number.int? = some z ∧ f = .integer z) ∨ ∃ text, f = .double text := by
  rw [found?] at found
  cases value : l.value? with
  | none => simp [value] at found
  | some n =>
    rw [value] at found
    cases n with
    | natural n => exact .inl ⟨n, rfl, (Option.some.inj found).symm⟩
    | negative z => exact .inl ⟨z, rfl, (Option.some.inj found).symm⟩
    | floating f => exact .inr ⟨_, (Option.some.inj found).symm⟩

theorem found?_integer {l : Literal} {z : Int} (value : l.value?.bind Number.int? = some z) :
    found? (.number l) = some (.integer z) := by
  rw [found?]
  cases read : l.value? with
  | none => simp [read] at value
  | some n => cases n <;> simp_all [Number.int?]

theorem found?_string {ps : List Piece} {f : Found} (found : found? (.string ps) = some f) :
    ∃ cs, joinPieces ps = some cs ∧ f = .string (.ofList cs) := by
  obtain ⟨cs, joined, rfl⟩ := Option.map_eq_some_iff.1 found
  exact ⟨cs, joined, rfl⟩

theorem flagOfText_eq_ok_iff {cs : List Char} : flagOfText (.ofList cs) = .ok b ↔
    (b = true ∧ Unicode.lowercase (Unicode.trim cs) ∈ ["true".toList, "1".toList]) ∨
      b = false ∧ Unicode.lowercase (Unicode.trim cs) ∈ ["false".toList, "0".toList, []] := by
  have same (s : String) : String.ofList (Unicode.lowercase (Unicode.trim cs)) = s ↔
      Unicode.lowercase (Unicode.trim cs) = s.toList := by
    rw [← String.toList_inj, String.toList_ofList]
  have empty : "".toList = [] := rfl
  unfold flagOfText
  simp only [String.toList_ofList, same, empty, List.mem_cons, List.not_mem_nil, or_false]
  generalize Unicode.lowercase (Unicode.trim cs) = word
  by_cases set : word = "true".toList ∨ word = "1".toList
  · have apart : ¬(word = "false".toList ∨ word = "0".toList ∨ word = []) := by
      rcases set with rfl | rfl <;> decide
    rw [if_pos set]
    simp only [set, apart, and_true, and_false, or_false, Except.ok.injEq, eq_comm]
  · rw [if_neg set]
    by_cases cleared : word = "false".toList ∨ word = "0".toList ∨ word = []
    · rw [if_pos cleared]
      simp only [set, cleared, and_true, and_false, false_or, Except.ok.injEq, eq_comm]
    · rw [if_neg cleared]
      simp only [set, cleared, and_false, or_false, reduceCtorEq]

theorem means_of_found {f : Found} (found : found? d = some f) (read : f.flag = .ok b) :
    Means d b := by
  cases d with
  | bool b' =>
    cases found
    cases read
    exact .literal b
  | number l =>
    rcases found?_number found with ⟨z, value, rfl⟩ | ⟨text, rfl⟩
    · have integer := Literal.isInteger_of_value? value
      simp only [Found.flag] at read
      split at read
      · rename_i fits
        by_cases isOne : z = 1
        · subst isOne
          cases read
          exact .one integer
        · rw [decide_eq_false isOne] at read
          cases read
          exact .number integer fits isOne
      · cases read
    · cases read
  | string ps =>
    obtain ⟨cs, joined, rfl⟩ := found?_string found
    rw [Found.flag] at read
    rcases flagOfText_eq_ok_iff.1 read with ⟨rfl, word⟩ | ⟨rfl, word⟩
    · exact .yes joined word
    · exact .no joined word
  | null => cases found; cases read
  | array items closed => cases found; cases read
  | object members closed => cases found; cases read
  | broken => cases found

theorem Means.found (means : Means d b) : ∃ f, found? d = some f ∧ f.flag = .ok b := by
  cases means with
  | literal b => exact ⟨_, rfl, rfl⟩
  | one integer =>
    have fits : Integer.fitsInt64 1 = true := by decide
    refine ⟨_, found?_integer (integer.value? fits), ?_⟩
    simp [Found.flag, fits]
  | number integer fits other =>
    refine ⟨_, found?_integer (integer.value? fits), ?_⟩
    simp [Found.flag, fits, other]
  | @yes ps cs joined word =>
    have read := flagOfText_eq_ok_iff.2 (.inl ⟨rfl, word⟩)
    exact ⟨.string (.ofList cs), by rw [found?, joined]; rfl, by rw [Found.flag, read]⟩
  | @no ps cs joined word =>
    have read := flagOfText_eq_ok_iff.2 (.inr ⟨rfl, word⟩)
    exact ⟨.string (.ofList cs), by rw [found?, joined]; rfl, by rw [Found.flag, read]⟩

theorem flag_eq_ok_iff : flag ctx d = .ok b ↔ Means d b := by
  rw [flag_eq_ok_iff_found]
  exact ⟨fun ⟨_, found, read⟩ => means_of_found found read, Means.found⟩

def flagsGiven (names : List String) : Doc → List Doc
  | .object members _ => given names members
  | .array items _ => items[2]?.toList
  | _ => []

/-- The flag of a record, its third field, is set only by one value that means to set it. Without a
value it is as if it were given as `false`, and with two the record is refused. -/
structure FailsClosed (read : Reader α) (isSet : α → Bool) (names : List String) : Prop where
  decided {s : String} {a : α} (read : ofText read s = .ok a) : ∃ d, IsText s d ∧
    (flagsGiven names d = [] ∧ isSet a = false ∨ ∃ v, flagsGiven names d = [v] ∧ Means v (isSet a))
  meant {s s' : String} {before after : List (Doc × Doc)} {key v : Doc} {b : Bool}
    (own : isNamed names (key, v) = true) (means : Means v b)
    (text : IsText s (.object (before ++ (key, v) :: after) true))
    (text' : IsText s' (.object (before ++ (key, .bool b) :: after) true)) :
    (ofText read s).toOption = (ofText read s').toOption
  leftOut {s s' : String} {before after : List (Doc × Doc)} {key : Doc}
    (own : isNamed names (key, .bool false) = true) (without : given names (before ++ after) = [])
    (text : IsText s (.object (before ++ after) true))
    (text' : IsText s' (.object (before ++ (key, .bool false) :: after) true)) :
    (ofText read s).toOption = (ofText read s').toOption
  repeated {s : String} {members : List (Doc × Doc)} (twice : 2 ≤ (given names members).length)
    (text : IsText s (.object members true)) : ∃ e, ofText read s = .error e
  short {s s' : String} {id name : Doc} (text : IsText s (.array [id, name] true))
    (text' : IsText s' (.array [id, name, .bool false] true)) :
    (ofText read s).toOption = (ofText read s').toOption
  meantItem {s s' : String} {id name v : Doc} {items : List Doc} {b : Bool} (means : Means v b)
    (text : IsText s (.array (id :: name :: v :: items) true))
    (text' : IsText s' (.array (id :: name :: .bool b :: items) true)) :
    (ofText read s).toOption = (ofText read s').toOption

def Field.flag (name : String) (aliases : List String) : Field Bool :=
  .withDefault name aliases Decode.flag false

variable {α β γ : Type} {ts : List Type} {first : Field α} {second : Field β} {name : String}
  {aliases : List String} {rest : Fields ts} {members before after : List (Doc × Doc)} {key v : Doc}
  {own : List Doc} {names : List String} {s s' : String}

theorem toOption_eq_some {ε : Type} {x : Except ε α} {a : α} :
    x.toOption = some a ↔ x = .ok a := by
  cases x <;> simp

theorem isText_of_ofText {read : Reader α} {a : α} (h : ofText read s = .ok a) :
    ∃ d, IsText s d ∧ read .text d = .ok a := by
  cases tree : Doc.ofText s.toList with
  | mk d clean =>
    simp only [ofText, ofReading, tree] at h
    cases value : read .text d with
    | error e => rw [value] at h; cases h
    | ok a' =>
      rw [value] at h
      cases clean with
      | false => cases h
      | true => exact ⟨d, tree, value.trans h⟩

theorem Field.flag_value? : (Field.flag name aliases).value? ctx own = some b ↔
    own = [] ∧ b = false ∨ ∃ v, own = [v] ∧ Means v b := by
  match own with
  | [] => simp [value?, flag, withDefault, eq_comm]
  | [v] =>
    rw [value?, flag, withDefault, toOption_eq_some, flag_eq_ok_iff]
    simp
  | _ :: _ :: _ => simp [value?]

theorem Field.flag_value?_congr (means : Means v b) :
    (Field.flag name aliases).value? ctx (v :: own) =
      (Field.flag name aliases).value? ctx (.bool b :: own) := by
  cases own with
  | nil => rw [flag_value?.2 (.inr ⟨v, rfl, means⟩), flag_value?.2 (.inr ⟨_, rfl, .literal b⟩)]
  | cons _ _ => rfl

def Fields.flagged (first : Field α) (second : Field β) (name : String) (aliases : List String)
    (rest : Fields ts) : Fields (α :: β :: Bool :: ts) :=
  .cons first (.cons second (.cons (.flag name aliases) rest))

def Fields.valuesWith? (ctx : Context) (members : List (Doc × Doc)) (first : Field α)
    (second : Field β) (rest : Fields ts) (isSet : Option Bool) :
    Option (Values (α :: β :: Bool :: ts)) :=
  (first.value? ctx (given first.spellings members)).bind fun a =>
    ((second.value? ctx (given second.spellings members)).bind fun b =>
      (isSet.bind fun c => (rest.values? ctx members).map fun values => (c, values)).map
        fun values => (b, values)).map fun values => (a, values)

theorem Fields.flagged_values? : (flagged first second name aliases rest).values? ctx members =
    valuesWith? ctx members first second rest
      ((Field.flag name aliases).value? ctx (given (name :: aliases) members)) := rfl

theorem Fields.valuesWith?_cons (separate : (flagged first second name aliases rest).Separate)
    (own : isNamed (name :: aliases) (key, v) = true) (isSet : Option Bool) :
    valuesWith? ctx ((key, v) :: members) first second rest isSet =
      valuesWith? ctx members first second rest isSet := by
  obtain ⟨apart₁, apart₂, apart₃, -⟩ := separate
  obtain ⟨spelling, spelled, listed⟩ := isNamed_iff.1 own
  have other₁ : spelling ∉ first.spellings := fun h =>
    apart₁ _ h (List.mem_append_right _ (List.mem_append_left _ listed))
  have other₂ : spelling ∉ second.spellings := fun h =>
    apart₂ _ h (List.mem_append_left _ listed)
  rw [valuesWith?, valuesWith?, given_cons_of_not_mem spelled other₁,
    given_cons_of_not_mem spelled other₂, values?_of_not_mem spelled (apart₃ _ listed)]

theorem Fields.flagged_values?_cons
    (separate : (flagged first second name aliases rest).Separate)
    (own : isNamed (name :: aliases) (key, v) = true) :
    (flagged first second name aliases rest).values? ctx (before ++ (key, v) :: after) =
      valuesWith? ctx (before ++ after) first second rest
        ((Field.flag name aliases).value? ctx
          (v :: given (name :: aliases) (before ++ after))) := by
  obtain ⟨spelling, spelled, listed⟩ := isNamed_iff.1 own
  rw [values?_perm List.perm_middle, flagged_values?, valuesWith?_cons separate own,
    given_cons_of_mem spelled listed]

theorem Fields.flag_of_values? {values : Values (α :: β :: Bool :: ts)}
    (h : (flagged first second name aliases rest).values? ctx members = some values) :
    (Field.flag name aliases).value? ctx (given (name :: aliases) members) =
      some values.2.2.1 := by
  simp only [flagged, values?, Option.bind_eq_some_iff, Option.map_eq_some_iff] at h
  obtain ⟨a, -, _, ⟨b, -, _, ⟨c, flag, _, -, rfl⟩, rfl⟩, rfl⟩ := h
  exact flag

theorem Fields.flag_of_items? {items left : List Doc} {values : Values (α :: β :: Bool :: ts)}
    (h : (flagged first second name aliases rest).items? ctx items = some (values, left)) :
    (Field.flag name aliases).value? ctx items[2]?.toList = some values.2.2.1 := by
  simp only [flagged, items?, Option.bind_eq_some_iff, Option.map_eq_some_iff,
    Prod.mk.injEq] at h
  obtain ⟨a, -, ⟨_, _⟩, ⟨b, -, ⟨_, _⟩, ⟨c, flag, ⟨_, _⟩, -, rfl, -⟩, rfl, -⟩, rfl, -⟩ := h
  have third : items[2]? = items.tail.tail.head? := by simp [List.head?_eq_getElem?]
  rw [third]
  cases given : items.tail.tail.head? with
  | none => rwa [given] at flag
  | some d => rwa [given] at flag

theorem flag_of_record {title : String} {values : Values (α :: β :: Bool :: ts)}
    (separate : (Fields.flagged first second name aliases rest).Separate)
    (h : (record title (Fields.flagged first second name aliases rest) .text d).toOption =
      some values) :
    flagsGiven (name :: aliases) d = [] ∧ values.2.2.1 = false ∨
      ∃ v, flagsGiven (name :: aliases) d = [v] ∧ Means v values.2.2.1 := by
  cases d with
  | object members closed =>
    have read : ((Fields.flagged first second name aliases rest).ofMembers .inText members
      closed).toOption = some values := h
    rw [Fields.ofMembers_toOption separate] at read
    obtain ⟨-, read⟩ := Option.ite_none_right_eq_some.1 read
    exact Field.flag_value?.1 (Fields.flag_of_values? read)
  | array items closed =>
    have read : ((Fields.flagged first second name aliases rest).ofItems title .inText items
      closed).toOption = some values := h
    rw [Fields.ofItems_toOption] at read
    obtain ⟨-, read⟩ := Option.ite_none_right_eq_some.1 read
    obtain ⟨⟨_, left⟩, read, whole⟩ := Option.bind_eq_some_iff.1 read
    obtain ⟨-, whole⟩ := Option.ite_none_right_eq_some.1 whole
    cases whole
    exact Field.flag_value?.1 (Fields.flag_of_items? read)
  | _ => cases h

theorem failsClosed_flagged (title : String)
    (separate : (Fields.flagged first second name aliases rest).Separate)
    (f : Values (α :: β :: Bool :: ts) → γ) (isSet : γ → Bool)
    (same : ∀ values, isSet (f values) = values.2.2.1) :
    FailsClosed ((record title (Fields.flagged first second name aliases rest)).map f) isSet
      (name :: aliases) where
  decided {s a} h := by
    obtain ⟨d, text, read⟩ := isText_of_ofText h
    have mapped := toOption_eq_some.2 read
    rw [Reader.map, toOption_map] at mapped
    obtain ⟨values, recorded, rfl⟩ := Option.map_eq_some_iff.1 mapped
    rw [same]
    exact ⟨d, text, flag_of_record separate recorded⟩
  meant {_ _ before after key v b} own means text text' := by
    obtain ⟨spelling, spelled, -⟩ := isNamed_iff.1 own
    have own' : isNamed (name :: aliases) (key, .bool b) = true := own
    refine text.ofText_congr separate text' ?_ ?_ title f
    · rw [text.all_admits _ spelled, text'.all_admits _ spelled]
    · rw [Fields.flagged_values?_cons separate own, Fields.flagged_values?_cons separate own',
        Field.flag_value?_congr means]
  leftOut {_ _ before after key} own without text text' := by
    obtain ⟨spelling, spelled, -⟩ := isNamed_iff.1 own
    refine text.ofText_congr separate text' (text'.all_admits _ spelled).symm ?_ title f
    rw [Fields.flagged_values?_cons separate own, Fields.flagged_values?, without]
    rfl
  repeated twice text :=
    text.refused_of_twice separate (by simp [Fields.flagged, Fields.spellings, Field.spellings,
      Field.flag, Field.withDefault]) twice title f
  short text text' := by
    rw [text.ofText_array, text'.ofText_array, Fields.ofItems_toOption, Fields.ofItems_toOption]
    rfl
  meantItem {_ _ id label v items b} means text text' := by
    have worth : (Field.flag name aliases).value? .inText [v] =
        (Field.flag name aliases).value? .inText [.bool b] := Field.flag_value?_congr means
    have worth : (Field.flag name aliases).item? .inText (some v) =
        (Field.flag name aliases).item? .inText (some (.bool b)) := worth
    rw [text.ofText_array, text'.ofText_array, Fields.ofItems_toOption, Fields.ofItems_toOption]
    simp only [Fields.flagged, Fields.items?, List.head?_cons, List.tail_cons, worth]

end Decode

/-- The flags that give rights fail closed: that of an administrator, and that of a public
project. -/
theorem flags_failClosed :
    FailsClosed CurrentUser.reader (·.admin) ["admin", "has_admin_role"] ∧
      FailsClosed Project.reader (·.isPublic) ["public"] :=
  ⟨failsClosed_flagged "CurrentUser" (by decide) _ _ fun _ => rfl,
    failsClosed_flagged "Project" (by decide) _ _ fun _ => rfl⟩

example : ofText CurrentUser.reader
    "\x7b\"username\":\"ada\",\"has_admin_role\":\" True\",\"user_id\":1\x7d" =
      .ok ⟨1, "ada", true⟩ := by
  decide +kernel

example : ofText CurrentUser.reader "[1,\"ada\",1.0]" = .error .notAFlag := by decide +kernel

end ConsoleGateway
