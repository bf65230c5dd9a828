import Mathlib.Data.List.Nodup
import ConsoleGateway.Toml.Document

namespace ConsoleGateway.Toml

structure Keyed (P : β → Prop) (entries : List (String × β)) : Prop where
  distinct : (entries.map Prod.fst).Nodup
  each : ∀ key b, (key, b) ∈ entries → P b

namespace Keyed

variable {P : β → Prop} {Q : γ → Prop} {entries entries' : List (String × β)} {key : String}

theorem nil (P : β → Prop) : Keyed P [] := ⟨.nil, nofun⟩

theorem map {f : β → γ} (keyed : Keyed P entries) (each : ∀ b, P b → Q (f b)) :
    Keyed Q (entries.map fun (key, b) => (key, f b)) where
  distinct := by
    rw [List.map_map]
    exact keyed.distinct
  each key c listed := by
    obtain ⟨⟨key', b⟩, there, same⟩ := List.mem_map.1 listed
    cases same
    exact each b (keyed.each key b there)

theorem append (keyed : Keyed P entries) (keyed' : Keyed P entries')
    (apart : ∀ key ∈ entries.map Prod.fst, key ∉ entries'.map Prod.fst) :
    Keyed P (entries ++ entries') where
  distinct := by
    rw [List.map_append]
    exact keyed.distinct.append keyed'.distinct (List.disjoint_left.2 @apart)
  each key b listed :=
    (List.mem_append.1 listed).elim (keyed.each key b) (keyed'.each key b)

end Keyed

theorem Branch.alter_cases {key : String} {change : Option β → Option β}
    {entries entries' : List (String × β)} (altered : alter key change entries = some entries') :
    (key ∉ entries.map Prod.fst ∧ ∃ b, change none = some b ∧ entries' = entries ++ [(key, b)]) ∨
      ∃ before old new after, entries = before ++ (key, old) :: after ∧
        change (some old) = some new ∧ entries' = before ++ (key, new) :: after := by
  induction entries generalizing entries' with
  | nil =>
    obtain ⟨b, made, rfl⟩ := Option.map_eq_some_iff.1 altered
    exact .inl ⟨nofun, b, made, rfl⟩
  | cons entry entries ih =>
    obtain ⟨k, old⟩ := entry
    rw [alter] at altered
    split at altered
    · rename_i same
      obtain ⟨new, made, rfl⟩ := Option.map_eq_some_iff.1 altered
      subst same
      exact .inr ⟨[], old, new, entries, rfl, made, rfl⟩
    · rename_i other
      obtain ⟨rest, inner, rfl⟩ := Option.map_eq_some_iff.1 altered
      rcases ih inner with ⟨missing, b, made, rfl⟩ | ⟨before, old', new, after, rfl, made, rfl⟩
      · refine .inl ⟨?_, b, made, rfl⟩
        rw [List.map_cons, List.mem_cons, not_or]
        exact ⟨Ne.symm other, missing⟩
      · exact .inr ⟨(k, old) :: before, old', new, after, rfl, made, rfl⟩

theorem Keyed.alter {P : β → Prop} {key : String} {change : Option β → Option β}
    {entries entries' : List (String × β)} (keyed : Keyed P entries)
    (made : ∀ b, change none = some b → P b)
    (changed : ∀ old new, P old → change (some old) = some new → P new)
    (altered : Branch.alter key change entries = some entries') : Keyed P entries' := by
  rcases Branch.alter_cases altered with
    ⟨missing, b, hb, rfl⟩ | ⟨before, old, new, after, rfl, hnew, rfl⟩
  · refine keyed.append ⟨List.nodup_singleton _, fun k c listed => ?_⟩ fun k there again => ?_
    · cases List.mem_singleton.1 listed
      exact made b hb
    · rw [List.map_singleton, List.mem_singleton] at again
      obtain rfl : k = key := again
      exact missing there
  · refine ⟨?_, fun k c listed => ?_⟩
    · have := keyed.distinct
      rw [List.map_append, List.map_cons] at this ⊢
      exact this
    · have stays : ∀ k c, (k, c) ∈ before ∨ (k, c) ∈ after → P c := by
        intro k c there
        refine keyed.each k c ?_
        rw [List.mem_append, List.mem_cons]
        exact there.imp_right .inr
      rw [List.mem_append, List.mem_cons] at listed
      rcases listed with there | same | there
      · exact stays k c (.inl there)
      · cases same
        exact changed old new (keyed.each key old (by simp)) hnew
      · exact stays k c (.inr there)

def Value.isTable : Value → Bool
  | table _ => true
  | _ => false

inductive Value.IsKeyed : Value → Prop
  | table {entries : Table} (distinct : (entries.map Prod.fst).Nodup)
    (each : ∀ key v, (key, v) ∈ entries → IsKeyed v) : IsKeyed (.table entries)
  | single {v : Value} (other : v.isTable = false) : IsKeyed v

theorem Value.isKeyed_table {entries : Table} :
    IsKeyed (.table entries) ↔ Keyed IsKeyed entries := by
  constructor
  · intro keyed
    cases keyed with
    | table distinct each => exact ⟨distinct, each⟩
    | single other => cases other
  · exact fun keyed => .table keyed.distinct keyed.each

namespace Branch

inductive IsKeyed : Branch → Prop
  | leaf {v : Value} (keyed : v.IsKeyed) : IsKeyed (leaf v)
  | dotted {entries : List (String × Branch)} (distinct : (entries.map Prod.fst).Nodup)
    (each : ∀ key b, (key, b) ∈ entries → IsKeyed b) : IsKeyed (dotted entries)

theorem isKeyed_dotted {entries : List (String × Branch)} :
    IsKeyed (dotted entries) ↔ Keyed IsKeyed entries := by
  constructor
  · intro keyed
    cases keyed with
    | dotted distinct each => exact ⟨distinct, each⟩
  · exact fun keyed => .dotted keyed.distinct keyed.each

theorem toTable_eq (entries : List (String × Branch)) :
    toTable entries = entries.map fun (key, b) => (key, b.toValue) := by
  induction entries with
  | nil => rfl
  | cons entry entries ih => rw [toTable, ih, List.map_cons]

theorem IsKeyed.toValue {b : Branch} (keyed : b.IsKeyed) : b.toValue.IsKeyed := by
  induction keyed with
  | leaf keyed => exact keyed
  | @dotted entries distinct each ih =>
    rw [Branch.toValue, Value.isKeyed_table, toTable_eq]
    exact Keyed.map ⟨distinct, fun key b there => ih key b there⟩ fun b kept => kept

theorem keyed_toTable {entries : List (String × Branch)} (keyed : Keyed IsKeyed entries) :
    Keyed Value.IsKeyed (toTable entries) := by
  rw [toTable_eq]
  exact keyed.map fun b => IsKeyed.toValue

theorem keyed_add {v : Value} (keyedValue : v.IsKeyed) {path : List String}
    {entries entries' : List (String × Branch)} (keyed : Keyed IsKeyed entries)
    (added : add v path entries = some entries') : Keyed IsKeyed entries' := by
  induction path generalizing entries entries' with
  | nil => cases added
  | cons key path ih =>
    cases path with
    | nil =>
      refine keyed.alter (fun b made => ?_) (fun old new _ made => ?_) added
      · cases made
        exact .leaf keyedValue
      · cases made
    | cons key' path =>
      refine keyed.alter (fun b made => ?_) (fun old new there made => ?_) added
      · obtain ⟨inner, below, rfl⟩ := Option.map_eq_some_iff.1 made
        exact isKeyed_dotted.2 (ih (.nil _) below)
      · cases old with
        | leaf => cases made
        | dotted old =>
          obtain ⟨inner, below, rfl⟩ := Option.map_eq_some_iff.1 made
          exact isKeyed_dotted.2 (ih (isKeyed_dotted.1 there) below)

end Branch

namespace Node

inductive IsKeyed : Node → Prop
  | value {v : Value} (keyed : v.IsKeyed) : IsKeyed (value v)
  | table {headed : Bool} {entries : List (String × Node)}
    (distinct : (entries.map Prod.fst).Nodup)
    (each : ∀ key n, (key, n) ∈ entries → IsKeyed n) : IsKeyed (table headed entries)
  | tables (done : List (List (String × Node))) (last : List (String × Node)) :
    IsKeyed (tables done last)

theorem isKeyed_table {headed : Bool} {entries : List (String × Node)} :
    IsKeyed (table headed entries) ↔ Keyed IsKeyed entries := by
  constructor
  · intro keyed
    cases keyed with
    | table distinct each => exact ⟨distinct, each⟩
  · exact fun keyed => .table keyed.distinct keyed.each

theorem toTable_eq (entries : List (String × Node)) :
    toTable entries = entries.map fun (key, n) => (key, n.toValue) := by
  induction entries with
  | nil => rfl
  | cons entry entries ih => rw [toTable, ih, List.map_cons]

theorem IsKeyed.toValue {n : Node} (keyed : n.IsKeyed) : n.toValue.IsKeyed := by
  induction keyed with
  | value keyed => exact keyed
  | @table headed entries distinct each ih =>
    rw [Node.toValue, Value.isKeyed_table, toTable_eq]
    exact Keyed.map ⟨distinct, fun key n there => ih key n there⟩ fun n kept => kept
  | tables done last => exact .single rfl

theorem keyed_toTable {entries : List (String × Node)} (keyed : Keyed IsKeyed entries) :
    Keyed Value.IsKeyed (toTable entries) := by
  rw [toTable_eq]
  exact keyed.map fun n => IsKeyed.toValue

theorem keyed_ofTable {t : Table} (keyed : Keyed Value.IsKeyed t) : Keyed IsKeyed (ofTable t) :=
  keyed.map fun _ => .value

variable {old new entries entries' : List (String × Node)}

theorem keyed_join (keyedOld : Keyed IsKeyed old) (keyedNew : Keyed IsKeyed new)
    (joined : join old new = some entries) : Keyed IsKeyed entries := by
  unfold join at joined
  split at joined
  · cases joined
  · rename_i apart
    cases joined
    refine keyedOld.append keyedNew fun key there again => apart ?_
    obtain ⟨⟨_, n⟩, among, rfl⟩ := List.mem_map.1 again
    obtain ⟨⟨_, n'⟩, before, rfl⟩ := List.mem_map.1 there
    exact List.any_eq_true.2 ⟨_, among, List.lookup_isSome_iff.2 ⟨_, before, beq_self_eq_true _⟩⟩

theorem isKeyed_settle {doubled : Bool} (keyedNew : Keyed IsKeyed new) {there : Option Node}
    {n : Node} (keyed : ∀ old ∈ there, old.IsKeyed) (settled : settle doubled new there = some n) :
    n.IsKeyed := by
  unfold settle at settled
  split at settled
  · split at settled <;> cases settled
    · exact .tables _ _
    · exact isKeyed_table.2 keyedNew
  · split at settled
    · cases settled
    · obtain ⟨entries, joined, rfl⟩ := Option.map_eq_some_iff.1 settled
      exact isKeyed_table.2 (keyed_join (isKeyed_table.1 (keyed _ rfl)) keyedNew joined)
  · split at settled <;> cases settled
    exact .tables _ _
  · cases settled

theorem keyed_place {doubled : Bool} (keyedNew : Keyed IsKeyed new) {path : List String}
    (keyed : Keyed IsKeyed entries) (placed : place doubled new path entries = some entries') :
    Keyed IsKeyed entries' := by
  induction path generalizing entries entries' with
  | nil => cases placed
  | cons key path ih =>
    cases path with
    | nil =>
      refine keyed.alter (fun n made => ?_) (fun old n there made => ?_) placed
      · exact isKeyed_settle keyedNew (by simp) made
      · exact isKeyed_settle keyedNew (fun _ same => Option.some.inj same ▸ there) made
    | cons key' path =>
      refine keyed.alter (fun n made => ?_) (fun old n there made => ?_) placed
      · obtain ⟨inner, below, rfl⟩ := Option.map_eq_some_iff.1 made
        exact isKeyed_table.2 (ih (.nil _) below)
      · cases old with
        | value => cases made
        | table headed old =>
          obtain ⟨inner, below, rfl⟩ := Option.map_eq_some_iff.1 made
          exact isKeyed_table.2 (ih (isKeyed_table.1 there) below)
        | tables done last =>
          obtain ⟨inner, -, rfl⟩ := Option.map_eq_some_iff.1 made
          exact .tables _ _

end Node

variable {ts ts' : List Token} {word : List Char} {v : Value}

def Single (answer : Option (Value × List Token)) : Prop :=
  ∀ v ts, answer = some (v, ts) → v.isTable = false

namespace Single

variable {x : Option α}

theorem none : Single none := nofun

theorem some (other : v.isTable = false) (ts : List Token) : Single (some (v, ts)) := by
  rintro _ _ ⟨⟩
  exact other

theorem bind {f : α → Option (Value × List Token)} (each : ∀ a, Single (f a)) :
    Single (x >>= f) := by
  cases x with
  | none => exact none
  | some a => exact each a

theorem map {f : α → Value × List Token} (each : ∀ a, (f a).1.isTable = false) :
    Single (x.map f) := by
  cases x with
  | none => exact none
  | some a => exact some (each a) _

theorem ite {p : Prop} [Decidable p] {x y : Option (Value × List Token)} (yes : Single x)
    (no : Single y) : Single (if p then x else y) := by
  split
  · exact yes
  · exact no

end Single

theorem single_float? (word : List Char) (after : Option (List Char)) (ts : List Token) :
    Single (float? word after ts) := by
  unfold float?
  refine .bind fun whole => ?_
  cases after with
  | none => exact .bind fun fraction => .bind fun e => .bind fun f => .some rfl _
  | some text =>
    exact .ite (.bind fun fraction => .bind fun e => .bind fun f => .some rfl _) .none

theorem single_number? (word : List Char) (ts : List Token) : Single (number? word ts) := by
  have whole (ts : List Token) : Single ((integer? word).map fun z => (.integer z, ts)) :=
    .map fun _ => rfl
  unfold number?
  refine .ite (whole ts) (.ite (single_float? word none ts) ?_)
  split
  · exact single_float? word _ _
  · exact .none
  · exact .ite (.some rfl _) (.ite (.some rfl _) (.ite (.some rfl _) (whole ts)))

theorem single_datetime? (word : List Char) (colon : Bool) (ts : List Token) :
    Single (datetime? word colon ts) := by
  have shown (text : List Char) (ts : List Token) : Single do
      let t ← Datetime.ofText? text
      return (Value.datetime t.text, ts) := .bind fun _ => .some rfl _
  unfold datetime?
  dsimp only
  split
  · exact .bind fun _ => shown _ _
  · split
    · exact .bind fun _ => shown _ _
    · exact .bind fun _ => shown _ _

theorem single_items? (fuel : Nat) (ts : List Token) : Single (items? fuel ts) := by
  cases fuel with
  | zero => exact .none
  | succ fuel =>
    unfold items?
    refine .bind fun ts => ?_
    split
    · exact .some rfl _
    · refine .bind fun (v, ts) => .bind fun ts => ?_
      split
      · exact .some rfl _
      · refine .bind fun rest => ?_
        split
        · exact .some rfl _
        · exact .none
      · exact .none

theorem single_ofWord? (word : List Char) (ts : List Token) : Single (ofWord? word ts) := by
  have numberOrDate : Single (numberOrDate? word ts) := by
    unfold numberOrDate?
    refine .ite (single_datetime? word false ts) ?_
    split
    · exact single_datetime? word true _
    · exact single_number? word ts
  unfold ofWord?
  refine .ite (.some rfl _) (.ite (.some rfl _) (.ite numberOrDate ?_))
  split
  · exact .ite numberOrDate .none
  · exact .none

mutual

theorem isKeyed_value? {fuel : Nat} {v : Value} {ts ts' : List Token}
    (read : value? fuel ts = some (v, ts')) : v.IsKeyed := by
  cases fuel with
  | zero => cases read
  | succ fuel =>
    unfold value? at read
    split at read
    · cases read
      exact .single rfl
    · exact .single (single_ofWord? _ _ _ _ read)
    · exact .single (single_number? _ _ _ _ read)
    · split at read
      · cases read
        exact Value.isKeyed_table.2 (.nil _)
      · exact isKeyed_pairs? (.nil _) read
    · exact .single (single_items? _ _ _ _ read)
    · cases read

theorem isKeyed_pairs? {fuel : Nat} {entries : List (String × Branch)} {v : Value}
    {ts ts' : List Token} (keyed : Keyed Branch.IsKeyed entries)
    (read : pairs? fuel entries ts = some (v, ts')) : v.IsKeyed := by
  cases fuel with
  | zero => cases read
  | succ fuel =>
    unfold pairs? at read
    simp only [Option.bind_eq_bind, Option.bind_eq_some_iff] at read
    obtain ⟨⟨key, ts₁⟩, -, ts₂, -, ⟨value, ts₃⟩, given, entries', added, read⟩ := read
    have keyed' := Branch.keyed_add (isKeyed_value? given) keyed added
    split at read
    · cases read
      exact Value.isKeyed_table.2 (Branch.keyed_toTable keyed')
    · exact isKeyed_pairs? keyed' read
    · cases read

end

theorem isKeyed_line? {key : List String} {v : Value} {ts ts' : List Token}
    (read : line? ts = some ((key, v), ts')) : v.IsKeyed := by
  simp only [line?, Option.bind_eq_bind, Option.bind_eq_some_iff] at read
  obtain ⟨⟨key', ts₁⟩, -, ts₂, -, ⟨v', ts₃⟩, given, ts₄, -, same⟩ := read
  cases same
  exact isKeyed_value? given

theorem Section.keyed_of_sections? {fuel : Nat} {current : Section} {ts : List Token}
    {sections : List Section} (keyed : Keyed Branch.IsKeyed current.entries)
    (read : sections? fuel current ts = some sections) :
    ∀ s ∈ sections, Keyed Branch.IsKeyed s.entries := by
  induction fuel generalizing current ts sections with
  | zero => cases read
  | succ fuel ih =>
    unfold sections? at read
    obtain ⟨ts₁, -, read⟩ := Option.bind_eq_some_iff.1 read
    split at read
    · cases read
      simpa using keyed
    · obtain ⟨⟨header, ts₂⟩, -, read⟩ := Option.bind_eq_some_iff.1 read
      obtain ⟨later, rest, read⟩ := Option.bind_eq_some_iff.1 read
      cases read
      exact List.forall_mem_cons.2 ⟨keyed, ih (.nil _) rest⟩
    · obtain ⟨⟨⟨key, v⟩, ts₂⟩, line, read⟩ := Option.bind_eq_some_iff.1 read
      obtain ⟨entries, added, read⟩ := Option.bind_eq_some_iff.1 read
      exact ih (Branch.keyed_add (isKeyed_line? line) keyed added) read

theorem Section.keyed_addTo {s : Section} {root root' : List (String × Node)}
    (keyed : Keyed Node.IsKeyed root) (keyed' : Keyed Branch.IsKeyed s.entries)
    (added : s.addTo root = some root') : Keyed Node.IsKeyed root' := by
  have new := Node.keyed_ofTable (Branch.keyed_toTable keyed')
  unfold addTo at added
  dsimp only at added
  split at added
  · exact Node.keyed_join keyed new added
  · exact Node.keyed_place new keyed added

theorem Section.keyed_foldlM {sections : List Section} {root root' : List (String × Node)}
    (keyed : Keyed Node.IsKeyed root) (each : ∀ s ∈ sections, Keyed Branch.IsKeyed s.entries)
    (folded : sections.foldlM (fun root s => s.addTo root) root = some root') :
    Keyed Node.IsKeyed root' := by
  induction sections generalizing root with
  | nil =>
    cases folded
    exact keyed
  | cons s sections ih =>
    obtain ⟨next, added, folded⟩ := Option.bind_eq_some_iff.1 folded
    obtain ⟨here, later⟩ := List.forall_mem_cons.1 each
    exact ih (s.keyed_addTo keyed here added) later folded

theorem Table.keyed_of_ofText? {cs : List Char} {t : Table} (read : ofText? cs = some t) :
    Keyed Value.IsKeyed t := by
  unfold ofText? at read
  obtain ⟨ts, -, read⟩ := Option.bind_eq_some_iff.1 read
  obtain ⟨sections, found, read⟩ := Option.bind_eq_some_iff.1 read
  obtain ⟨root, folded, read⟩ := Option.bind_eq_some_iff.1 read
  cases read
  have each := Section.keyed_of_sections? (.nil _) found
  exact Node.keyed_toTable (Section.keyed_foldlM (.nil _) each folded)

end ConsoleGateway.Toml
