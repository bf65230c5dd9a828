import ConsoleGateway.Decode.Record
import ConsoleGateway.Proofs.FormText
import ConsoleGateway.Proofs.JsonTree

namespace ConsoleGateway.Decode

open Json

variable {α β : Type} {r : Reader α} {levels : Nat} {v : Value} {a : α} {ctx : Context}

/-- The reader takes the value for `a` wherever so many lists may still be entered. -/
def Reads (r : Reader α) (levels : Nat) (v : Value) (a : α) : Prop :=
  ∀ ctx : Context, levels ≤ ctx.depth → r ctx v.doc = .ok a

theorem Reads.mono {levels' : Nat} (reads : Reads r levels v a) (more : levels ≤ levels') :
    Reads r levels' v a :=
  fun ctx deep => reads ctx (Nat.le_trans more deep)

theorem Reads.anywhere (reads : Reads r 0 v a) : Reads r levels v a :=
  reads.mono (Nat.zero_le levels)

theorem Reads.map (f : α → β) (reads : Reads r levels v a) : Reads (r.map f) levels v (f a) := by
  intro ctx deep
  rw [Reader.map, reads ctx deep]
  rfl

theorem exists_enter (deep : levels + 1 ≤ ctx.depth) :
    ∃ inner, ctx.enter = .ok inner ∧ levels ≤ inner.depth := by
  obtain ⟨source, depth⟩ := ctx
  cases depth with
  | zero => simp at deep
  | succ depth =>
    cases source with
    | text => exact ⟨⟨.text, depth⟩, rfl, Nat.le_of_succ_le_succ deep⟩
    | value => exact ⟨⟨.value, depth + 1⟩, rfl, Nat.le_of_succ_le deep⟩
    | buffer => exact ⟨⟨.buffer, depth + 1⟩, rfl, Nat.le_of_succ_le deep⟩

@[simp] theorem text?_pieces (s : String) : text? (.string (pieces s)) = some s := by
  simp [text?, pieces, joinPieces_map_piece]

theorem reads_int64 (z : Int64) : Reads int64 0 (.int z.toInt) z := by
  intro ctx _
  have low := z.le_toInt
  have high := z.toInt_lt
  have least : Int64.minValue.toInt = -2 ^ 63 := rfl
  have most : Int64.maxValue.toInt = 2 ^ 63 - 1 := rfl
  have read := value?_ofInt low (by omega)
  simp only [int64, Value.doc, read]
  by_cases negative : z.toInt < 0
  · simp [negative]
  · have fits : Integer.fitsInt64 (z.toInt.toNat : Int) = true := by
      simp only [Integer.fitsInt64, Bool.and_eq_true, decide_eq_true_eq, least, most]
      omega
    have back : (z.toInt.toNat : Int) = z.toInt := by omega
    simp only [negative, if_false, fits, if_true]
    rw [back, Int64.ofInt_toInt]

theorem reads_natural (expected : String) {bound n : Nat} (small : n < bound)
    (fits : bound ≤ 2 ^ 64) : Reads (natural expected bound) 0 (.int n) n := by
  intro ctx _
  have read := value?_ofInt (z := n) (by omega) (by omega)
  simp only [natural, Value.doc, read]
  simp [small, show ¬(n : Int) < 0 by omega]

theorem reads_uint64 (n : UInt64) : Reads uint64 0 (.int n.toNat) n := by
  have read := (reads_natural "u64" n.toNat_lt (by decide)).map UInt64.ofNat
  rwa [UInt64.ofNat_toNat] at read

theorem reads_uint32 (n : UInt32) : Reads uint32 0 (.int n.toNat) n := by
  have read := (reads_natural "u32" n.toNat_lt (by decide)).map UInt32.ofNat
  rwa [UInt32.ofNat_toNat] at read

theorem reads_bool (b : Bool) : Reads bool 0 (.bool b) b := fun _ _ => rfl

theorem reads_string (s : String) : Reads string 0 (.string s) s := by
  intro ctx _
  simp [string, Value.doc]

theorem buffer_of_readable {d : Doc} (h : readable ctx.depth d = true) : buffer ctx d = .ok () := by
  simp [buffer, h]

theorem readable_bool (depth : Nat) (b : Bool) : readable depth (.bool b) = true := by
  cases depth <;> rfl

theorem readable_string (depth : Nat) (s : String) :
    readable depth (.string (pieces s)) = true := by
  have found : (found? (.string (pieces s))).isSome = true := by
    simp [found?, pieces, joinPieces_map_piece]
  cases depth <;> exact found

theorem readable_int64 (depth : Nat) (z : Int64) :
    readable depth (.number (.ofInt z.toInt)) = true := by
  have low := z.le_toInt
  have high := z.toInt_lt
  have found : (found? (.number (.ofInt z.toInt))).isSome = true := by
    have read := value?_ofInt low (by omega)
    by_cases negative : z.toInt < 0 <;> simp [found?, read, negative]
  cases depth <;> exact found

theorem reads_flag (b : Bool) : Reads flag 0 (.bool b) b := by
  intro ctx _
  simp only [flag, Value.doc, buffer_of_readable (readable_bool ctx.depth b), found?]
  rfl

theorem reads_null {s : Reader α} : Reads (optional s) 0 .null none := fun _ _ => rfl

theorem Reads.optional (reads : Reads r levels v a) (given : v.doc ≠ .null) :
    Reads (optional r) levels v (some a) := by
  intro ctx deep
  have same : Decode.optional r ctx v.doc = (r ctx v.doc).map some := by
    unfold Decode.optional
    split
    · rename_i null
      exact absurd null given
    · rfl
  rw [same, reads ctx deep]
  rfl

theorem reads_ofOption {write : α → Value} (each : ∀ a, Reads r levels (write a) a)
    (given : ∀ a, (write a).doc ≠ .null) (a? : Option α) :
    Reads (Decode.optional r) levels (.ofOption write a?) a? := by
  cases a? with
  | none => exact reads_null.anywhere
  | some a => exact (each a).optional (given a)

theorem reads_list {write : α → Value} {items : List α}
    (each : ∀ a ∈ items, Reads r levels (write a) a) :
    Reads (list r) (levels + 1) (.array (items.map write)) items := by
  intro ctx deep
  obtain ⟨inner, enters, deep⟩ := exists_enter deep
  have values : ((items.map write).map Value.doc).mapM (r inner) = .ok items := by
    induction items with
    | nil => rfl
    | cons a items ih =>
      obtain ⟨first, rest⟩ := List.forall_mem_cons.1 each
      rw [List.map_cons, List.map_cons, List.mapM_cons, first inner deep, ih rest]
      rfl
  simp only [list, Value.doc, Value.itemDocs_eq, enters, bind, Except.bind]
  rw [show List.mapM _ _ = _ from values]
  rfl

theorem reads_pair {s : Reader β} {w : Value} {b : β} (first : Reads r levels v a)
    (second : Reads s levels w b) : Reads (pair r s) (levels + 1) (.array [v, w]) (a, b) := by
  intro ctx deep
  obtain ⟨inner, enters, deep⟩ := exists_enter deep
  simp only [pair, Value.doc, Value.itemDocs, enters, bind, Except.bind, first inner deep,
    second inner deep]
  rfl

def Fields.names : Fields ts → List String
  | .nil => []
  | .cons field rest => field.name :: field.aliases ++ rest.names

def Fields.Separate : Fields ts → Prop
  | .nil => True
  | .cons field rest => (∀ name ∈ field.name :: field.aliases, name ∉ rest.names) ∧ rest.Separate

instance Fields.decidableSeparate : {ts : List Type} → (fields : Fields ts) →
    Decidable fields.Separate
  | _, .nil => inferInstanceAs (Decidable True)
  | _, .cons field rest =>
    have := rest.decidableSeparate
    inferInstanceAs (Decidable
      ((∀ name ∈ field.name :: field.aliases, name ∉ rest.names) ∧ rest.Separate))

inductive Spells (levels : Nat) : {ts : List Type} → Fields ts → List (String × Value) →
    Values ts → Prop where
  | nil : Spells levels .nil [] ()
  | cons {α : Type} {ts : List Type} {field : Field α} {rest : Fields ts}
      {v : Value} {a : α} {members : List (String × Value)} {values : Values ts}
      (reads : Reads field.read levels v a) (spells : Spells levels rest members values) :
      Spells levels (.cons field rest) ((field.name, v) :: members) (a, values)

def filled : {ts : List Type} → Values ts → Slots ts
  | [], _ => ()
  | _ :: _, (a, values) => (some a, filled values)

variable {ts : List Type} {fields : Fields ts}

theorem Fields.put?_of_not_mem {name : String} (other : name ∉ fields.names) (ctx : Context)
    (d : Doc) (slots : Slots ts) : fields.put? ctx name d slots = none := by
  induction fields with
  | nil => rfl
  | cons field rest ih =>
    simp only [names, List.mem_append, List.mem_cons, not_or] at other
    obtain ⟨slot, slots⟩ := slots
    rw [put?, if_neg (by simp [other.1]), ih other.2]
    rfl

theorem Fields.put?_isSome {name : String} (own : name ∈ fields.names) (ctx : Context) (d : Doc)
    (slots : Slots ts) : (fields.put? ctx name d slots).isSome = true := by
  induction fields with
  | nil => simp [names] at own
  | cons field rest ih =>
    obtain ⟨slot, slots⟩ := slots
    rw [put?]
    split
    · rfl
    · rename_i other
      have later : name ∈ rest.names := by
        simp only [names, List.mem_append, List.mem_cons] at own
        exact own.resolve_left other
      rw [Option.isSome_map]
      exact ih later slots

theorem finish_filled (fields : Fields ts) (values : Values ts) :
    fields.finish (filled values) = .ok values := by
  induction fields with
  | nil => rfl
  | cons field rest ih =>
    obtain ⟨a, values⟩ := values
    simp only [filled, Fields.finish, ih]
    rfl

theorem Spells.mem_names {members : List (String × Value)} {values : Values ts}
    (spells : Spells levels fields members values) : ∀ m ∈ members, m.1 ∈ fields.names := by
  induction spells with
  | nil => simp
  | cons reads spells ih =>
    intro m hm
    rcases List.mem_cons.1 hm with rfl | later
    · simp [Fields.names]
    · simp [Fields.names, ih m later]

theorem Fields.collect_cons {field : Field α} {rest : Fields ts}
    {members : List (String × Value)}
    (others : ∀ m ∈ members, m.1 ≠ field.name ∧ m.1 ∉ field.aliases) (slot : Option α)
    (slots : Slots ts) :
    (Fields.cons field rest).collect ctx (Value.memberDocs members) (slot, slots) =
      (rest.collect ctx (Value.memberDocs members) slots).map fun slots => (slot, slots) := by
  induction members generalizing slots with
  | nil => rfl
  | cons m members ih =>
    obtain ⟨⟨name, alias_⟩, hrest⟩ := List.forall_mem_cons.1 others
    simp only [Value.memberDocs, collect, text?_pieces, put?, name, alias_, or_self, if_false]
    cases rest.put? ctx m.1 m.2.doc slots with
    | none =>
      dsimp only [Option.map_none]
      split
      · exact ih hrest slots
      · rfl
    | some put =>
      cases put with
      | error e => rfl
      | ok slots => exact ih hrest slots

theorem Spells.collect {members : List (String × Value)} {values : Values ts}
    (spells : Spells levels fields members values) (separate : fields.Separate)
    (deep : levels ≤ ctx.depth) :
    fields.collect ctx (Value.memberDocs members) fields.empty = .ok (filled values) := by
  induction spells with
  | nil => rfl
  | @cons _ _ field rest v a members values reads spells ih =>
    obtain ⟨apart, separate⟩ := separate
    have first : (Fields.cons field rest).put? ctx field.name v.doc (none, rest.empty) =
        some (.ok (some a, rest.empty)) := by
      simp only [Fields.put?, true_or, if_true, Option.isSome_none, reads ctx deep]
      rfl
    have others : ∀ m ∈ members, m.1 ≠ field.name ∧ m.1 ∉ field.aliases := by
      intro m hm
      have named := spells.mem_names m hm
      exact ⟨fun same => apart field.name (by simp) (same ▸ named),
        fun same => apart m.1 (List.mem_cons_of_mem _ same) named⟩
    simp only [Value.memberDocs, Fields.collect, text?_pieces, Fields.empty]
    rw [first]
    dsimp only
    rw [Fields.collect_cons others, ih separate]
    rfl

theorem Spells.ofMembers {members : List (String × Value)} {values : Values ts}
    (spells : Spells levels fields members values) (separate : fields.Separate)
    (deep : levels ≤ ctx.depth) :
    fields.ofMembers ctx (Value.memberDocs members) true = .ok values := by
  rw [Fields.ofMembers, spells.collect separate deep]
  exact finish_filled fields values

theorem Spells.record {members : List (String × Value)} {values : Values ts} (title : String)
    (spells : Spells levels fields members values) (separate : fields.Separate) :
    Reads (record title fields) (levels + 1) (.object members) values := by
  intro ctx deep
  obtain ⟨inner, enters, deep⟩ := exists_enter deep
  simp only [Decode.record, Value.doc, enters, bind, Except.bind]
  exact spells.ofMembers separate deep

variable {read : String → Option (Reader α)} {alone : String → Except Error α}
  {known : List String} {name : String}

theorem reads_variant_alone (listed : (read name).isSome) (stands : alone name = .ok a) :
    Reads (variant read alone known) 0 (.string name) a := by
  intro ctx _
  obtain ⟨s, found⟩ := Option.isSome_iff_exists.1 listed
  simp only [variant, Value.doc, text?_pieces, found]
  exact stands

theorem reads_variant_payload (listed : read name = some r) (reads : Reads r levels v a) :
    Reads (variant read alone known) (levels + 1) (.object [(name, v)]) a := by
  intro ctx deep
  obtain ⟨inner, enters, deep⟩ := exists_enter deep
  simp only [variant, Value.doc, Value.memberDocs, text?_pieces, listed, enters, bind, Except.bind,
    reads inner deep]
  rfl

theorem reads_word {values : List (String × α)} (listed : values.lookup name = some a) :
    Reads (word values) 0 (.string name) a :=
  reads_variant_alone (by simp [listed]) (by simp [listed])

theorem Reads.ofText (reads : Reads r levels v a) (deep : levels ≤ 127) :
    ofText r v.render = .ok a := by
  rw [Decode.ofText, ofReading, Value.ofText_render]
  simp only [reads .text deep, bind, Except.bind]
  rfl

theorem ofBytes_encode (r : Reader α) (s : String) :
    ofBytes r (Utf8.encode s.toList) = ofText r s := by
  rw [ofBytes, Utf8.read_encode]
  rfl

theorem Reads.ofBytes (reads : Reads r levels v a) (deep : levels ≤ 127) :
    ofBytes r (Utf8.encode v.render.toList) = .ok a :=
  (ofBytes_encode r _).trans (reads.ofText deep)

end ConsoleGateway.Decode
