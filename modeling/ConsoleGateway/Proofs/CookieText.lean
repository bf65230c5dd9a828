import Mathlib.Data.List.DropRight
import ConsoleGateway.Http.Cookie
import ConsoleGateway.Proofs.DeepLink
import ConsoleGateway.Proofs.Matching
import ConsoleGateway.Proofs.Requests

namespace ConsoleGateway

namespace Utf8

def size (cs : List Char) : Nat := (encode cs).length

@[simp] theorem size_append (a b : List Char) : size (a ++ b) = size a + size b := by
  simp [size]

theorem size_cons (c : Char) (cs : List Char) :
    size (c :: cs) = (encodeChar c).length + size cs := by
  simp [size]

theorem size_cons_pos (c : Char) (cs : List Char) : size cs < size (c :: cs) := by
  obtain ⟨b, bs, first, -⟩ := encodeChar_eq_cons c
  rw [size_cons, first]
  simp

theorem size_le_of_infix {a b : List Char} (h : a <:+: b) : size a ≤ size b := by
  obtain ⟨before, after, rfl⟩ := h
  simp only [size_append]
  omega

theorem decode?_eq_some_iff {bs : List UInt8} {cs : List Char} :
    decode? bs = some cs ↔ bs = encode cs := by
  constructor
  · intro h
    simp only [decode?, Option.ite_none_right_eq_some, Option.some.injEq] at h
    obtain ⟨whole, rfl⟩ := h
    exact whole.symm
  · rintro rfl
    simp [decode?, decodeLossy_encode]

theorem ofNat_toNat_of_ascii {c : Char} (ascii : c.toNat < 0x80) :
    Char.ofNat (UInt8.ofNat c.toNat).toNat = c := by
  rw [UInt8.toNat_ofNat', Nat.mod_eq_of_lt (by omega), Char.ofNat_toNat]

theorem high_of_mem_encodeChar {c : Char} (wide : ¬c.toNat < 0x80) :
    ∀ b ∈ encodeChar c, 0x80 ≤ b.toNat := by
  have valid : c.toNat < 0xD800 ∨ 0xDFFF < c.toNat ∧ c.toNat < 0x110000 := c.valid
  intro b hb
  rw [encodeChar, if_neg wide] at hb
  split at hb
  · simp only [List.mem_cons, List.not_mem_nil, or_false] at hb
    rcases hb with rfl | rfl
    · rw [UInt8.toNat_ofNat']
      omega
    · rw [toNat_continuation]
      omega
  split at hb
  · simp only [List.mem_cons, List.not_mem_nil, or_false] at hb
    rcases hb with rfl | rfl | rfl
    · rw [UInt8.toNat_ofNat']
      omega
    all_goals
      rw [toNat_continuation]
      omega
  · simp only [List.mem_cons, List.not_mem_nil, or_false] at hb
    rcases hb with rfl | rfl | rfl | rfl
    · rw [UInt8.toNat_ofNat']
      omega
    all_goals
      rw [toNat_continuation]
      omega

end Utf8

namespace Percent

def isHex (c : Char) : Bool := (hexValue? c).isSome

def startsEscape : List Char → Bool
  | p :: h :: l :: _ => p = '%' && isHex h && isHex l
  | _ => false

def hasEscape : List Char → Bool
  | [] => false
  | c :: cs => startsEscape (c :: cs) || hasEscape cs

variable {c : Char} {cs : List Char}

theorem length_decodeBytes_le (bs : List UInt8) : (decodeBytes bs).length ≤ bs.length := by
  fun_induction decodeBytes bs with
  | case1 => simp
  | case2 h l rest a b ha hb ih => simpa [ha, hb] using by omega
  | case3 h l rest broken ih => simpa using ih
  | case4 p h l rest plain ih => simpa using ih
  | case5 p rest short ih => simpa using ih

theorem decodeBytes_append_of_plain {as : List UInt8} (plain : ∀ b ∈ as, b ≠ 0x25)
    (bs : List UInt8) : decodeBytes (as ++ bs) = as ++ decodeBytes bs := by
  induction as with
  | nil => rfl
  | cons a as ih =>
    obtain ⟨first, rest⟩ := List.forall_mem_cons.1 plain
    rw [List.cons_append, decodeBytes_cons first, ih rest]
    rfl

theorem plain_encodeChar (other : c ≠ '%') : ∀ b ∈ Utf8.encodeChar c, b ≠ 0x25 := by
  by_cases ascii : c.toNat < 0x80
  · rw [Utf8.encodeChar_of_lt ascii]
    simpa using Utf8.ofNat_toNat_ne ascii (by decide : '%'.toNat < 0x80) other
  · intro b hb isPercent
    have := Utf8.high_of_mem_encodeChar ascii b hb
    rw [isPercent] at this
    exact absurd this (by decide)

theorem exists_hex {b : UInt8} {bs : List UInt8} (bytes : Utf8.encode cs = b :: bs)
    (digit : (hexValue? (.ofNat b.toNat)).isSome = true) :
    ∃ h rest, cs = h :: rest ∧ isHex h = true ∧ Utf8.encode rest = bs := by
  have small : b.toNat < 0x80 := by
    by_contra high
    have none : ∀ b : UInt8, ¬b.toNat < 0x80 → (hexValue? (.ofNat b.toNat)).isSome = false :=
      Utf8.forall_byte (by decide +kernel)
    rw [none b high] at digit
    cases digit
  cases cs with
  | nil => cases bytes
  | cons h rest =>
    have ascii : h.toNat < 0x80 := by
      by_contra wide
      obtain ⟨first, more, spelled, -⟩ := Utf8.encodeChar_eq_cons h
      have high := Utf8.high_of_mem_encodeChar wide first (by simp [spelled])
      rw [Utf8.encode_cons, spelled, List.cons_append] at bytes
      rw [(List.cons.inj bytes).1] at high
      omega
    rw [Utf8.encode_cons, Utf8.encodeChar_of_lt ascii, List.singleton_append] at bytes
    obtain ⟨rfl, rest_⟩ := List.cons.inj bytes
    rw [Utf8.ofNat_toNat_of_ascii ascii] at digit
    exact ⟨h, rest, rfl, digit, rest_⟩

theorem decodeBytes_percent (broken : startsEscape ('%' :: cs) = false) :
    decodeBytes (0x25 :: Utf8.encode cs) = 0x25 :: decodeBytes (Utf8.encode cs) := by
  match bytes : Utf8.encode cs with
  | [] => rfl
  | [b] => rfl
  | h :: l :: rest =>
    cases high : hexValue? (.ofNat h.toNat) with
    | none => simp [decodeBytes, high]
    | some a =>
      cases low : hexValue? (.ofNat l.toNat) with
      | none => simp [decodeBytes, high, low]
      | some b =>
        obtain ⟨first, cs', rfl, isFirst, bytes'⟩ := exists_hex bytes (by simp [high])
        obtain ⟨second, cs'', rfl, isSecond, -⟩ := exists_hex bytes' (by simp [low])
        simp [startsEscape, isFirst, isSecond] at broken

theorem decode_cons (plain : startsEscape (c :: cs) = false) :
    decode (c :: cs) = Utf8.encodeChar c ++ decode cs := by
  by_cases isPercent : c = '%'
  · subst isPercent
    have byte : Utf8.encodeChar '%' = [0x25] := by decide
    rw [decode, Utf8.encode_cons, byte]
    exact decodeBytes_percent plain
  · rw [decode, Utf8.encode_cons, decodeBytes_append_of_plain (plain_encodeChar isPercent)]
    rfl

theorem length_decode_le (cs : List Char) : (decode cs).length ≤ Utf8.size cs :=
  length_decodeBytes_le _

theorem ascii_of_isHex (digit : isHex c = true) : c.toNat < 0x80 := by
  unfold isHex hexValue? at digit
  dsimp only at digit
  split at digit
  · omega
  split at digit
  · omega
  split at digit
  · omega
  · cases digit

theorem length_decode_lt (escaped : hasEscape cs = true) : (decode cs).length < Utf8.size cs := by
  induction cs with
  | nil => cases escaped
  | cons c cs ih =>
    cases starts : startsEscape (c :: cs) with
    | false =>
      have later : hasEscape cs = true := by simpa [hasEscape, starts] using escaped
      rw [decode_cons starts, List.length_append, Utf8.size_cons]
      have := ih later
      omega
    | true =>
      match cs, starts with
      | h :: l :: rest, starts =>
        simp only [startsEscape, Bool.and_eq_true, decide_eq_true_eq] at starts
        obtain ⟨⟨rfl, first⟩, second⟩ := starts
        have ascii := ascii_of_isHex first
        have ascii' := ascii_of_isHex second
        have read : decode ('%' :: h :: l :: rest) =
            .ofNat (16 * (hexValue? h).getD 0 + (hexValue? l).getD 0) :: decode rest := by
          obtain ⟨a, ha⟩ := Option.isSome_iff_exists.1 first
          obtain ⟨b, hb⟩ := Option.isSome_iff_exists.1 second
          have byte : Utf8.encodeChar '%' = [0x25] := by decide
          simp only [decode, Utf8.encode_cons, byte, Utf8.encodeChar_of_lt ascii,
            Utf8.encodeChar_of_lt ascii', List.cons_append, List.nil_append, decodeBytes, if_true,
            Utf8.ofNat_toNat_of_ascii ascii, Utf8.ofNat_toNat_of_ascii ascii', ha, hb,
            Option.getD_some]
        have bound := length_decode_le rest
        have := Utf8.size_cons_pos '%' (h :: l :: rest)
        have := Utf8.size_cons_pos h (l :: rest)
        have := Utf8.size_cons_pos l rest
        rw [read, List.length_cons]
        omega

theorem decode_eq_encode_iff : decode cs = Utf8.encode cs ↔ hasEscape cs = false := by
  constructor
  · intro same
    by_contra escaped
    have shorter := length_decode_lt (by simpa using escaped)
    rw [same] at shorter
    exact Nat.lt_irrefl _ shorter
  · intro plain
    induction cs with
    | nil => rfl
    | cons c cs ih =>
      rw [hasEscape, Bool.or_eq_false_iff] at plain
      rw [decode_cons plain.1, ih plain.2, Utf8.encode_cons]

end Percent

namespace Unicode

variable {drop : Char → Bool}

theorem trimBy_eq (drop : Char → Bool) (cs : List Char) :
    trimBy drop cs = (cs.dropWhile drop).rdropWhile drop := rfl

theorem trimBy_infix (drop : Char → Bool) (cs : List Char) : trimBy drop cs <:+: cs :=
  (List.rdropWhile_prefix drop _).isInfix.trans (List.dropWhile_suffix drop).isInfix

theorem trimBy_trimBy (drop : Char → Bool) (cs : List Char) :
    trimBy drop (trimBy drop cs) = trimBy drop cs := by
  have start : (trimBy drop cs).dropWhile drop = trimBy drop cs := by
    cases kept : trimBy drop cs with
    | nil => rfl
    | cons c rest =>
      have first : (cs.dropWhile drop).head? = some c := by
        obtain ⟨tail, whole⟩ := List.rdropWhile_prefix drop (l := cs.dropWhile drop)
        rw [← whole, ← trimBy_eq, kept]
        rfl
      have stays : drop c = false := by
        have := List.head?_dropWhile_not drop cs
        rw [first] at this
        simpa using this
      simp [stays]
  rw [trimBy_eq, start, trimBy_eq, List.rdropWhile_idempotent]

end Unicode

namespace Http.Cookie

def separators : List Char :=
  ['(', ')', '<', '>', '@', ',', ';', ':', '\\', '"', '/', '[', ']', '?', '=', '\x7b', '\x7d']

def isTokenChar (c : Char) : Bool :=
  0x20 < c.toNat && c.toNat < 0x7F && !separators.contains c

def IsToken (name : String) : Prop := name ≠ "" ∧ name.toList.all isTokenChar = true

instance (name : String) : Decidable (IsToken name) := inferInstanceAs (Decidable (_ ∧ _))

/-- A text that stands for itself as the value of a cookie. -/
structure IsVerbatim (value : String) : Prop where
  whole : ';' ∉ value.toList
  -- It does not stand between quotes.
  bare : unquote value.toList = value.toList
  plain : Percent.hasEscape value.toList = false

structure IsTrimmed (value : String) : Prop where
  nonempty : value ≠ ""
  trimmed : Unicode.trim value.toList = value.toList

variable {name value header : String} {cs : List Char}

theorem isVerbatim_iff : IsVerbatim value ↔ ';' ∉ value.toList ∧
    unquote value.toList = value.toList ∧ Percent.hasEscape value.toList = false :=
  ⟨fun ⟨whole, bare, plain⟩ => ⟨whole, bare, plain⟩, fun ⟨whole, bare, plain⟩ =>
    ⟨whole, bare, plain⟩⟩

instance (value : String) : Decidable (IsVerbatim value) := decidable_of_iff _ isVerbatim_iff.symm

theorem isTrimmed_of_value? (read : value? name header = some value) : IsTrimmed value := by
  obtain ⟨found, -, kept⟩ := Option.bind_eq_some_iff.1 read
  simp only [Option.ite_none_left_eq_some, Option.some.injEq] at kept
  obtain ⟨nonempty, rfl⟩ := kept
  refine ⟨nonempty, ?_⟩
  rw [String.toList_ofList]
  exact Unicode.trimBy_trimBy _ _

namespace IsToken

theorem visible (token : IsToken name) : ∀ c ∈ name.toList, 0x20 < c.toNat ∧ c.toNat < 0x7F := by
  intro c hc
  have := List.all_eq_true.1 token.2 c hc
  simp only [isTokenChar, Bool.and_eq_true, decide_eq_true_eq] at this
  exact this.1

theorem not_mem (token : IsToken name) {c : Char} (separator : isTokenChar c = false) :
    c ∉ name.toList := by
  intro hc
  rw [List.all_eq_true.1 token.2 c hc] at separator
  cases separator

end IsToken

theorem decode?_eq_some_iff : decode? cs = some value ↔
    Percent.decode cs = Utf8.encode value.toList := by
  rw [decode?, Option.map_eq_some_iff]
  constructor
  · rintro ⟨read, decoded, rfl⟩
    rw [String.toList_ofList, Utf8.decode?_eq_some_iff.1 decoded]
  · intro bytes
    exact ⟨value.toList, Utf8.decode?_eq_some_iff.2 bytes, String.ofList_toList⟩

theorem size_le_of_decode? (read : decode? cs = some value) :
    Utf8.size value.toList ≤ Utf8.size cs := by
  have bytes := decode?_eq_some_iff.1 read
  rw [Utf8.size, ← bytes]
  exact Percent.length_decode_le cs

theorem unquote_cases (cs : List Char) :
    unquote cs = cs ∨ cs = '"' :: unquote cs ++ ['"'] := by
  unfold unquote
  split
  · rename_i rest
    split
    · rename_i closed
      obtain ⟨inner, rfl⟩ := List.getLast?_eq_some_iff.1 closed
      right
      simp
    · exact .inl rfl
  · exact .inl rfl

theorem unquote_isInfix (cs : List Char) : unquote cs <:+: cs := by
  rcases unquote_cases cs with same | quoted
  · exact ⟨[], [], by simp [same]⟩
  · exact ⟨['"'], ['"'], quoted.symm⟩

theorem decode?_unquote_iff : decode? (unquote value.toList) = some value ↔
    unquote value.toList = value.toList ∧ Percent.hasEscape value.toList = false := by
  constructor
  · intro read
    rcases unquote_cases value.toList with same | quoted
    · rw [same] at read
      exact ⟨same, Percent.decode_eq_encode_iff.1 (decode?_eq_some_iff.1 read)⟩
    · have bound := size_le_of_decode? read
      have longer : Utf8.size value.toList = 1 + Utf8.size (unquote value.toList) + 1 := by
        have quote : Utf8.size ['"'] = 1 := by decide
        conv_lhs => rw [quoted]
        rw [← List.singleton_append, Utf8.size_append, Utf8.size_append, quote]
      omega
  · rintro ⟨same, plain⟩
    rw [same]
    exact decode?_eq_some_iff.2 (Percent.decode_eq_encode_iff.2 plain)

theorem pair?_written (token : IsToken name) (cs : List Char) :
    pair? (name.toList ++ '=' :: cs) = (decode? name.toList).bind fun read =>
      (decode? (unquote (Unicode.trim cs))).map fun value => (read, value) := by
  have free : ∀ c ∈ name.toList, decide (c ≠ '=') = true := by
    intro c hc
    refine decide_eq_true ?_
    rintro rfl
    exact token.not_mem (by decide) hc
  have before : (name.toList ++ '=' :: cs).takeWhile (· ≠ '=') = name.toList := by
    rw [List.takeWhile_append_of_pos free]
    simp
  have after : (name.toList ++ '=' :: cs).dropWhile (· ≠ '=') = '=' :: cs := by
    rw [List.dropWhile_append_of_pos free]
    simp
  have nonempty : name.toList ≠ [] := by simpa using token.1
  simp only [pair?, after, before, Unicode.trim_of_visible token.visible, nonempty, if_false]
  cases decode? name.toList <;> cases decode? (unquote (Unicode.trim cs)) <;> rfl

theorem size_lt_of_pair? {pair : String × String} (read : pair? cs = some pair) :
    Utf8.size pair.2.toList < Utf8.size cs := by
  unfold pair? at read
  split at read
  · cases read
  · rename_i c rest split
    have within : c :: rest <:+: cs := by
      rw [← split]
      exact (List.dropWhile_suffix _).isInfix
    dsimp only at read
    split at read
    · cases read
    · obtain ⟨first, -, read⟩ := Option.bind_eq_some_iff.1 read
      obtain ⟨second, value, same⟩ := Option.bind_eq_some_iff.1 read
      cases same
      have inner : unquote (Unicode.trim rest) <:+: rest :=
        (unquote_isInfix _).trans (Unicode.trimBy_infix _ _)
      calc Utf8.size second.toList ≤ Utf8.size (unquote (Unicode.trim rest)) :=
            size_le_of_decode? value
        _ ≤ Utf8.size rest := Utf8.size_le_of_infix inner
        _ < Utf8.size (c :: rest) := Utf8.size_cons_pos c rest
        _ ≤ Utf8.size cs := Utf8.size_le_of_infix within

theorem infix_of_mem_splitOn {sep : Char} {piece : List Char} (h : piece ∈ Form.splitOn sep cs) :
    piece <:+: cs := by
  induction cs generalizing piece with
  | nil => simp_all [Form.splitOn]
  | cons c cs ih =>
    have later {piece : List Char} (h : piece ∈ Form.splitOn sep cs) : piece <:+: c :: cs :=
      (ih h).trans (List.suffix_cons c cs).isInfix
    rw [Form.splitOn] at h
    split at h
    · rcases List.mem_cons.1 h with rfl | rest
      · exact List.nil_infix
      · exact later rest
    · split at h
      · rename_i empty
        exact absurd empty (Form.splitOn_ne_nil sep cs)
      · rename_i first others cut
        rcases List.mem_cons.1 h with rfl | rest
        · rcases Form.splitOn_eq_cons cut with ⟨rfl, -⟩ | ⟨tail, rfl, -⟩
          · exact List.infix_rfl
          · exact ⟨[], sep :: tail, by simp⟩
        · exact later (by rw [cut]; exact List.mem_cons_of_mem _ rest)

theorem not_mem_pairs_written (token : IsToken name) (cut : ';' ∈ value.toList) (read : String) :
    (read, value) ∉ pairs (name ++ "=" ++ value) := by
  intro listed
  obtain ⟨before, after, split, free⟩ := List.eq_append_cons_of_mem cut
  have equals : (';' : Char) ≠ '=' := by decide
  have header : (name ++ "=" ++ value).toList =
      (name.toList ++ '=' :: before) ++ ';' :: after := by
    simp [String.toList_append, split]
  have noCut : ';' ∉ name.toList ++ '=' :: before := by
    simp [token.not_mem (c := ';') (by decide), equals, free]
  rw [pairs, header, Form.splitOn_append noCut] at listed
  obtain ⟨piece, hpiece, hread⟩ := List.mem_filterMap.1 listed
  have whole : Utf8.size value.toList = Utf8.size before + Utf8.size (';' :: after) := by
    rw [split, Utf8.size_append]
  have mark := Utf8.size_cons_pos ';' after
  rcases List.mem_cons.1 hpiece with rfl | later
  · rw [pair?_written token] at hread
    obtain ⟨first, -, hread⟩ := Option.bind_eq_some_iff.1 hread
    obtain ⟨second, decoded, same⟩ := Option.map_eq_some_iff.1 hread
    obtain ⟨-, rfl⟩ := Prod.mk.inj same
    have inner : unquote (Unicode.trim before) <:+: before :=
      (unquote_isInfix _).trans (Unicode.trimBy_infix Unicode.isBlank before)
    have := Utf8.size_le_of_infix inner
    have := size_le_of_decode? decoded
    omega
  · have short := size_lt_of_pair? hread
    have := Utf8.size_le_of_infix (infix_of_mem_splitOn later)
    simp only at short
    omega

theorem length_pairs_written_le (token : IsToken name) (whole : ';' ∉ value.toList) :
    (pairs (name ++ "=" ++ value)).length ≤ 1 := by
  have equals : (';' : Char) ≠ '=' := by decide
  have noCut : ';' ∉ (name ++ "=" ++ value).toList := by
    simp [token.not_mem (c := ';') (by decide), equals, whole]
  rw [pairs, Form.splitOn_of_not_mem noCut]
  exact List.length_filterMap_le _ _

theorem pairs_written_iff (token : IsToken name) (trimmed : IsTrimmed value) :
    pairs (name ++ "=" ++ value) = [(name, value)] ↔
      Percent.hasEscape name.toList = false ∧ IsVerbatim value := by
  by_cases cut : ';' ∈ value.toList
  · constructor
    · intro same
      exact absurd (same ▸ List.mem_singleton_self _) (not_mem_pairs_written token cut name)
    · rintro ⟨-, verbatim⟩
      exact absurd cut verbatim.whole
  · have equals : (';' : Char) ≠ '=' := by decide
    have header : (name ++ "=" ++ value).toList = name.toList ++ '=' :: value.toList := by
      simp [String.toList_append]
    have noCut : ';' ∉ name.toList ++ '=' :: value.toList := by
      simp [token.not_mem (c := ';') (by decide), equals, cut]
    have nameRead : decode? name.toList = some name ↔ Percent.hasEscape name.toList = false :=
      decode?_eq_some_iff.trans Percent.decode_eq_encode_iff
    rw [pairs, header, Form.splitOn_of_not_mem noCut, ← nameRead, isVerbatim_iff,
      ← decode?_unquote_iff]
    simp only [List.filterMap_cons, List.filterMap_nil, pair?_written token, trimmed.trimmed]
    cases decode? name.toList <;> cases decode? (unquote value.toList) <;> simp [cut]

end Http.Cookie

end ConsoleGateway
