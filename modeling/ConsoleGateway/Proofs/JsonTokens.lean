import Mathlib.Data.Nat.Digits.Defs
import ConsoleGateway.Json.Doc
import ConsoleGateway.Json.Value

/-! The tokens of a value's text. Every string is written in pieces that join to it and every
integer in its digits, which end where the text goes on; so the text is cut where the value does. -/

namespace ConsoleGateway.Json

/-! Strings. -/

def piece (c : Char) : Piece :=
  if c.toNat < 0x20 ∧ c ≠ '\x08' ∧ c ≠ '\x0C' ∧ c ≠ '\n' ∧ c ≠ '\r' ∧ c ≠ '\t' then .unit c.toNat
  else .char c

def pieces (s : String) : List Piece := s.toList.map piece

theorem hexValue?_lowerHexDigit :
    ∀ k < 16, Percent.hexValue? (lowerHexDigit k) = some k := by decide

theorem hexUnit?_escaped {n : Nat} (small : n < 0x20) :
    hexUnit? '0' '0' (lowerHexDigit (n / 16)) (lowerHexDigit (n % 16)) = some n := by
  have zero : Percent.hexValue? '0' = some 0 := by decide
  have whole : n / 16 * 16 + n % 16 = n := by omega
  simp [hexUnit?, zero, hexValue?_lowerHexDigit _ (show n / 16 < 16 by omega),
    hexValue?_lowerHexDigit _ (show n % 16 < 16 by omega), whole]

theorem stringBody_plain {c : Char} (shown : 0x20 ≤ c.toNat) (quote : c ≠ '"') (slash : c ≠ '\\')
    (rest : Input) :
    stringBody (some c :: rest) =
      (stringBody rest).map fun (ps, rest) => (.char c :: ps, rest) := by
  have allowed : ¬(c.toNat < 0x20 || c = '\\') = true := by simp [slash, Nat.not_lt.2 shown]
  rw [stringBody, if_neg allowed]
  · cases stringBody rest <;> rfl
  all_goals simp [quote, slash]

theorem stringBody_unit {a b c d : Char} {u : Nat} (spelled : hexUnit? a b c d = some u)
    (rest : Input) :
    stringBody (some '\\' :: some 'u' :: some a :: some b :: some c :: some d :: rest) =
      (stringBody rest).map fun (ps, rest) => (.unit u :: ps, rest) := by
  rw [stringBody, spelled]
  cases stringBody rest <;> rfl

theorem stringBody_short {e c : Char} (named : shortEscape? e = some c) (rest : Input) :
    stringBody (some '\\' :: some e :: rest) =
      (stringBody rest).map fun (ps, rest) => (.char c :: ps, rest) := by
  have notUnit : e ≠ 'u' := by
    rintro rfl
    cases named
  rw [stringBody, named]
  · cases stringBody rest <;> rfl
  · simp [notUnit]

theorem escapeChar_cases (c : Char) :
    (∃ e, escapeChar c = ['\\', e] ∧ shortEscape? e = some c ∧ piece c = .char c) ∨
      (c.toNat < 0x20 ∧ piece c = .unit c.toNat ∧ escapeChar c =
        ['\\', 'u', '0', '0', lowerHexDigit (c.toNat / 16), lowerHexDigit (c.toNat % 16)]) ∨
      (0x20 ≤ c.toNat ∧ c ≠ '"' ∧ c ≠ '\\' ∧ escapeChar c = [c] ∧ piece c = .char c) := by
  by_cases short : c ∈ ['"', '\\', '\x08', '\x0C', '\n', '\r', '\t']
  · left
    simp only [List.mem_cons, List.not_mem_nil, or_false] at short
    rcases short with rfl | rfl | rfl | rfl | rfl | rfl | rfl <;> exact ⟨_, rfl, rfl, rfl⟩
  · right
    simp only [List.mem_cons, List.not_mem_nil, or_false, not_or] at short
    by_cases small : c.toNat < 0x20
    · exact .inl ⟨small, by simp [piece, small, short], by simp [escapeChar, small, short]⟩
    · exact .inr ⟨Nat.le_of_not_lt small, short.1, short.2.1, by simp [escapeChar, small, short],
        by simp [piece, small]⟩

theorem stringBody_escapeChar (c : Char) (rest : Input) :
    stringBody ((escapeChar c).map some ++ rest) =
      (stringBody rest).map fun (ps, rest) => (piece c :: ps, rest) := by
  rcases escapeChar_cases c with
    ⟨e, written, named, whole⟩ | ⟨small, unit, written⟩ | ⟨large, quote, slash, written, whole⟩
  · rw [written, whole]
    exact stringBody_short named rest
  · rw [written, unit]
    exact stringBody_unit (hexUnit?_escaped small) rest
  · rw [written, whole]
    exact stringBody_plain large quote slash rest

theorem stringBody_quoted (s : List Char) (rest : Input) :
    stringBody ((s.flatMap escapeChar).map some ++ some '"' :: rest) =
      some (s.map piece, rest) := by
  induction s with
  | nil => rfl
  | cons c s ih =>
    rw [List.flatMap_cons, List.map_append, List.append_assoc, stringBody_escapeChar, ih]
    rfl

theorem joinPieces_cons_unit {u : Nat} (plain : u < 0xD800) (ps : List Piece) :
    joinPieces (.unit u :: ps) = (joinPieces ps).map (Char.ofNat u :: ·) := by
  cases ps with
  | nil => simp [joinPieces, show ¬0xD800 ≤ u by omega]
  | cons p ps =>
    cases p with
    | char c => simp [joinPieces, show ¬0xD800 ≤ u by omega]
    | unit v =>
      rw [joinPieces, if_neg (by omega), if_neg (by omega)]
    | stray => simp [joinPieces, show ¬0xD800 ≤ u by omega]

theorem joinPieces_of_stray {ps : List Piece} (stray : .stray ∈ ps) : joinPieces ps = none := by
  fun_induction joinPieces ps <;> simp_all

theorem joinPieces_map_piece (s : List Char) : joinPieces (s.map piece) = some s := by
  induction s with
  | nil => rfl
  | cons c s ih =>
    rw [List.map_cons, piece]
    split
    · rw [joinPieces_cons_unit (by omega), ih, Char.ofNat_toNat]
      rfl
    · rw [joinPieces, ih]
      rfl

/-! Numbers. -/

def Literal.ofInt (z : Int) : Literal :=
  ⟨z < 0, (Nat.toDigits 10 z.natAbs).map digitValue, [], none⟩

def EndsNumber : Input → Prop
  | some c :: _ => isDigit c = false ∧ c ≠ '.' ∧ c ≠ 'e' ∧ c ≠ 'E'
  | _ => True

theorem endsNumber_cons {c : Char} (stops : isDigit c = false ∧ c ≠ '.' ∧ c ≠ 'e' ∧ c ≠ 'E')
    (rest : Input) : EndsNumber (some c :: rest) := stops

theorem toList_toString_int (z : Int) :
    (toString z).toList = (if z < 0 then ['-'] else []) ++ Nat.toDigits 10 z.natAbs := by
  rw [Int.toString_eq_repr, Int.repr_eq_if]
  by_cases negative : z < 0
  · have size : (-z).toNat = z.natAbs := by omega
    simp [negative, Int.not_le.2 negative, Nat.repr_eq_ofList_toDigits, size]
  · have size : z.toNat = z.natAbs := by omega
    simp [negative, Int.not_lt.1 negative, Nat.repr_eq_ofList_toDigits, size]

theorem isDigit_of_mem_toDigits {n : Nat} {c : Char} (h : c ∈ Nat.toDigits 10 n) :
    isDigit c = true := by
  have digit := Nat.isDigit_of_mem_toDigits (by decide) (by decide) h
  simp only [Char.isDigit, Bool.and_eq_true, decide_eq_true_eq, ge_iff_le, UInt32.le_iff_toNat_le]
    at digit
  simp only [isDigit, Bool.and_eq_true, decide_eq_true_eq]
  exact digit

theorem exists_toDigits (n : Nat) :
    ∃ c cs, Nat.toDigits 10 n = c :: cs ∧ isDigit c = true := by
  obtain ⟨c, cs, start⟩ := List.exists_cons_of_ne_nil (Nat.toDigits_ne_nil (n := n) (b := 10))
  exact ⟨c, cs, start, isDigit_of_mem_toDigits (n := n) (by simp [start])⟩

theorem digits_append {ds : List Char} {rest : Input} (all : ∀ c ∈ ds, isDigit c = true)
    (stop : EndsNumber rest) : digits (ds.map some ++ rest) = (ds.map digitValue, rest) := by
  have after : rest.takeWhile (·.any isDigit) = [] ∧ rest.dropWhile (·.any isDigit) = rest := by
    match rest with
    | [] => exact ⟨rfl, rfl⟩
    | none :: rest => exact ⟨rfl, rfl⟩
    | some c :: rest => simp [stop.1]
  have here : ∀ c ∈ ds.map some, c.any isDigit = true := by simpa using all
  rw [digits, List.takeWhile_append_of_pos here, List.dropWhile_append_of_pos here, after.1,
    after.2, List.append_nil, List.filterMap_map]
  simp

theorem fraction_of_endsNumber {rest : Input} (stop : EndsNumber rest) :
    fraction rest = some ([], rest) := by
  unfold fraction
  split
  · exact absurd rfl stop.2.1
  · rfl

theorem exponent_of_endsNumber {rest : Input} (stop : EndsNumber rest) :
    exponent rest = some (none, rest) := by
  match rest with
  | [] => rfl
  | none :: rest => rfl
  | some c :: rest => simp [exponent, stop.2.2]

theorem head?_toDigits {n : Nat} (positive : 0 < n) : (Nat.toDigits 10 n).head? ≠ some '0' := by
  induction n using Nat.strongRecOn with
  | _ n ih =>
    by_cases small : n < 10
    · have nonzero : ∀ k < 10, 0 < k → [k.digitChar].head? ≠ some '0' := by decide
      rw [Nat.toDigits_of_lt_base small]
      exact nonzero n small positive
    · rw [Nat.toDigits_of_base_le (by decide) (by omega)]
      have first := ih (n / 10) (by omega) (by omega)
      obtain ⟨c, cs, start, -⟩ := exists_toDigits (n / 10)
      rw [start] at first ⊢
      simpa using first

theorem unsignedNumber_toDigits (negative : Bool) (n : Nat) {rest : Input}
    (stop : EndsNumber rest) :
    unsignedNumber negative ((Nat.toDigits 10 n).map some ++ rest) =
      some (⟨negative, (Nat.toDigits 10 n).map digitValue, [], none⟩, rest) := by
  have noZero : ¬((Nat.toDigits 10 n).map digitValue = [] ∨
      1 < ((Nat.toDigits 10 n).map digitValue).length ∧
        ((Nat.toDigits 10 n).map digitValue).head? = some 0) := by
    rintro (none_ | ⟨long, zero⟩)
    · exact Nat.toDigits_ne_nil (List.map_eq_nil_iff.1 none_)
    · have positive : 0 < n := by
        apply Nat.pos_of_ne_zero
        rintro rfl
        simp at long
      rw [List.head?_map, Option.map_eq_some_iff] at zero
      obtain ⟨c, first, value⟩ := zero
      have digit := isDigit_of_mem_toDigits (List.mem_of_mem_head? first)
      simp only [isDigit, Bool.and_eq_true, decide_eq_true_eq] at digit
      have isZero : c = '0' := by
        apply Char.toNat_inj.1
        change c.toNat = 48
        simp only [digitValue] at value
        omega
      exact head?_toDigits positive (isZero ▸ first)
  rw [unsignedNumber, digits_append (fun c => isDigit_of_mem_toDigits) stop]
  simp only [noZero, if_false, fraction_of_endsNumber stop, Option.bind_eq_bind, Option.bind_some,
    exponent_of_endsNumber stop]
  rfl

theorem numberBody_toString_int (z : Int) {rest : Input} (stop : EndsNumber rest) :
    numberBody ((toString z).toList.map some ++ rest) = some (.ofInt z, rest) := by
  rw [toList_toString_int]
  by_cases negative : z < 0
  · simp [negative, numberBody, unsignedNumber_toDigits _ _ stop, Literal.ofInt]
  · have notMinus : ∀ cs, (Nat.toDigits 10 z.natAbs).map some ++ rest ≠ some '-' :: cs := by
      intro cs minus
      obtain ⟨c, ds, start, digit⟩ := exists_toDigits z.natAbs
      rw [start] at minus
      rw [Option.some.inj (List.cons.inj minus).1] at digit
      cases digit
    simp only [negative, if_false, List.nil_append]
    unfold numberBody
    split
    · rename_i minus
      exact absurd minus (notMinus _)
    · rw [unsignedNumber_toDigits _ _ stop]
      simp [Literal.ofInt, negative]

def digitsFrom (s : Nat) (ds : List Nat) : Nat := ds.foldl (fun n d => n * 10 + d) s

theorem le_digitsFrom (s : Nat) (ds : List Nat) : s ≤ digitsFrom s ds := by
  induction ds generalizing s with
  | nil => exact Nat.le_refl s
  | cons d ds ih =>
    calc s
      _ ≤ s * 10 + d := by omega
      _ ≤ digitsFrom (s * 10 + d) ds := ih _

theorem accumulate_of_lt {s : Nat} {ds : List Nat} (fits : digitsFrom s ds < UInt64.size) :
    accumulate s ds = (digitsFrom s ds, 0) := by
  induction ds generalizing s with
  | nil => rfl
  | cons d ds ih =>
    have next : s * 10 + d < UInt64.size := Nat.lt_of_le_of_lt (le_digitsFrom _ ds) fits
    rw [accumulate, if_pos next, ih fits]
    rfl

theorem digitsFrom_toDigits (n : Nat) : digitsFrom 0 ((Nat.toDigits 10 n).map digitValue) = n := by
  have same : (fun n c => n * 10 + digitValue c) = fun n c => 10 * n + (c.toNat - '0'.toNat) := by
    funext n c
    rw [Nat.mul_comm]
    rfl
  calc digitsFrom 0 ((Nat.toDigits 10 n).map digitValue)
    _ = (Nat.toDigits 10 n).foldl (fun n c => n * 10 + digitValue c) 0 := List.foldl_map
    _ = Nat.ofDigitChars 10 (Nat.toDigits 10 n) 0 := by rw [same]; rfl
    _ = n := Nat.ofDigitChars_ten_toDigits

theorem value?_ofInt {z : Int} (low : -2 ^ 63 ≤ z) (high : z < 2 ^ 64) :
    (Literal.ofInt z).value? =
      some (if z < 0 then .negative z else .natural z.toNat) := by
  have size : UInt64.size = 2 ^ 64 := rfl
  have read : accumulate 0 (Literal.ofInt z).whole = (z.natAbs, 0) := by
    have whole := digitsFrom_toDigits z.natAbs
    rw [Literal.ofInt, accumulate_of_lt (by rw [whole, size]; omega), whole]
  unfold Literal.value?
  rw [read]
  by_cases negative : z < 0
  · have fits : Integer.fitsInt64 z = true := by
      have least : Int64.minValue.toInt = -2 ^ 63 := rfl
      have most : Int64.maxValue.toInt = 2 ^ 63 - 1 := rfl
      simp only [Integer.fitsInt64, Bool.and_eq_true, decide_eq_true_eq, least, most]
      omega
    simp [Literal.ofInt, negative, fits, abs_of_neg negative, show z ≠ 0 by omega]
  · have size : z.natAbs = z.toNat := by omega
    simp [Literal.ofInt, negative, size]

/-! Tokens. -/

mutual

def Value.tokens : Value → List Token
  | .null => [.null]
  | .bool b => [.bool b]
  | .int z => [.number (.ofInt z)]
  | .string s => [.string (pieces s)]
  | .array items => .openBracket :: Value.itemTokens items ++ [.closeBracket]
  | .object members => .openBrace :: Value.memberTokens members ++ [.closeBrace]

def Value.itemTokens : List Value → List Token
  | [] => []
  | [v] => v.tokens
  | v :: w :: vs => v.tokens ++ .comma :: Value.itemTokens (w :: vs)

def Value.memberTokens : List (String × Value) → List Token
  | [] => []
  | [(k, v)] => .string (pieces k) :: .colon :: v.tokens
  | (k, v) :: m :: ms =>
    .string (pieces k) :: .colon :: v.tokens ++ .comma :: Value.memberTokens (m :: ms)

end

/-- With fuel enough for a text, the part of it before the rest is cut into these tokens. -/
def Cuts (cs : List Char) (ts : List Token) (rest : Input) : Prop :=
  ∀ fuel, (cs.map some ++ rest).length ≤ fuel → ∃ left, rest.length ≤ left ∧
    lexUpTo fuel (cs.map some ++ rest) = ts ++ lexUpTo left rest

theorem cuts_nil (rest : Input) : Cuts [] [] rest := fun fuel enough => ⟨fuel, enough, rfl⟩

theorem Cuts.append {cs ds : List Char} {rest : Input} {ts us : List Token}
    (first : Cuts cs ts (ds.map some ++ rest)) (second : Cuts ds us rest) :
    Cuts (cs ++ ds) (ts ++ us) rest := by
  intro fuel enough
  rw [List.map_append, List.append_assoc] at enough ⊢
  obtain ⟨left, enough, cut⟩ := first fuel enough
  obtain ⟨left', enough', cut'⟩ := second left enough
  exact ⟨left', enough', by rw [cut, cut', List.append_assoc]⟩

theorem cuts_token {c : Char} {cs : List Char} {rest : Input} {t : Token}
    (shown : isSpace c = false) (here : token? ((c :: cs).map some ++ rest) = some (t, rest)) :
    Cuts (c :: cs) [t] rest := by
  intro fuel enough
  cases fuel with
  | zero => simp at enough
  | succ left =>
    refine ⟨left, by simp at enough; omega, ?_⟩
    have starts : ((c :: cs).map some ++ rest).dropWhile (·.any isSpace) =
        (c :: cs).map some ++ rest := by
      simp [shown]
    rw [lexUpTo, starts]
    simp only [List.map_cons, List.cons_append] at here ⊢
    rw [here]
    rfl

theorem cuts_quote (s : String) (rest : Input) :
    Cuts (quote s) [.string (pieces s)] rest := by
  refine cuts_token rfl ?_
  change (stringBody ((s.toList.flatMap escapeChar ++ ['"']).map some ++ rest)).map _ = _
  rw [List.map_append, List.append_assoc, List.map_singleton, List.singleton_append,
    stringBody_quoted]
  rfl

theorem token?_number {c : Char} (start : c = '-' ∨ isDigit c = true) (cs : Input) :
    token? (some c :: cs) = (numberBody (some c :: cs)).map fun (l, rest) => (.number l, rest) := by
  unfold token?
  split <;> simp_all [isDigit]

theorem cuts_int (z : Int) {rest : Input} (stop : EndsNumber rest) :
    Cuts (toString z).toList [.number (.ofInt z)] rest := by
  have read := numberBody_toString_int z stop
  have start : ∃ c cs, (toString z).toList = c :: cs ∧ (c = '-' ∨ isDigit c = true) := by
    rw [toList_toString_int]
    split
    · exact ⟨_, _, rfl, .inl rfl⟩
    · obtain ⟨c, cs, start, digit⟩ := exists_toDigits z.natAbs
      exact ⟨c, cs, start, .inr digit⟩
  obtain ⟨c, cs, written, number⟩ := start
  rw [written] at read ⊢
  have shown : isSpace c = false := by
    rcases number with rfl | digit
    · rfl
    · simp only [isDigit, Bool.and_eq_true, decide_eq_true_eq] at digit
      refine Bool.eq_false_iff.2 fun space => ?_
      simp only [isSpace, Bool.or_eq_true, decide_eq_true_eq] at space
      rcases space with ((rfl | rfl) | rfl) | rfl <;> simp at digit
  refine cuts_token shown ?_
  rw [List.map_cons, List.cons_append, token?_number number]
  rw [List.map_cons, List.cons_append] at read
  rw [read]
  rfl

mutual

theorem Value.cuts (v : Value) {rest : Input} (stop : EndsNumber rest) :
    Cuts v.chars v.tokens rest := by
  match v with
  | .null => exact cuts_token rfl rfl
  | .bool true => exact cuts_token rfl rfl
  | .bool false => exact cuts_token rfl rfl
  | .int z => exact cuts_int z stop
  | .string s => exact cuts_quote s rest
  | .array items =>
    have opens (rest) : Cuts ['['] [.openBracket] rest := cuts_token rfl rfl
    have closes : Cuts [']'] [.closeBracket] rest := cuts_token rfl rfl
    have stops : EndsNumber (some ']' :: rest) := endsNumber_cons (by decide) rest
    exact (opens _).append ((Value.cutsItems items stops).append closes)
  | .object members =>
    have opens (rest) : Cuts ['{'] [.openBrace] rest := cuts_token rfl rfl
    have closes : Cuts ['}'] [.closeBrace] rest := cuts_token rfl rfl
    have stops : EndsNumber (some '}' :: rest) := endsNumber_cons (by decide) rest
    exact (opens _).append ((Value.cutsMembers members stops).append closes)

theorem Value.cutsItems (items : List Value) {rest : Input} (stop : EndsNumber rest) :
    Cuts (Value.itemChars items) (Value.itemTokens items) rest := by
  match items with
  | [] => exact cuts_nil rest
  | [v] => exact v.cuts stop
  | v :: w :: vs =>
    have comma (rest) : Cuts [','] [.comma] rest := cuts_token rfl rfl
    exact (v.cuts (endsNumber_cons (by decide) _)).append
      ((comma _).append (Value.cutsItems (w :: vs) stop))

theorem Value.cutsMembers (members : List (String × Value)) {rest : Input}
    (stop : EndsNumber rest) :
    Cuts (Value.memberChars members) (Value.memberTokens members) rest := by
  have colon (rest) : Cuts [':'] [.colon] rest := cuts_token rfl rfl
  match members with
  | [] => exact cuts_nil rest
  | [(k, v)] => exact (cuts_quote k _).append ((colon _).append (v.cuts stop))
  | (k, v) :: m :: ms =>
    have comma (rest) : Cuts [','] [.comma] rest := cuts_token rfl rfl
    have stops : EndsNumber (some ',' :: ((Value.memberChars (m :: ms)).map some ++ rest)) :=
      endsNumber_cons (by decide) _
    have member := (cuts_quote k _).append ((colon _).append (v.cuts stops))
    exact member.append ((comma _).append (Value.cutsMembers (m :: ms) stop))

end

theorem lexUpTo_nil (fuel : Nat) : lexUpTo fuel [] = [] := by
  cases fuel <;> rfl

theorem Value.lex_chars (v : Value) : lex (v.chars.map some) = v.tokens := by
  have cuts : Cuts v.chars v.tokens [] := v.cuts trivial
  obtain ⟨left, -, cut⟩ := cuts (v.chars.map some).length (by simp)
  rw [List.append_nil, lexUpTo_nil, List.append_nil] at cut
  exact cut

end ConsoleGateway.Json
