import ConsoleGateway.Text.Form

namespace ConsoleGateway

namespace Utf8

theorem forall_byte {P : UInt8 → Prop} (h : ∀ k < 256, P (.ofNat k)) (b : UInt8) : P b := by
  have := h b.toNat b.toNat_lt
  rwa [UInt8.ofNat_toNat] at this

theorem toNat_continuation (n : Nat) : (continuation n).toNat = 0x80 + n % 64 := by
  have h : 0x80 + n % 64 < 256 := by omega
  simp [continuation, Nat.mod_eq_of_lt h]

theorem step_continuation {u : Unfinished} {n : Nat} (low : u.low ≤ 0x80 + n % 64)
    (high : 0x80 + n % 64 ≤ u.high) :
    step (some u) (continuation n) =
      if u.missing ≤ 1 then ([some (Char.ofNat (u.bits * 64 + n % 64))], none)
      else ([], some ⟨u.bits * 64 + n % 64, 0x80, 0xBF, u.missing - 1⟩) := by
  have bits : (0x80 + n % 64) % 64 = n % 64 := by omega
  simp only [step, toNat_continuation, low, high, and_self, if_true, bits]

theorem start_one {n : Nat} (h : n < 0x80) : start (.ofNat n) = ([some (Char.ofNat n)], none) := by
  have small : n < 256 := by omega
  simp [start, Nat.mod_eq_of_lt small, h]

theorem start_two : ∀ k < 32, 2 ≤ k →
    start (.ofNat (0xC0 + k)) = ([], some ⟨k, 0x80, 0xBF, 1⟩) := by
  decide

theorem start_three : ∀ k < 16, start (.ofNat (0xE0 + k)) =
    ([], some ⟨k, if k = 0 then 0xA0 else 0x80, if k = 13 then 0x9F else 0xBF, 2⟩) := by
  decide

theorem start_four : ∀ k < 5, start (.ofNat (0xF0 + k)) =
    ([], some ⟨k, if k = 0 then 0x90 else 0x80, if k = 4 then 0x8F else 0xBF, 3⟩) := by
  decide

theorem encodeChar_eq_cons (c : Char) :
    ∃ b bs, encodeChar c = b :: bs ∧ (b.toNat = c.toNat ∨ 0xC0 ≤ b.toNat) := by
  have valid : c.toNat < 0xD800 ∨ 0xDFFF < c.toNat ∧ c.toNat < 0x110000 := c.valid
  rw [encodeChar]
  by_cases one : c.toNat < 0x80
  · exact ⟨_, [], by simp only [one, if_true]; rfl, .inl (by rw [UInt8.toNat_ofNat']; omega)⟩
  by_cases two : c.toNat < 0x800
  · exact ⟨_, _, by simp only [one, two, if_false, if_true]; rfl,
      .inr (by rw [UInt8.toNat_ofNat']; omega)⟩
  by_cases three : c.toNat < 0x10000
  · exact ⟨_, _, by simp only [one, two, three, if_false, if_true]; rfl,
      .inr (by rw [UInt8.toNat_ofNat']; omega)⟩
  · exact ⟨_, _, by simp only [one, two, three, if_false]; rfl,
      .inr (by rw [UInt8.toNat_ofNat']; omega)⟩

theorem readFrom_cons (state : Option Unfinished) (b : UInt8) (bs : List UInt8) :
    readFrom state (b :: bs) = (step state b).1 ++ readFrom (step state b).2 bs := by
  cases state <;> rfl

theorem readFrom_encodeChar (c : Char) (bs : List UInt8) :
    readFrom none (encodeChar c ++ bs) = some c :: readFrom none bs := by
  have valid : c.toNat < 0xD800 ∨ 0xDFFF < c.toNat ∧ c.toNat < 0x110000 := c.valid
  have whole : Char.ofNat c.toNat = c := Char.ofNat_toNat c
  rw [encodeChar]
  by_cases one : c.toNat < 0x80
  · simp [one, readFrom_cons, step, start_one one, whole]
  by_cases two : c.toNat < 0x800
  · have lead := start_two (c.toNat / 64) (by omega) (by omega)
    have bits : c.toNat / 64 * 64 + c.toNat % 64 = c.toNat := by omega
    simp only [one, two, if_false, if_true, List.cons_append, List.nil_append, readFrom_cons]
    rw [show step none _ = _ from lead,
      step_continuation (by simp only; omega) (by simp only; omega)]
    simp [bits, whole]
  by_cases three : c.toNat < 0x10000
  · have lead := start_three (c.toNat / 4096) (by omega)
    have bits : (c.toNat / 4096 * 64 + c.toNat / 64 % 64) * 64 + c.toNat % 64 = c.toNat := by omega
    simp only [one, two, three, if_false, if_true, List.cons_append, List.nil_append,
      readFrom_cons]
    rw [show step none _ = _ from lead,
      step_continuation (by simp only; split <;> omega) (by simp only; split <;> omega)]
    simp only [Nat.reduceLeDiff, if_false, Nat.add_one_sub_one]
    rw [step_continuation (by simp only; omega) (by simp only; omega)]
    simp [bits, whole]
  · have lead := start_four (c.toNat / 262144) (by omega)
    have bits : ((c.toNat / 262144 * 64 + c.toNat / 4096 % 64) * 64 + c.toNat / 64 % 64) * 64 +
        c.toNat % 64 = c.toNat := by omega
    simp only [one, two, three, if_false, List.cons_append, List.nil_append, readFrom_cons]
    rw [show step none _ = _ from lead,
      step_continuation (by simp only; split <;> omega) (by simp only; split <;> omega)]
    simp only [Nat.reduceLeDiff, if_false, Nat.add_one_sub_one]
    rw [step_continuation (by simp only; omega) (by simp only; omega)]
    simp only [Nat.reduceLeDiff, if_false, Nat.add_one_sub_one]
    rw [step_continuation (by simp only; omega) (by simp only; omega)]
    simp [bits, whole]

theorem read_encode (cs : List Char) : read (encode cs) = cs.map some := by
  induction cs with
  | nil => rfl
  | cons c cs ih =>
    rw [encode_cons, read, readFrom_encodeChar]
    exact congrArg (some c :: ·) ih

theorem decodeLossy_encodeChar_append (c : Char) (bs : List UInt8) :
    decodeLossy (encodeChar c ++ bs) = c :: decodeLossy bs := by
  simp [decodeLossy, read, readFrom_encodeChar]

theorem decodeLossy_encode (cs : List Char) : decodeLossy (encode cs) = cs := by
  simp [decodeLossy, read_encode, Function.comp_def]

end Utf8

namespace Percent

theorem hexValue?_upperHexDigit : ∀ k < 16, hexValue? (upperHexDigit k) = some k := by decide

theorem encodeChar_upperHexDigit : ∀ k < 16,
    Utf8.encodeChar (upperHexDigit k) = [.ofNat (upperHexDigit k).toNat] ∧
      Char.ofNat (UInt8.ofNat (upperHexDigit k).toNat).toNat = upperHexDigit k := by
  decide

theorem decodeBytes_cons {b : UInt8} (plain : b ≠ 0x25) (bs : List UInt8) :
    decodeBytes (b :: bs) = b :: decodeBytes bs := by
  match bs with
  | [] => rfl
  | [_] => rfl
  | _ :: _ :: _ => simp [decodeBytes, plain]

theorem decodeBytes_escape (b : UInt8) (bs : List UInt8) :
    decodeBytes (Utf8.encode (escape b) ++ bs) = b :: decodeBytes bs := by
  have hb := b.toNat_lt
  obtain ⟨hhigh, high⟩ := encodeChar_upperHexDigit (b.toNat / 16) (by omega)
  obtain ⟨hlow, low⟩ := encodeChar_upperHexDigit (b.toNat % 16) (by omega)
  have whole : 16 * (b.toNat / 16) + b.toNat % 16 = b.toNat := by omega
  have percent : Utf8.encodeChar '%' = [0x25] := by decide
  simp only [escape, Utf8.encode_cons, Utf8.encode_nil, percent, hhigh, hlow, List.cons_append,
    List.nil_append, List.append_nil, decodeBytes, if_true, high, low,
    hexValue?_upperHexDigit _ (show b.toNat / 16 < 16 by omega),
    hexValue?_upperHexDigit _ (show b.toNat % 16 < 16 by omega), whole, UInt8.ofNat_toNat]

end Percent

namespace Form

def isFormChar (c : Char) : Bool :=
  ('0' ≤ c && c ≤ '9') || ('A' ≤ c && c ≤ 'Z') || ('a' ≤ c && c ≤ 'z')
    || ['*', '-', '.', '_', '+', '%'].contains c

def unplus (c : Char) : Char := if c = '+' then ' ' else c

theorem isFormChar_upperHexDigit : ∀ k < 16, isFormChar (Percent.upperHexDigit k) = true ∧
    unplus (Percent.upperHexDigit k) = Percent.upperHexDigit k := by
  decide

theorem plain_byte : ∀ b, isPlain b = true →
    isFormChar (.ofNat b.toNat) = true ∧ unplus (.ofNat b.toNat) = .ofNat b.toNat ∧
      Utf8.encodeChar (.ofNat b.toNat) = [b] ∧ b ≠ 0x25 :=
  Utf8.forall_byte (by decide +kernel)

theorem mem_writeByte {b : UInt8} {c : Char} (h : c ∈ writeByte b) : isFormChar c = true := by
  have hb := b.toNat_lt
  unfold writeByte at h
  split at h
  · rename_i plain
    rw [List.mem_singleton.1 h]
    exact (plain_byte b plain).1
  · split at h
    · rw [List.mem_singleton.1 h]
      decide
    · simp only [Percent.escape, List.mem_cons, List.not_mem_nil, or_false] at h
      rcases h with rfl | rfl | rfl
      · decide
      · exact (isFormChar_upperHexDigit _ (by omega)).1
      · exact (isFormChar_upperHexDigit _ (by omega)).1

theorem mem_writePart {cs : List Char} {c : Char} (h : c ∈ writePart cs) : isFormChar c = true := by
  obtain ⟨b, -, hc⟩ := List.mem_flatMap.1 h
  exact mem_writeByte hc

theorem decodeBytes_writeByte (b : UInt8) (bs : List UInt8) :
    Percent.decodeBytes (Utf8.encode ((writeByte b).map unplus) ++ bs) =
      b :: Percent.decodeBytes bs := by
  have hb := b.toNat_lt
  unfold writeByte
  split
  · rename_i plain
    obtain ⟨-, same, byte, noEscape⟩ := plain_byte b plain
    simp only [List.map_cons, List.map_nil, same, Utf8.encode_cons, Utf8.encode_nil, byte,
      List.append_nil, List.cons_append, List.nil_append, Percent.decodeBytes_cons noEscape]
  · split
    · rename_i space
      rw [space]
      exact Percent.decodeBytes_cons (by decide) bs
    · have same : (Percent.escape b).map unplus = Percent.escape b := by
        simp only [Percent.escape, List.map_cons, List.map_nil,
          (isFormChar_upperHexDigit _ (show b.toNat / 16 < 16 by omega)).2,
          (isFormChar_upperHexDigit _ (show b.toNat % 16 < 16 by omega)).2]
        rfl
      rw [same, Percent.decodeBytes_escape]

theorem decode_writeBytes (bs : List UInt8) :
    Percent.decode ((bs.flatMap writeByte).map unplus) = bs := by
  unfold Percent.decode
  induction bs with
  | nil => rfl
  | cons b bs ih =>
    rw [List.flatMap_cons, List.map_append, Utf8.encode_append, decodeBytes_writeByte, ih]

theorem readPart_writePart (cs : List Char) : readPart (writePart cs) = cs := by
  change Utf8.decodeLossy (Percent.decode ((writePart cs).map unplus)) = cs
  rw [writePart, decode_writeBytes, Utf8.decodeLossy_encode]

theorem not_isFormChar_separator : isFormChar '=' = false ∧ isFormChar '&' = false := by decide

theorem readPair_writePair (pair : List Char × List Char) : readPair (writePair pair) = pair := by
  have name : ∀ c ∈ writePart pair.1, decide (c ≠ '=') = true := by
    intro c hc
    have := mem_writePart hc
    refine decide_eq_true fun isSeparator => ?_
    rw [isSeparator, not_isFormChar_separator.1] at this
    cases this
  have before : (writePair pair).takeWhile (· ≠ '=') = writePart pair.1 := by
    rw [writePair, List.takeWhile_append_of_pos name]
    simp
  have after : (writePair pair).dropWhile (· ≠ '=') = '=' :: writePart pair.2 := by
    rw [writePair, List.dropWhile_append_of_pos name]
    simp
  rw [readPair, before, after, List.drop_one, List.tail_cons, readPart_writePart,
    readPart_writePart]

theorem splitOn_append {sep : Char} {piece : List Char} (h : sep ∉ piece) (rest : List Char) :
    splitOn sep (piece ++ sep :: rest) = piece :: splitOn sep rest := by
  induction piece with
  | nil => simp [splitOn]
  | cons c piece ih =>
    obtain ⟨hc, hpiece⟩ : sep ≠ c ∧ sep ∉ piece := by simpa using h
    simp only [List.cons_append, splitOn, Ne.symm hc, if_false, ih hpiece]

theorem splitOn_of_not_mem {sep : Char} {piece : List Char} (h : sep ∉ piece) :
    splitOn sep piece = [piece] := by
  induction piece with
  | nil => rfl
  | cons c piece ih =>
    obtain ⟨hc, hpiece⟩ : sep ≠ c ∧ sep ∉ piece := by simpa using h
    simp only [splitOn, Ne.symm hc, if_false, ih hpiece]

theorem ampersand_not_mem_writePair (pair : List Char × List Char) : '&' ∉ writePair pair := by
  have inPart : ∀ cs, '&' ∉ writePart cs := by
    intro cs h
    have := mem_writePart h
    rw [not_isFormChar_separator.2] at this
    cases this
  simp [writePair, inPart]

theorem read_write (pairs : List (List Char × List Char)) : read (write pairs) = pairs := by
  have nonempty : ∀ pair, writePair pair ≠ [] := fun pair => by simp [writePair]
  unfold read
  induction pairs with
  | nil => rfl
  | cons pair pairs ih =>
    cases pairs with
    | nil =>
      simp [write, splitOn_of_not_mem (ampersand_not_mem_writePair pair), nonempty pair,
        readPair_writePair]
    | cons next pairs =>
      simp only [write, splitOn_append (ampersand_not_mem_writePair pair), ne_eq, nonempty pair,
        not_false_eq_true, decide_true, List.filter_cons_of_pos, List.map_cons,
        readPair_writePair]
      exact congrArg (pair :: ·) ih

theorem mem_write {pairs : List (List Char × List Char)} {c : Char} (h : c ∈ write pairs) :
    isFormChar c = true ∨ c = '=' ∨ c = '&' := by
  have inPair : ∀ pair, c ∈ writePair pair → isFormChar c = true ∨ c = '=' ∨ c = '&' := by
    intro pair hc
    rcases List.mem_append.1 hc with name | rest
    · exact .inl (mem_writePart name)
    · rcases List.mem_cons.1 rest with isEquals | value
      · exact .inr (.inl isEquals)
      · exact .inl (mem_writePart value)
  induction pairs with
  | nil => cases h
  | cons pair pairs ih =>
    cases pairs with
    | nil => exact inPair pair h
    | cons next pairs =>
      rcases List.mem_append.1 h with first | rest
      · exact inPair pair first
      · rcases List.mem_cons.1 rest with isAmpersand | later
        · exact .inr (.inr isAmpersand)
        · exact ih later

end Form

end ConsoleGateway
