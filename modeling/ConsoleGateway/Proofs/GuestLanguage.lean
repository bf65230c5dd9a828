import ConsoleGateway.Navigation.GuestPath
import ConsoleGateway.Unicode.Lowercase

namespace ConsoleGateway

namespace Unicode

def foldTable : List CaseRun := [
  ⟨0xB5, 0xB5, 1, 775⟩, ⟨0x17F, 0x17F, 1, -268⟩, ⟨0x345, 0x345, 1, 116⟩, ⟨0x3C2, 0x3C2, 1, 1⟩,
  ⟨0x3D0, 0x3D0, 1, -30⟩, ⟨0x3D1, 0x3D1, 1, -25⟩, ⟨0x3D5, 0x3D5, 1, -15⟩, ⟨0x3D6, 0x3D6, 1, -22⟩,
  ⟨0x3F0, 0x3F0, 1, -54⟩, ⟨0x3F1, 0x3F1, 1, -48⟩, ⟨0x3F5, 0x3F5, 1, -64⟩, ⟨0x13A0, 0x13F5, 1, 0⟩,
  ⟨0x13F8, 0x13FD, 1, -8⟩, ⟨0x1C80, 0x1C80, 1, -6222⟩, ⟨0x1C81, 0x1C81, 1, -6221⟩,
  ⟨0x1C82, 0x1C82, 1, -6212⟩, ⟨0x1C83, 0x1C84, 1, -6210⟩, ⟨0x1C85, 0x1C85, 1, -6211⟩,
  ⟨0x1C86, 0x1C86, 1, -6204⟩, ⟨0x1C87, 0x1C87, 1, -6180⟩, ⟨0x1C88, 0x1C88, 1, 35267⟩,
  ⟨0x1E9B, 0x1E9B, 1, -58⟩, ⟨0x1FBE, 0x1FBE, 1, -7173⟩, ⟨0x1FD3, 0x1FD3, 1, -7235⟩,
  ⟨0x1FE3, 0x1FE3, 1, -7219⟩, ⟨0xAB70, 0xABBF, 1, -38864⟩, ⟨0xFB05, 0xFB05, 1, 1⟩]

def fold (c : Char) : Char :=
  match foldTable.find? (·.holds c.toNat) with
  | some run => .ofNat (c.toNat + run.shift).toNat
  | none =>
    match lowercaseChar c with
    | [small] => small
    | _ => c

def CaseRun.StaysWide (run : CaseRun) : Prop :=
  0x80 ≤ run.first + run.shift ∧ run.last + run.shift < 0xD800 ∨
    0xE000 ≤ run.first + run.shift ∧ run.last + run.shift < 0x110000

instance (run : CaseRun) : Decidable run.StaysWide := inferInstanceAs (Decidable (_ ∨ _))

variable {run : CaseRun} {c : Char} {n : Nat}

theorem CaseRun.StaysWide.shifted (wide : run.StaysWide) (holds : run.holds n = true) :
    0x80 ≤ (Char.ofNat (n + run.shift).toNat).toNat := by
  simp only [CaseRun.holds, Bool.and_eq_true, decide_eq_true_eq] at holds
  have valid : Nat.isValidChar (n + run.shift).toNat := by
    unfold StaysWide at wide
    unfold Nat.isValidChar
    omega
  have kept : (Char.ofNat (n + run.shift).toNat).toNat = (n + run.shift).toNat := by
    rw [Char.ofNat, dif_pos valid]
    rfl
  unfold StaysWide at wide
  omega

def asciiFolding : List Nat := List.range 0x80 ++ [0x17F, 0x212A]

theorem staysWide_of_mem : ∀ run ∈ foldTable ++ lowercaseTable,
    run.StaysWide ∨ run.first = run.last ∧ run.first ∈ asciiFolding := by
  decide +kernel

theorem wide_of_find? {table : List CaseRun} (listed : table ⊆ foldTable ++ lowercaseTable)
    (found : table.find? (·.holds n) = some run) (other : n ∉ asciiFolding) :
    0x80 ≤ (Char.ofNat (n + run.shift).toNat).toNat := by
  have holds : run.holds n = true := by simpa using List.find?_some found
  rcases staysWide_of_mem run (listed (List.mem_of_find?_eq_some found)) with
    wide | ⟨single, ascii⟩
  · exact wide.shifted holds
  · simp only [CaseRun.holds, Bool.and_eq_true, decide_eq_true_eq] at holds
    have same : n = run.first := by omega
    exact absurd (same ▸ ascii) other

theorem le_of_notMem_asciiFolding (other : n ∉ asciiFolding) : 0x80 ≤ n := by
  simp only [asciiFolding, List.mem_append, List.mem_range, not_or] at other
  omega

theorem fold_wide (other : c.toNat ∉ asciiFolding) : 0x80 ≤ (fold c).toNat := by
  have wide := le_of_notMem_asciiFolding other
  unfold fold
  split
  · rename_i run found
    exact wide_of_find? (List.subset_append_left ..) found other
  split
  · rename_i small one
    unfold lowercaseChar at one
    rw [if_neg (by omega)] at one
    split at one
    · cases one
    split at one
    · rename_i run found
      cases one
      exact wide_of_find? (List.subset_append_right ..) found other
    · cases one
      exact wide
  · exact wide

theorem fold_ascii : ∀ n ∈ asciiFolding, fold (.ofNat n) = foldToAscii (.ofNat n) := by
  decide +kernel

theorem foldToAscii_eq_iff {w : Char} (ascii : w.toNat < 0x80) : foldToAscii c = w ↔ fold c = w := by
  by_cases known : c.toNat ∈ asciiFolding
  · have same := fold_ascii c.toNat known
    rw [Char.ofNat_toNat] at same
    rw [same]
  · have high := le_of_notMem_asciiFolding known
    have wide := fold_wide known
    have stays : foldToAscii c = c := by
      simp only [asciiFolding, List.mem_append, List.mem_cons, List.not_mem_nil, or_false,
        not_or] at known
      rw [foldToAscii, if_neg (by omega), if_neg known.2.1, if_neg known.2.2]
    rw [stays]
    constructor <;>
    · rintro rfl
      omega

/-- Texts that are equal when their case is folded. -/
def EqFold (cs ds : List Char) : Prop := cs.map fold = ds.map fold

instance (cs ds : List Char) : Decidable (EqFold cs ds) := inferInstanceAs (Decidable (_ = _))

example : EqFold "TAGſ, ΣΊΣΥΦΟΣ".toList "tags, σίσυφος".toList := by decide +kernel

theorem map_foldToAscii_eq_iff {cs word : List Char} (ascii : ∀ c ∈ word, c.toNat < 0x80) :
    cs.map foldToAscii = word ↔ cs.map fold = word := by
  induction word generalizing cs with
  | nil => simp
  | cons w word ih =>
    obtain ⟨hw, hword⟩ := List.forall_mem_cons.1 ascii
    cases cs <;> simp [foldToAscii_eq_iff hw, ih hword]

end Unicode

open Unicode

variable {word cs rest : List Char}

theorem dropWord?_eq_some_iff :
    dropWord? word cs = some rest ↔ ∃ w, cs = w ++ rest ∧ w.map foldToAscii = word := by
  induction word generalizing cs with
  | nil => simp [dropWord?]
  | cons x word ih =>
    cases cs with
    | nil => simp [dropWord?]
    | cons c cs =>
      by_cases same : foldToAscii c = x
      · simp only [dropWord?, if_pos same, ih, List.map_eq_cons_iff]
        constructor
        · rintro ⟨w, rfl, rfl⟩
          exact ⟨c :: w, rfl, c, w, rfl, same, rfl⟩
        · rintro ⟨-, cut, c', w, rfl, -, rfl⟩
          exact ⟨w, (List.cons.inj cut).2, rfl⟩
      · simp only [dropWord?, if_neg same, reduceCtorEq, List.map_eq_cons_iff, false_iff]
        rintro ⟨-, cut, c', w, rfl, same', -⟩
        rw [(List.cons.inj cut).1] at same
        exact same same'

theorem startsNumbered_iff : startsNumbered cs = true ↔ ∃ d c b, cs = d ++ '/' :: c :: b ∧
    d ≠ [] ∧ (∀ x ∈ d, isDecimalDigit x = true) ∧ c ≠ '\n' := by
  constructor
  · intro numbered
    obtain ⟨digits, follows⟩ := Bool.and_eq_true_iff.1 numbered
    split at follows
    · rename_i c b after
      refine ⟨cs.takeWhile isDecimalDigit, c, b, ?_, by simpa using digits,
        List.all_eq_true.1 List.all_takeWhile, by simpa using follows⟩
      rw [← after, List.takeWhile_append_dropWhile]
    · cases follows
  · rintro ⟨d, c, b, rfl, nonempty, digits, sameLine⟩
    -- The slash is no digit, so that the longest run of digits is the number itself.
    have slash : isDecimalDigit '/' = false := by decide
    simp [startsNumbered, List.takeWhile_append_of_pos digits, List.dropWhile_append_of_pos digits,
      slash, nonempty, sameLine]

theorem guestWords_folded : ∀ word ∈ guestWords,
    word.map fold = word ∧ ∀ c ∈ word, c.toNat < 0x80 := by
  have folded : ∀ word ∈ guestWords,
      word.map fold = word ∧ word.all (·.toNat < 0x80) = true := by decide +kernel
  simpa using folded

/-- A text that starts as guest pages do, cut after the word and after the number. -/
def StartsGuestPage (cs : List Char) : Prop :=
  ∃ w d c b, cs = w ++ d ++ '/' :: c :: b ∧ (∃ word ∈ guestWords, EqFold w word) ∧ d ≠ [] ∧
    (∀ x ∈ d, isDecimalDigit x = true) ∧ c ≠ '\n'

theorem startsGuestPath_iff : startsGuestPath cs = true ↔ StartsGuestPage cs := by
  have after (word : List Char) : ((dropWord? word cs).map startsNumbered).getD false = true ↔
      ∃ rest, dropWord? word cs = some rest ∧ startsNumbered rest = true := by
    cases dropWord? word cs <;> simp
  simp only [startsGuestPath, List.any_eq_true, after, dropWord?_eq_some_iff, startsNumbered_iff]
  constructor
  · rintro ⟨word, listed, _, ⟨w, rfl, folds⟩, d, c, b, rfl, numbered⟩
    obtain ⟨folded, ascii⟩ := guestWords_folded word listed
    refine ⟨w, d, c, b, by simp, ⟨word, listed, ?_⟩, numbered⟩
    rw [EqFold, folded, ← map_foldToAscii_eq_iff ascii, folds]
  · rintro ⟨w, d, c, b, rfl, ⟨word, listed, folds⟩, numbered⟩
    obtain ⟨folded, ascii⟩ := guestWords_folded word listed
    rw [EqFold, folded, ← map_foldToAscii_eq_iff ascii] at folds
    exact ⟨word, listed, _, ⟨w, List.append_assoc .., folds⟩, d, c, b, rfl, numbered⟩

theorem holdsGuestPath_iff : holdsGuestPath cs = true ↔ ∃ a rest, cs = a ++ rest ∧
    StartsGuestPage rest := by
  induction cs with
  | nil =>
    have none : startsGuestPath [] = false := by decide
    simp [holdsGuestPath, ← startsGuestPath_iff, none]
  | cons c cs ih =>
    rw [holdsGuestPath, Bool.or_eq_true, startsGuestPath_iff, ih]
    constructor
    · rintro (here | ⟨a, rest, rfl, later⟩)
      · exact ⟨[], c :: cs, rfl, here⟩
      · exact ⟨c :: a, rest, rfl, later⟩
    · rintro ⟨a, rest, cut, starts⟩
      cases a with
      | nil => exact .inl (cut ▸ starts)
      | cons x a => exact .inr ⟨a, rest, (List.cons.inj cut).2, starts⟩

structure IsRecased (c d : Char) : Prop where
  folded : fold d = fold c
  digit : isDecimalDigit d = isDecimalDigit c
  slash : d = '/' ↔ c = '/'
  newline : d = '\n' ↔ c = '\n'

theorem isRecased_iff {c d : Char} : IsRecased c d ↔ fold d = fold c ∧
    isDecimalDigit d = isDecimalDigit c ∧ (d = '/' ↔ c = '/') ∧ (d = '\n' ↔ c = '\n') :=
  ⟨fun h => ⟨h.folded, h.digit, h.slash, h.newline⟩,
    fun ⟨folded, digit, slash, newline⟩ => ⟨folded, digit, slash, newline⟩⟩

instance (c d : Char) : Decidable (IsRecased c d) := decidable_of_iff' _ isRecased_iff

theorem isRecased_of_letters {f : Char → Char} (first : Nat)
    (letters : ∀ k < 26, IsRecased (.ofNat (first + k)) (f (.ofNat (first + k))))
    (stays : ∀ c : Char, ¬(first ≤ c.toNat ∧ c.toNat < first + 26) → f c = c) (c : Char) :
    IsRecased c (f c) := by
  by_cases letter : first ≤ c.toNat ∧ c.toNat < first + 26
  · have checked := letters (c.toNat - first) (by omega)
    rwa [Nat.add_sub_cancel' letter.1, Char.ofNat_toNat] at checked
  · rw [stays c letter]
    exact ⟨rfl, rfl, .rfl, .rfl⟩

theorem isRecased_toLower : ∀ c, IsRecased c c.toLower := by
  refine isRecased_of_letters 65 (by decide +kernel) fun c other => dif_neg fun capital => ?_
  have low : 65 ≤ c.toNat := capital.1
  have high : c.toNat ≤ 90 := capital.2
  omega

theorem isRecased_toUpper : ∀ c, IsRecased c c.toUpper := by
  refine isRecased_of_letters 97 (by decide +kernel) fun c other => dif_neg fun small => ?_
  have low : 97 ≤ c.toNat := small.1
  have high : c.toNat ≤ 122 := small.2
  omega

variable {f : Char → Char}

theorem startsGuestPage_map (recased : ∀ c, IsRecased c (f c)) :
    StartsGuestPage (cs.map f) ↔ StartsGuestPage cs := by
  have folds : fold ∘ f = fold := funext fun c => (recased c).folded
  have same (w word : List Char) : EqFold (w.map f) word ↔ EqFold w word := by
    rw [EqFold, EqFold, List.map_map, folds]
  constructor
  · rintro ⟨w, d, s, b, cut, ⟨word, listed, folds⟩, nonempty, digits, sameLine⟩
    obtain ⟨numbered, rest, rfl, front, back⟩ := List.map_eq_append_iff.1 cut
    obtain ⟨w, d, rfl, rfl, rfl⟩ := List.map_eq_append_iff.1 front
    obtain ⟨slash, rest, rfl, isSlash, more⟩ := List.map_eq_cons_iff.1 back
    obtain ⟨c, b, rfl, rfl, rfl⟩ := List.map_eq_cons_iff.1 more
    rw [(recased slash).slash.1 isSlash]
    refine ⟨w, d, c, b, rfl, ⟨word, listed, (same w word).1 folds⟩, by simpa using nonempty, ?_,
      mt (recased c).newline.2 sameLine⟩
    simpa [fun c => (recased c).digit] using digits
  · rintro ⟨w, d, c, b, rfl, ⟨word, listed, folds⟩, nonempty, digits, sameLine⟩
    refine ⟨w.map f, d.map f, f c, b.map f, ?_, ⟨word, listed, (same w word).2 folds⟩,
      by simpa using nonempty, ?_, mt (recased c).newline.1 sameLine⟩
    · simp [(recased '/').slash.2 rfl]
    · simpa [fun c => (recased c).digit] using digits

theorem isGuestPath_map (recased : ∀ c, IsRecased c (f c)) (u : String) :
    isGuestPath (u.map f) = isGuestPath u := by
  rw [Bool.eq_iff_iff, isGuestPath, isGuestPath, String.toList_map, holdsGuestPath_iff,
    holdsGuestPath_iff]
  constructor
  · rintro ⟨a, rest, cut, starts⟩
    obtain ⟨a, rest, own, rfl, rfl⟩ := List.map_eq_append_iff.1 cut
    exact ⟨a, rest, own, (startsGuestPage_map recased).1 starts⟩
  · rintro ⟨a, rest, cut, starts⟩
    exact ⟨a.map f, rest.map f, by simp [cut], (startsGuestPage_map recased).2 starts⟩

/-- A url is a guest page exactly if it can be cut into anything, one of the two words in whatever
case, a number, a slash, a character of the same line, and anything. So no case of ASCII letters
counts, and nothing that is put around a guest page. -/
theorem isGuestPath_exact (u : String) :
    (isGuestPath u = true ↔ ∃ (a w d b : String) (c : Char),
      u = a ++ w ++ d ++ "/" ++ .singleton c ++ b ∧
        (EqFold w.toList "/harbor/projects/".toList ∨ EqFold w.toList "/harbor/tags/".toList) ∧
        d ≠ "" ∧ (∀ x ∈ d.toList, isDecimalDigit x = true) ∧ c ≠ '\n') ∧
      isGuestPath u.toLower = isGuestPath u ∧ isGuestPath u.toUpper = isGuestPath u ∧
      (∀ v : String, v.toLower = u.toLower → isGuestPath v = isGuestPath u) ∧
      ∀ before after : String, isGuestPath u = true → isGuestPath (before ++ u ++ after) = true := by
  have lower := isGuestPath_map isRecased_toLower
  refine ⟨?exact, lower u, isGuestPath_map isRecased_toUpper u, ?respelled, ?embedded⟩
  case exact =>
    have anyWord (w : List Char) : (∃ word ∈ guestWords, EqFold w word) ↔
        EqFold w "/harbor/projects/".toList ∨ EqFold w "/harbor/tags/".toList := by
      simp [guestWords]
    rw [isGuestPath, holdsGuestPath_iff]
    constructor
    · rintro ⟨a, rest, cut, w, d, c, b, rfl, folds, nonempty, digits, sameLine⟩
      refine ⟨.ofList a, .ofList w, .ofList d, .ofList b, c, ?_, ?_, ?_, ?_, sameLine⟩
      · rw [← String.toList_inj, cut]
        simp
      · simpa only [String.toList_ofList, ← anyWord] using folds
      · simpa using nonempty
      · simpa using digits
    · rintro ⟨a, w, d, b, c, rfl, folds, nonempty, digits, sameLine⟩
      refine ⟨a.toList, _, ?_, w.toList, d.toList, c, b.toList, rfl, (anyWord _).2 folds, ?_, digits,
        sameLine⟩
      · simp
      · simpa using nonempty
  case respelled =>
    intro v same
    rw [← lower v, ← lower u]
    exact congrArg isGuestPath same
  case embedded =>
    intro before after guest
    obtain ⟨a, rest, cut, w, d, c, b, rfl, page⟩ := holdsGuestPath_iff.1 guest
    refine holdsGuestPath_iff.2 ⟨before.toList ++ a, w ++ d ++ '/' :: c :: (b ++ after.toList), ?_,
      w, d, c, b ++ after.toList, rfl, page⟩
    simp [cut]

example : isGuestPath "?next=/HARBOR/tagſ/٣٤/\r" = true := by decide +kernel

end ConsoleGateway
