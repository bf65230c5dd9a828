import Mathlib.Data.List.Induction
import ConsoleGateway.Proofs.FormText
import ConsoleGateway.Proofs.Pages
import ConsoleGateway.Settings.Load

namespace ConsoleGateway

namespace Form

theorem splitOn_append_sep (sep : Char) (before after : List Char) :
    splitOn sep (before ++ sep :: after) = splitOn sep before ++ splitOn sep after := by
  induction before with
  | nil => simp [splitOn]
  | cons c before ih =>
    rw [List.cons_append, splitOn, splitOn, ih]
    split
    · rfl
    · cases cut : splitOn sep before with
      | nil => exact absurd cut (splitOn_ne_nil sep before)
      | cons piece pieces => rfl

end Form

namespace Settings

def IsFront (cs : List Char) : Prop := cs = [] ∨ ∃ before, cs = before ++ ['/']

theorem IsFront.append {cs cs' : List Char} (front : IsFront cs) (front' : IsFront cs') :
    IsFront (cs ++ cs') := by
  rcases front' with rfl | ⟨before, rfl⟩
  · rwa [List.append_nil]
  · exact .inr ⟨cs ++ before, (List.append_assoc _ _ _).symm⟩

theorem exists_lastPart (cs : List Char) :
    ∃ front last, cs = front ++ last ∧ IsFront front ∧ '/' ∉ last := by
  induction cs using List.reverseRecOn with
  | nil => exact ⟨[], [], rfl, .inl rfl, List.not_mem_nil⟩
  | append_singleton cs c ih =>
    by_cases slash : c = '/'
    · exact ⟨cs ++ [c], [], (List.append_nil _).symm, .inr ⟨cs, by rw [slash]⟩, List.not_mem_nil⟩
    · obtain ⟨front, last, rfl, isFront, free⟩ := ih
      refine ⟨front, last ++ [c], List.append_assoc _ _ _, isFront, ?_⟩
      rw [List.mem_append, List.mem_singleton, not_or]
      exact ⟨free, Ne.symm slash⟩

theorem exists_front_joinName (dir name : String) :
    ∃ front, IsFront front ∧ (joinName dir name).toList = front ++ name.toList := by
  unfold joinName
  split
  · exact ⟨[], .inl rfl, rfl⟩
  · split
    · exact ⟨[], .inl rfl, rfl⟩
    · exact ⟨dir.toList ++ ['/'], .inr ⟨_, rfl⟩, by simp⟩

theorem getLast?_nameParts {name : String} {front last : List Char} (isFront : IsFront front)
    (whole : name.toList = front ++ last) (free : '/' ∉ last) (proper : 1 < last.length) :
    (nameParts name).getLast? = some last := by
  have kept : [last].filter (fun part => part ≠ [] && part ≠ ['.']) = [last] := by
    have some : last ≠ [] := by
      rintro rfl
      exact absurd proper (by decide)
    have more : last ≠ ['.'] := by
      rintro rfl
      exact absurd proper (by decide)
    simp [some, more]
  unfold nameParts
  rw [whole]
  rcases isFront with rfl | ⟨before, rfl⟩
  · rw [List.nil_append, Form.splitOn_of_not_mem free, kept]
    rfl
  · rw [List.append_assoc, List.singleton_append, Form.splitOn_append_sep,
      Form.splitOn_of_not_mem free, List.filter_append, kept]
    exact List.getLast?_concat

theorem hasExtension_joinName (dir stem : String) :
    hasExtension "toml".toList (joinName dir (stem ++ ".toml")) = true ↔
      stem ≠ "" ∧ stem.toList.getLast? ≠ some '/' := by
  obtain ⟨front, last, split, isFront, free⟩ := exists_lastPart stem.toList
  obtain ⟨front', isFront', joined⟩ := exists_front_joinName dir (stem ++ ".toml")
  rw [String.toList_append, split, List.append_assoc, ← List.append_assoc] at joined
  have lastPart : (nameParts (joinName dir (stem ++ ".toml"))).getLast? =
      some (last ++ ".toml".toList) := by
    refine getLast?_nameParts (isFront'.append isFront) joined ?_ ?_
    · rw [List.mem_append, not_or]
      exact ⟨free, by decide⟩
    · rw [List.length_append]
      exact Nat.lt_add_left _ (by decide)
  have ends : last = [] ↔ stem = "" ∨ stem.toList.getLast? = some '/' := by
    rw [← String.toList_eq_nil_iff, split]
    constructor
    · rintro rfl
      rw [List.append_nil]
      rcases isFront with rfl | ⟨before, rfl⟩
      · exact .inl rfl
      · exact .inr List.getLast?_concat
    · rintro (whole | slash)
      · exact (List.append_eq_nil_iff.1 whole).2
      · by_contra more
        rw [List.getLast?_append, List.getLast?_eq_some_getLast more, Option.some_or] at slash
        rw [← List.getLast?_eq_some_getLast more] at slash
        exact free (List.mem_of_getLast? slash)
  have suffix : ".toml".toList.isSuffixOf (last ++ ".toml".toList) = true :=
    List.isSuffixOf_iff_suffix.2 (List.suffix_append _ _)
  rw [hasExtension, lastPart, ← not_or, ← ends]
  change (".toml".toList.isSuffixOf _ && _) = true ↔ _
  rw [suffix, Bool.true_and, decide_eq_true_iff, List.length_append, ← List.length_eq_zero_iff]
  exact not_congr Nat.add_eq_right

end Settings

end ConsoleGateway
