namespace ConsoleGateway

variable {a b early late : List α} {e last : α}

theorem append_eq_append_cons (h : a ++ b = early ++ e :: late) :
    (∃ middle, a = early ++ e :: middle ∧ late = middle ++ b) ∨
      ∃ middle, early = a ++ middle ∧ b = middle ++ e :: late := by
  rcases List.append_eq_append_iff.1 h with ⟨middle, hearly, hb⟩ | ⟨middle, ha, hlate⟩
  · exact .inr ⟨middle, hearly, hb⟩
  · cases middle with
    | nil => exact .inr ⟨[], by simpa using ha.symm, by simpa using hlate.symm⟩
    | cons e' middle =>
      obtain ⟨rfl, rfl⟩ := List.cons.inj hlate
      exact .inl ⟨middle, ha, rfl⟩

theorem snoc_eq_append_cons (h : a ++ [last] = early ++ e :: late) :
    (∃ middle, a = early ++ e :: middle ∧ late = middle ++ [last]) ∨
      early = a ∧ late = [] ∧ e = last := by
  rcases append_eq_append_cons h with before | ⟨middle, hearly, hlast⟩
  · exact .inl before
  · cases middle with
    | nil =>
      obtain ⟨rfl, rfl⟩ := List.cons.inj hlast
      exact .inr ⟨by simpa using hearly, rfl, rfl⟩
    | cons e' middle => simp at hlast

end ConsoleGateway
