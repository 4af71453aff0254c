import Mathlib.Data.List.Infix

/-! Histories: lists that grow at their end.

What was done once, with what came before and after it, is a split of the history.  One more entry is
itself the place of a split, or it belongs to what came after (`concat_eq_append_cons_iff`). -/

namespace LoadHarness

theorem concat_eq_append_cons_iff {α : Type} {history before later : List α} {last a : α} :
    history ++ [last] = before ++ a :: later ↔
      (history = before ∧ last = a ∧ later = []) ∨
        ∃ rest, later = rest ++ [last] ∧ history = before ++ a :: rest := by
  constructor
  · intro h
    rcases List.eq_nil_or_concat later with rfl | ⟨rest, final, rfl⟩
    · obtain ⟨rfl, hlast⟩ := List.append_inj' h rfl
      exact .inl ⟨rfl, List.singleton_inj.mp hlast, rfl⟩
    · rw [List.concat_eq_append, ← List.cons_append, ← List.append_assoc] at h
      obtain ⟨rfl, hlast⟩ := List.append_inj' h rfl
      obtain rfl := List.singleton_inj.mp hlast
      exact .inr ⟨rest, List.concat_eq_append, rfl⟩
  · rintro (⟨rfl, rfl, rfl⟩ | ⟨rest, rfl, rfl⟩)
    · rfl
    · rw [List.append_assoc, List.cons_append]

end LoadHarness
