/-! Checks that report the first thing wrong.

What can be wrong is a list of faults, in the order in which they are looked for.  A fault is
a predicate on what is reported, so that it can say both when it applies and with what.

    Reports faults result → (result = .error e ↔ First faults e)

A check is taken apart in the order of its text: the fault that it looks for first is there
(`Reports.here`), or it is not and the rest of the check is about the rest (`Reports.past`).
Where one check comes after another, so do their faults (`Reports.append`). -/

namespace LoadHarness

variable {ε α : Type} {fault : ε → Prop} {faults : List (ε → Prop)} {e : ε}

/-- What is reported of the first fault that applies. -/
inductive First : List (ε → Prop) → ε → Prop where
  | here {fault : ε → Prop} {faults : List (ε → Prop)} {e : ε} (h : fault e) :
      First (fault :: faults) e
  | later {fault : ε → Prop} {faults : List (ε → Prop)} {e : ε} (hnot : ∀ e, ¬ fault e)
      (h : First faults e) : First (fault :: faults) e

theorem First.exists_mem (h : First faults e) : ∃ fault ∈ faults, fault e := by
  induction h with
  | here h => exact ⟨_, List.mem_cons_self, h⟩
  | later _ _ ih =>
    obtain ⟨fault, hmem, hfault⟩ := ih
    exact ⟨fault, List.mem_cons_of_mem _ hmem, hfault⟩

/-- None of these faults applies. -/
def Faultless (faults : List (ε → Prop)) : Prop := ∀ fault ∈ faults, ∀ e, ¬ fault e

theorem faultless_nil : Faultless ([] : List (ε → Prop)) := List.forall_mem_nil _

theorem faultless_cons : Faultless (fault :: faults) ↔ (∀ e, ¬ fault e) ∧ Faultless faults :=
  List.forall_mem_cons

/-- Either there is a first fault, or there is none. -/
theorem faultless_iff : Faultless faults ↔ ∀ e, ¬ First faults e := by
  constructor
  · intro hnone e hfirst
    obtain ⟨fault, hmem, hfault⟩ := hfirst.exists_mem
    exact hnone fault hmem e hfault
  · intro hnone
    induction faults with
    | nil => exact List.forall_mem_nil _
    | cons fault faults ih =>
      have hhead : ∀ e, ¬ fault e := fun e h => hnone e (.here h)
      exact List.forall_mem_cons.mpr ⟨hhead, ih fun e h => hnone e (.later hhead h)⟩

theorem first_append_iff {more : List (ε → Prop)} :
    First (faults ++ more) e ↔ First faults e ∨ Faultless faults ∧ First more e := by
  constructor
  · intro h
    induction faults with
    | nil => exact .inr ⟨List.forall_mem_nil _, h⟩
    | cons fault faults ih =>
      cases h with
      | here h => exact .inl (.here h)
      | later hnot h =>
        rcases ih h with h | ⟨hnone, h⟩
        · exact .inl (.later hnot h)
        · exact .inr ⟨List.forall_mem_cons.mpr ⟨hnot, hnone⟩, h⟩
  · rintro (h | ⟨hnone, h⟩)
    · induction h with
      | here h => exact .here h
      | later hnot _ ih => exact .later hnot ih
    · induction faults with
      | nil => exact h
      | cons fault faults ih =>
        obtain ⟨hnot, hnone⟩ := List.forall_mem_cons.mp hnone
        exact .later hnot (ih hnone)

theorem first_singleton_iff : First [fault] e ↔ fault e := by
  constructor
  · intro h
    cases h with
    | here h => exact h
    | later _ h => cases h
  · exact .here

/-- The result of a check that looks for these faults. -/
def Reports (faults : List (ε → Prop)) (result : Except ε α) : Prop :=
  ∀ e, result = .error e ↔ First faults e

variable {result : Except ε α}

theorem reports_ok {a : α} (h : Faultless faults) : Reports faults (.ok a : Except ε α) :=
  fun e => ⟨nofun, fun hfirst => absurd hfirst (faultless_iff.mp h e)⟩

theorem Reports.here (h : fault e) (hunique : ∀ other, fault other → other = e) :
    Reports (fault :: faults) (.error e : Except ε α) := by
  intro other
  constructor
  · intro heq
    cases heq
    exact .here h
  · intro hfirst
    cases hfirst with
    | here hother => rw [hunique other hother]
    | later hnot => exact absurd h (hnot e)

theorem Reports.past (hnot : ∀ e, ¬ fault e) (h : Reports faults result) :
    Reports (fault :: faults) result := by
  intro e
  rw [h e]
  constructor
  · exact .later hnot
  · intro hfirst
    cases hfirst with
    | here hthere => exact absurd hthere (hnot e)
    | later _ hrest => exact hrest

/-- A check comes to a result if and only if nothing is wrong. -/
theorem Reports.exists_ok_iff (h : Reports faults result) :
    (∃ a, result = .ok a) ↔ Faultless faults := by
  rw [faultless_iff]
  cases result with
  | error e => exact ⟨nofun, fun hnone => absurd ((h e).mp rfl) (hnone e)⟩
  | ok a => exact ⟨fun _ e hfirst => (nomatch (h e).mpr hfirst), fun _ => ⟨a, rfl⟩⟩

/-- Two checks that look for the same faults come to the same, if they do so where there is none. -/
theorem Reports.unique {other : Except ε α} (h : Reports faults result)
    (hother : Reports faults other)
    (hok : ∀ a b, result = .ok a → other = .ok b → a = b) : result = other := by
  cases result with
  | error e => exact ((hother e).mpr ((h e).mp rfl)).symm
  | ok a =>
    obtain ⟨b, rfl⟩ := hother.exists_ok_iff.mpr (h.exists_ok_iff.mp ⟨a, rfl⟩)
    rw [hok a b rfl rfl]

/-- A check that reports something if a condition holds, and goes on otherwise. -/
theorem Reports.ite {p c : Prop} [Decidable c] (hiff : p ↔ c) (h : ¬ c → Reports faults result) :
    Reports ((fun other => p ∧ other = e) :: faults) (if c then .error e else result) := by
  split
  · rename_i hc
    exact .here ⟨hiff.mpr hc, rfl⟩ fun _ hother => hother.2
  · rename_i hc
    exact .past (fun _ hother => hc (hiff.mp hother.1)) (h hc)

/-- Two checks, of which the second looks at what the first has come to. -/
theorem Reports.append {β : Type} {first : Except ε β} {more : List (ε → Prop)}
    (h : Reports faults first) (herror : ∀ e, first = .error e → result = .error e)
    (hok : ∀ b, first = .ok b → Reports more result) : Reports (faults ++ more) result := by
  intro e
  rw [first_append_iff, ← h e]
  cases first with
  | error other =>
    have hsome : ¬ Faultless faults := fun hnone => faultless_iff.mp hnone other ((h other).mp rfl)
    rw [herror other rfl]
    simp only [hsome, false_and, or_false, Except.error.injEq]
  | ok b =>
    rw [hok b rfl e]
    simp only [reduceCtorEq, false_or]
    exact (and_iff_right (h.exists_ok_iff.mp ⟨b, rfl⟩)).symm

end LoadHarness
