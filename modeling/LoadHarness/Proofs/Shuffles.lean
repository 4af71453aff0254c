import Mathlib.Data.List.GetD
import Mathlib.Data.List.Perm.Basic

/-! Lists that are merged from others, each of which keeps its order.

A merged list is known by its tags: it has a key for every entry, and what bears one key is the list
of that key.  So what is picked from a merged list is merged from what is picked from its parts
(`Shuffles.filterMap`), and nothing is lost or added (`Shuffles.perm_flatten`). -/

namespace LoadHarness

/-- A list is made of one list for each key, merged in an order that keeps each of them. -/
def Shuffles {κ α : Type} [BEq κ] (merged : List α) (own : κ → List α) : Prop :=
  ∃ tagged : List (κ × α), tagged.map Prod.snd = merged ∧
    ∀ key, (tagged.filter fun entry => entry.1 == key).map Prod.snd = own key

/-- What has a key falls apart into what has each key. -/
theorem perm_flatMap_range {α : Type} (key : α → Option Nat) (l : List α) (n : Nat)
    (h : ∀ a ∈ l, ∀ i, key a = some i → i < n) :
    (l.filter fun a => (key a).isSome).Perm
      ((List.range n).flatMap fun i => l.filter fun a => key a == some i) := by
  induction n generalizing l with
  | zero =>
    rw [List.filter_eq_nil_iff.mpr fun a hmem hsome => ?_]
    · exact .nil
    · obtain ⟨i, hi⟩ := Option.isSome_iff_exists.mp hsome
      exact absurd (h a hmem i hi) (Nat.not_lt_zero i)
  | succ n ih =>
    -- the last key apart, the rest of the list has the other keys
    have hrest := ih (l.filter fun a => !(key a == some n)) fun a hmem i hi => by
      obtain ⟨hmem, hne⟩ := List.mem_filter.mp hmem
      have hlt := h a hmem i hi
      rw [hi] at hne
      have hin : i ≠ n := by
        rintro rfl
        simp at hne
      omega
    have hblock : ∀ i ∈ List.range n, ((l.filter fun a => !(key a == some n)).filter fun a =>
        key a == some i) = l.filter fun a => key a == some i := by
      intro i hi
      rw [List.filter_filter]
      refine List.filter_congr fun a _ => ?_
      have hne : i ≠ n := Nat.ne_of_lt (List.mem_range.mp hi)
      cases hkey : key a with
      | none => simp
      | some j =>
        by_cases hji : j = i
        · subst hji
          simp [hne]
        · simp [hji]
    have hlast : ((l.filter fun a => (key a).isSome).filter fun a => key a == some n) =
        l.filter fun a => key a == some n := by
      rw [List.filter_filter]
      refine List.filter_congr fun a _ => ?_
      cases key a <;> simp
    rw [List.range_succ, List.flatMap_append, List.flatMap_singleton,
      ← List.flatMap_congr hblock]
    refine (List.filter_append_perm (fun a => key a == some n)
      (l.filter fun a => (key a).isSome)).symm.trans ?_
    rw [hlast]
    refine List.perm_append_comm.trans (List.Perm.append_right _ ?_)
    rw [List.filter_comm]
    exact hrest

variable {α β : Type}

theorem Shuffles.filterMap {κ : Type} [BEq κ] {merged : List α} {own : κ → List α}
    (h : Shuffles merged own) (pick : α → Option β) :
    Shuffles (merged.filterMap pick) fun key => (own key).filterMap pick := by
  obtain ⟨tagged, rfl, hown⟩ := h
  refine ⟨tagged.filterMap fun entry => (pick entry.2).map (entry.1, ·), ?_, fun key => ?_⟩
  · rw [List.map_filterMap, List.filterMap_map]
    congr 1
    funext entry
    rw [Option.map_map, Function.comp_apply]
    exact Option.map_id'
  · change _ = (own key).filterMap pick
    rw [← hown key, List.filter_filterMap, List.map_filterMap, List.filterMap_map,
      List.filterMap_filter]
    congr 1
    funext entry
    rw [Function.comp_apply]
    cases pick entry.2 with
    | none => simp
    | some picked => by_cases hkey : (entry.1 == key) = true <;> simp [hkey]

/-- The parts of a merged list, one after the other, are the same entries. -/
theorem Shuffles.perm_flatten {merged : List α} {parts : List (List α)}
    (h : Shuffles merged fun key => parts.getD key []) : merged.Perm parts.flatten := by
  obtain ⟨tagged, rfl, hparts⟩ := h
  have hlt : ∀ entry ∈ tagged, ∀ i, some entry.1 = some i → i < parts.length := by
    rintro entry hmem _ ⟨⟩
    by_contra hle
    have hnil := (hparts entry.1).trans (List.getD_eq_default _ _ (Nat.not_lt.mp hle))
    rw [List.map_eq_nil_iff, List.filter_eq_nil_iff] at hnil
    exact hnil entry hmem (beq_self_eq_true _)
  have hperm := (perm_flatMap_range (fun entry => some entry.1) tagged _ hlt).map Prod.snd
  have hall : (tagged.filter fun entry => (some entry.1).isSome) = tagged :=
    List.filter_eq_self.mpr fun _ _ => rfl
  have hblocks : ((List.range parts.length).flatMap fun i =>
      tagged.filter fun entry => some entry.1 == some i).map Prod.snd = parts.flatten := by
    rw [List.map_flatMap, List.flatMap]
    congr 1
    refine List.ext_getElem (by simp) fun i hi hi' => ?_
    rw [List.getElem_map, List.getElem_range, ← List.getD_eq_getElem _ [] hi']
    exact hparts i
  rwa [hall, hblocks] at hperm

end LoadHarness
