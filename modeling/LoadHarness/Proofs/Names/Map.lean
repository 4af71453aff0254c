import LoadHarness.Names.Map
import Mathlib.Data.List.Induction

/-! Maps from names are known by their answers.

    (∀ name, map.get? name = other.get? name) → map = other     (NameMap.ext_get?)

Entries stand in ascending order, so there is one list for each set of answers.
From this, changes that give the same answers in either order may be swapped
(`alter_alter_comm`), which is what makes a fold of changes a matter of *what*
was changed and not of *when*. -/

namespace LoadHarness

theorem lookup_eq_none_of_lt {α : Type} {name : String} {entries : List (String × α)}
    (h : ∀ entry ∈ entries, name < entry.1) : entries.lookup name = none := by
  rw [List.lookup_eq_none_iff]
  intro entry hmem
  have hne : name ≠ entry.1 := fun e => String.lt_irrefl name (e ▸ h entry hmem)
  simpa using hne

/-- Every name of an ascending list stands behind its head. -/
theorem lt_of_mem_tail {α : Type} {head : String × α} {rest : List (String × α)}
    (h : ((head :: rest).map Prod.fst).Pairwise (· < ·)) :
    ∀ entry ∈ rest, head.1 < entry.1 := by
  intro entry hmem
  rw [List.map_cons] at h
  exact (List.pairwise_cons.mp h).1 _ (List.mem_map_of_mem hmem)

/-- Every entry of an ascending list is found under its name. -/
theorem lookup_of_mem {α : Type} {entries : List (String × α)} {entry : String × α}
    (h : (entries.map Prod.fst).Pairwise (· < ·)) (hmem : entry ∈ entries) :
    entries.lookup entry.1 = some entry.2 := by
  induction entries with
  | nil => cases hmem
  | cons head rest ih =>
    rcases List.mem_cons.mp hmem with rfl | hmem
    · exact List.lookup_cons_self
    · have hlt := lt_of_mem_tail h entry hmem
      have hbeq : (entry.1 == head.1) = false :=
        beq_eq_false_iff_ne.mpr fun e => String.lt_irrefl _ (e ▸ hlt)
      rw [List.map_cons] at h
      rw [List.lookup_cons, hbeq]
      exact ih (List.pairwise_cons.mp h).2 hmem

/-- Ascending lists that answer alike begin with the same name. -/
theorem not_lt_of_lookup_eq {α : Type} {a b : String × α} {as bs : List (String × α)}
    (hb : ((b :: bs).map Prod.fst).Pairwise (· < ·))
    (h : ∀ name, (a :: as).lookup name = (b :: bs).lookup name) : ¬ a.1 < b.1 := by
  intro hlt
  have hnone : (b :: bs).lookup a.1 = none := by
    apply lookup_eq_none_of_lt
    intro entry hmem
    rcases List.mem_cons.mp hmem with rfl | hmem
    · exact hlt
    · exact String.lt_trans hlt (lt_of_mem_tail hb entry hmem)
  have := h a.1
  rw [hnone, List.lookup_cons_self] at this
  cases this

theorem eq_of_lookup_eq {α : Type} {as bs : List (String × α)}
    (ha : (as.map Prod.fst).Pairwise (· < ·)) (hb : (bs.map Prod.fst).Pairwise (· < ·))
    (h : ∀ name, as.lookup name = bs.lookup name) : as = bs := by
  induction as generalizing bs with
  | nil =>
    cases bs with
    | nil => rfl
    | cons b bs =>
      have := h b.1
      rw [List.lookup_cons_self] at this
      cases this
  | cons a as ih =>
    cases bs with
    | nil =>
      have := h a.1
      rw [List.lookup_cons_self] at this
      cases this
    | cons b bs =>
      have hkey : a.1 = b.1 := by
        have h1 := not_lt_of_lookup_eq hb h
        have h2 := not_lt_of_lookup_eq ha fun name => (h name).symm
        exact Std.le_antisymm (Std.not_lt.mp h2) (Std.not_lt.mp h1)
      have hvalue : a.2 = b.2 := by
        have := h a.1
        rw [List.lookup_cons_self, hkey, List.lookup_cons_self] at this
        exact Option.some.inj this
      have htail : as = bs := by
        rw [List.map_cons] at ha hb
        apply ih (List.pairwise_cons.mp ha).2 (List.pairwise_cons.mp hb).2
        intro name
        by_cases he : name = a.1
        · rw [lookup_eq_none_of_lt, lookup_eq_none_of_lt]
          · rw [he, hkey]
            exact lt_of_mem_tail hb
          · rw [he]
            exact lt_of_mem_tail ha
        · have hbeq : (name == a.1) = false := by simpa using he
          have := h name
          rw [List.lookup_cons, List.lookup_cons, ← hkey, hbeq] at this
          exact this
      rw [Prod.ext hkey hvalue, htail]

namespace NameMap

variable {α : Type}

theorem ext_get? {map other : NameMap α} (h : ∀ name, map.get? name = other.get? name) :
    map = other := by
  obtain ⟨entries, hasc⟩ := map
  obtain ⟨others, hasc'⟩ := other
  have : entries = others := eq_of_lookup_eq hasc hasc' h
  subst this
  rfl

theorem mem_names_iff {map : NameMap α} {name : String} :
    name ∈ map.names ↔ map.get? name ≠ none := by
  rw [get?, Ne, List.lookup_eq_none_iff, names, List.mem_map]
  simp only [bne_iff_ne, ne_eq, Classical.not_forall, Classical.not_not, exists_prop]
  exact exists_congr fun entry => and_congr_right fun _ => eq_comm

theorem get?_of_mem_entries {map : NameMap α} {entry : String × α} (h : entry ∈ map.entries) :
    map.get? entry.1 = some entry.2 :=
  lookup_of_mem map.ascending h

/-- The names of a map stand in ascending order, so there is one list for each set of them. -/
theorem names_eq_of_mem_iff {β : Type} {map : NameMap α} {other : NameMap β}
    (h : ∀ name, name ∈ map.names ↔ name ∈ other.names) : map.names = other.names := by
  have hnodup {names : List String} (hascending : names.Pairwise (· < ·)) : names.Nodup := by
    refine List.Pairwise.imp ?_ hascending
    rintro name _ hlt rfl
    exact String.lt_irrefl name hlt
  have hperm : map.names.Perm other.names :=
    (List.perm_ext_iff_of_nodup (hnodup map.ascending) (hnodup other.ascending)).mpr h
  exact hperm.eq_of_pairwise (fun _ _ _ _ hlt hgt => absurd hgt (String.lt_asymm hlt))
    map.ascending other.ascending

theorem get?_alter {map : NameMap α} {name other : String} {change : Option α → α} :
    (map.alter name change).get? other =
      if other = name then some (change (map.get? name)) else map.get? other := by
  split
  · rename_i h
    rw [h, get?_alter_self]
  · rename_i h
    exact get?_alter_of_ne h

/-- A map of a list answers with the last entry of the list under that name. -/
theorem get?_ofList (list : List (String × α)) (name : String) :
    (ofList list).get? name = list.reverse.lookup name := by
  induction list using List.reverseRecOn with
  | nil => rfl
  | append_singleton list entry ih =>
    unfold ofList at ih ⊢
    rw [List.foldl_append, List.reverse_concat, List.lookup_cons]
    show ((list.foldl _ empty).insert entry.1 entry.2).get? name = _
    rw [insert, get?_alter, ih]
    by_cases h : name = entry.1
    · rw [if_pos h, beq_iff_eq.mpr h]
    · rw [if_neg h, beq_eq_false_iff_ne.mpr h]

/-- An entry that may be left out answers under its name alone. -/
theorem lookup_optional (value : Option α) (name other : String) :
    (value.toList.map fun value => (name, value)).reverse.lookup other =
      if other = name then value else none := by
  cases value with
  | none => simp
  | some value =>
    by_cases h : other = name
    · simp [h]
    · simp [h, List.lookup_cons, beq_eq_false_iff_ne.mpr h]

/-- Changes of two entries may be swapped, and changes of one entry if they commute. -/
theorem alter_alter_comm {map : NameMap α} {a b : String} {f g : Option α → α}
    (h : a = b → ∀ value, g (some (f value)) = f (some (g value))) :
    (map.alter a f).alter b g = (map.alter b g).alter a f := by
  apply ext_get?
  intro name
  simp only [get?_alter]
  by_cases ha : name = a
  · by_cases hb : name = b
    · subst ha
      subst hb
      simp only [if_true]
      rw [h rfl]
    · subst ha
      simp only [if_true, if_neg hb]
  · by_cases hb : name = b
    · subst hb
      simp only [if_true, if_neg ha]
    · simp only [if_neg ha, if_neg hb]

end NameMap

/-- Adding one to the weight of an entry adds one to the weight of all. -/
theorem sum_alterEntry {α : Type} (weight : α → Nat) {change : Option α → α}
    (hnone : weight (change none) = 1) (hsome : ∀ a, weight (change (some a)) = weight a + 1)
    (name : String) (entries : List (String × α)) :
    ((alterEntry name change entries).map fun entry => weight entry.2).foldr (· + ·) 0 =
      (entries.map fun entry => weight entry.2).foldr (· + ·) 0 + 1 := by
  induction entries with
  | nil => simp [alterEntry, hnone]
  | cons head rest ih =>
    unfold alterEntry
    split
    · simp only [List.map_cons, List.foldr_cons, hnone]
      omega
    · split
      · simp only [List.map_cons, List.foldr_cons, hsome]
        omega
      · simp only [List.map_cons, List.foldr_cons, ih]
        omega

end LoadHarness
