import LoadHarness.Names.Set

/-! Sets of names are known by their members.

    (∀ name, name ∈ names ↔ name ∈ others) → names = others     (NameSet.ext_mem)

The members stand in ascending order, so there is one list for each set of them. -/

namespace LoadHarness.NameSet

variable {names others : NameSet}

theorem nodup_toList (names : NameSet) : names.toList.Nodup := by
  refine List.Pairwise.imp ?_ names.ascending
  rintro name _ hlt rfl
  exact String.lt_irrefl name hlt

theorem ext_mem (h : ∀ name, name ∈ names ↔ name ∈ others) : names = others := by
  have hperm : names.toList.Perm others.toList :=
    (List.perm_ext_iff_of_nodup names.nodup_toList others.nodup_toList).mpr h
  have hlist : names.toList = others.toList :=
    hperm.eq_of_pairwise (fun _ _ _ _ hlt hgt => absurd hgt (String.lt_asymm hlt))
      names.ascending others.ascending
  obtain ⟨list, hascending⟩ := names
  obtain ⟨other, hother⟩ := others
  subst hlist
  rfl

end LoadHarness.NameSet
