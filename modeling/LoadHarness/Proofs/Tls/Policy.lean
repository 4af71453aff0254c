import LoadHarness.Tls.Policy

/-! What a policy allows, and when it is accepted.

Versions are in a line, so a policy is a stretch of versions and a choice of suites.
`Policy.HasSuite` says for which versions the choice leaves a suite;
`validate_eq_ok_iff` says when a policy is accepted, in terms of the names in it. -/

namespace LoadHarness.Tls

namespace Version

theorem le_tls12_iff {version : Version} : version ≤ tls12 ↔ version ≠ tls13 := by
  cases version <;> decide

theorem le_tls13 (version : Version) : version ≤ tls13 := by
  cases version <;> decide

theorem tls13_le_iff {version : Version} : tls13 ≤ version ↔ version = tls13 := by
  cases version <;> decide

theorem not_lt {a b : Version} : ¬ a < b ↔ b ≤ a := Nat.not_lt

theorem le_min_iff {a b c : Version} : a ≤ min b c ↔ a ≤ b ∧ a ≤ c := by
  have hmin : min b c = if b ≤ c then b else c := rfl
  rw [hmin]
  split <;> (rename_i h; simp only [le_def] at h ⊢; omega)

end Version

namespace Policy

variable {policy : Policy} {names : NameSet} {suite : CipherSuite}

/-- Whether a version has an allowed suite.  Versions up to 1.2 share theirs, and 1.3 has its
own. -/
def HasSuite (policy : Policy) (version : Version) : Prop :=
  match policy.suites with
  | .any => True
  | .only names => ∃ name ∈ names, ∃ suite, CipherSuite.lookup? name = some suite ∧
      (suite.tls13 = true ↔ version = .tls13)

theorem mem_knownSuites :
    suite ∈ policy.knownSuites ↔
      ∃ name ∈ policy.suites.names, CipherSuite.lookup? name = some suite :=
  List.mem_filterMap

theorem mem_legacySuites :
    suite ∈ policy.legacySuites ↔ suite ∈ policy.knownSuites ∧ suite.tls13 = false := by
  rw [legacySuites, List.mem_filter, Bool.not_eq_true']

theorem mem_tls13Suites :
    suite ∈ policy.tls13Suites ↔ suite ∈ policy.knownSuites ∧ suite.tls13 = true :=
  List.mem_filter

theorem names_of_only (h : policy.suites = .only names) : policy.suites.names = names.toList := by
  rw [h, CipherSuites.names]

theorem hasSuite_iff_knownSuites (h : policy.suites = .only names) {version : Version} :
    policy.HasSuite version ↔
      ∃ suite ∈ policy.knownSuites, suite.tls13 = true ↔ version = .tls13 := by
  rw [HasSuite, h]
  simp only [mem_knownSuites, names_of_only h]
  constructor
  · rintro ⟨name, hmem, suite, hlookup, htls13⟩
    exact ⟨suite, ⟨name, hmem, hlookup⟩, htls13⟩
  · rintro ⟨suite, ⟨name, hmem, hlookup⟩, htls13⟩
    exact ⟨name, hmem, suite, hlookup, htls13⟩

/-- Versions up to 1.2 have a suite where one is left for them. -/
theorem hasSuite_iff_legacySuites (h : policy.suites = .only names) {version : Version}
    (hversion : version ≠ .tls13) : policy.HasSuite version ↔ policy.legacySuites ≠ [] := by
  rw [hasSuite_iff_knownSuites h]
  simp only [hversion, iff_false, Bool.not_eq_true]
  constructor
  · rintro ⟨suite, hmem, htls13⟩
    exact List.ne_nil_of_mem (mem_legacySuites.mpr ⟨hmem, htls13⟩)
  · intro hne
    obtain ⟨suite, hmem⟩ := List.exists_mem_of_ne_nil _ hne
    exact ⟨suite, mem_legacySuites.mp hmem⟩

/-- Version 1.3 has a suite where one is left for it. -/
theorem hasSuite_tls13_iff (h : policy.suites = .only names) :
    policy.HasSuite .tls13 ↔ policy.tls13Suites ≠ [] := by
  rw [hasSuite_iff_knownSuites h]
  simp only [iff_true]
  constructor
  · rintro ⟨suite, hmem, htls13⟩
    exact List.ne_nil_of_mem (mem_tls13Suites.mpr ⟨hmem, htls13⟩)
  · intro hne
    obtain ⟨suite, hmem⟩ := List.exists_mem_of_ne_nil _ hne
    exact ⟨suite, mem_tls13Suites.mp hmem⟩

/-- No unknown name is found if all names are known. -/
theorem find?_unknown_eq_none_iff :
    (names.toList.find? fun name => (CipherSuite.lookup? name).isNone) = none ↔
      ∀ name ∈ names, (CipherSuite.lookup? name).isSome = true := by
  rw [List.find?_eq_none]
  refine forall₂_congr fun name _ => ?_
  rw [Bool.not_eq_true, Option.isNone_eq_false_iff]

/-- A policy is accepted if its stretch of versions is not empty and its names are known, and some
version in the stretch has one of their suites. -/
theorem validate_eq_ok_iff :
    policy.validate = .ok () ↔
      policy.min ≤ policy.max ∧ ∀ names, policy.suites = .only names →
        names.isEmpty = false ∧
          (∀ name ∈ names, (CipherSuite.lookup? name).isSome = true) ∧
          (policy.legacyUsable = true ∨ policy.tls13Usable = true) := by
  unfold validate
  split
  · rename_i hlt
    exact ⟨nofun, fun h => absurd hlt (Version.not_lt.mpr h.1)⟩
  rename_i hle
  rw [Version.not_lt] at hle
  split
  · rename_i hany
    exact ⟨fun _ => ⟨hle, fun names h => by rw [hany] at h; cases h⟩, fun _ => rfl⟩
  rename_i names honly
  have hnames : ∀ P : NameSet → Prop, (∀ other, policy.suites = .only other → P other) ↔ P names :=
    fun P => ⟨fun h => h names honly, fun h other hother => by
      rw [honly, CipherSuites.only.injEq] at hother
      exact hother ▸ h⟩
  rw [hnames]
  split
  · rename_i hempty
    exact ⟨nofun, fun h => absurd hempty (by rw [h.2.1]; exact Bool.false_ne_true)⟩
  rename_i hempty
  rw [Bool.not_eq_true] at hempty
  split
  · rename_i unknown hfind
    refine ⟨nofun, fun h => ?_⟩
    rw [find?_unknown_eq_none_iff.mpr h.2.2.1] at hfind
    cases hfind
  · rename_i hfind
    have hknown := find?_unknown_eq_none_iff.mp hfind
    rw [← Bool.or_eq_true]
    split
    · rename_i husable
      exact ⟨fun _ => ⟨hle, hempty, hknown, husable⟩, fun _ => rfl⟩
    · rename_i husable
      exact ⟨nofun, fun h => absurd h.2.2.2 husable⟩

/-- The lowest version and the highest decide whether any has a suite. -/
theorem usable_iff (h : policy.suites = .only names) (hle : policy.min ≤ policy.max) :
    (policy.legacyUsable = true ∨ policy.tls13Usable = true) ↔
      ∃ version, policy.min ≤ version ∧ version ≤ policy.max ∧ policy.HasSuite version := by
  rw [legacyUsable, tls13Usable, Bool.and_eq_true, Bool.and_eq_true, decide_eq_true_eq, beq_iff_eq,
    Bool.not_eq_true', Bool.not_eq_true', List.isEmpty_eq_false_iff, List.isEmpty_eq_false_iff]
  constructor
  · rintro (⟨hmin, hlegacy⟩ | ⟨hmax, htls13⟩)
    · refine ⟨policy.min, Nat.le_refl _, hle, ?_⟩
      exact (hasSuite_iff_legacySuites h (Version.le_tls12_iff.mp hmin)).mpr hlegacy
    · refine ⟨.tls13, Version.le_tls13 _, Version.tls13_le_iff.mpr hmax, ?_⟩
      exact (hasSuite_tls13_iff h).mpr htls13
  · rintro ⟨version, hmin, hmax, hsuite⟩
    by_cases hversion : version = .tls13
    · subst hversion
      exact .inr ⟨Version.tls13_le_iff.mp hmax, (hasSuite_tls13_iff h).mp hsuite⟩
    · refine .inl ⟨Nat.le_trans hmin (Version.le_tls12_iff.mpr hversion), ?_⟩
      exact (hasSuite_iff_legacySuites h hversion).mp hsuite

/-- An accepted policy has a version that it allows and has a suite for. -/
theorem exists_hasSuite (h : policy.validate = .ok ()) :
    ∃ version, policy.min ≤ version ∧ version ≤ policy.max ∧ policy.HasSuite version := by
  obtain ⟨hle, hnames⟩ := validate_eq_ok_iff.mp h
  cases hsuites : policy.suites with
  | any => exact ⟨policy.min, Nat.le_refl _, hle, by rw [HasSuite, hsuites]; trivial⟩
  | only names => exact (usable_iff hsuites hle).mp (hnames names hsuites).2.2

end Policy

end LoadHarness.Tls
