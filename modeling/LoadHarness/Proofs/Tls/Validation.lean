import LoadHarness.Proofs.Faults
import LoadHarness.Proofs.Net.Suites
import Mathlib.Order.Bounds.Defs

/-! Which policies are accepted, and what is wrong with the others.

A policy is accepted if and only if some handshake can be offered under it: a version within
its bounds has a suite (`HasSuite`).  The check looks at the lowest version alone for the
suites up to 1.2 and at the highest alone for those of 1.3.  That is enough, since the first
share theirs and the bounds are in order (`usable_iff`).

The names of an accepted choice fall into those two kinds (`parted_of_known`). -/

namespace LoadHarness.Tls.Policy

variable {policy : Policy} {names : NameSet} {name : String}

/-! ## The faults of a policy -/

/-- The names of an explicit choice that no known suite has. -/
def unknownNames (policy : Policy) : Set String :=
  { name | name ∈ policy.suites.names ∧ CipherSuite.lookup? name = none }

/-- What can be wrong with a policy, in the order in which it is looked for. -/
def faults (policy : Policy) : List (PolicyError → Prop) := [
  fun e => policy.max < policy.min ∧ e = .invertedVersions policy.min policy.max,
  fun e => policy.suites = .only ∅ ∧ e = .emptyCipherSuites,
  fun e => ∃ name, IsLeast policy.unknownNames name ∧ e = .unknownCipherSuite name,
  fun e => (¬ ∃ version, policy.min ≤ version ∧ version ≤ policy.max ∧ policy.HasSuite version) ∧
    e = .noUsableCipherSuite policy.min policy.max]

theorem mem_unknownNames (h : policy.suites = .only names) :
    name ∈ policy.unknownNames ↔ name ∈ names ∧ CipherSuite.lookup? name = none := by
  rw [unknownNames, names_of_only h]
  rfl

/-- Names are looked up in their order, so the first that is not known is the least. -/
theorem find?_unknown_eq_some_iff (h : policy.suites = .only names) :
    (names.toList.find? fun name => (CipherSuite.lookup? name).isNone) = some name ↔
      IsLeast policy.unknownNames name := by
  rw [List.find?_eq_some_iff_append, Option.isNone_iff_eq_none]
  constructor
  · rintro ⟨hunknown, before, after, hsplit, hbefore⟩
    have hascending := names.ascending
    rw [hsplit, List.pairwise_append, List.pairwise_cons] at hascending
    have hmem : name ∈ names := by
      rw [NameSet.mem_def, hsplit]
      exact List.mem_append_right _ List.mem_cons_self
    refine ⟨(mem_unknownNames h).mpr ⟨hmem, hunknown⟩, fun other hother => ?_⟩
    obtain ⟨hother, hlookup⟩ := (mem_unknownNames h).mp hother
    rw [NameSet.mem_def, hsplit, List.mem_append, List.mem_cons] at hother
    rcases hother with hother | rfl | hother
    · have hknown := hbefore other hother
      rw [hlookup] at hknown
      cases hknown
    · exact Std.le_refl _
    · exact Std.le_of_lt (hascending.2.1.1 other hother)
  · rintro ⟨hmem, hleast⟩
    obtain ⟨hmem, hunknown⟩ := (mem_unknownNames h).mp hmem
    obtain ⟨before, after, hsplit⟩ := List.append_of_mem hmem
    have hascending := names.ascending
    rw [hsplit, List.pairwise_append] at hascending
    refine ⟨hunknown, before, after, hsplit, fun other hother => ?_⟩
    rw [Bool.not_eq_true', Option.isNone_eq_false_iff, Option.isSome_iff_ne_none]
    intro hlookup
    have hmem : other ∈ names := by
      rw [NameSet.mem_def, hsplit]
      exact List.mem_append_left _ hother
    have hlt := hascending.2.2 other hother name List.mem_cons_self
    exact Std.not_lt.mpr (hleast ((mem_unknownNames h).mpr ⟨hmem, hlookup⟩)) hlt

theorem suites_eq_empty_iff (h : policy.suites = .only names) :
    policy.suites = .only ∅ ↔ names.isEmpty = true := by
  rw [h, CipherSuites.only.injEq, NameSet.isEmpty, List.isEmpty_iff]
  constructor
  · rintro rfl
    rfl
  · intro hnil
    obtain ⟨list, hascending⟩ := names
    subst hnil
    rfl

/-- The check reports the first of the faults. -/
theorem reports_validate (policy : Policy) : Reports policy.faults policy.validate := by
  unfold validate faults
  refine .ite Iff.rfl fun hle => ?_
  rw [Version.not_lt] at hle
  cases hsuites : policy.suites with
  | any =>
    have hversion : ∃ version, policy.min ≤ version ∧ version ≤ policy.max ∧
        policy.HasSuite version :=
      ⟨policy.min, Nat.le_refl _, hle, by rw [HasSuite, hsuites]; trivial⟩
    refine .past ?_ (.past ?_ (.past (fun _ h => h.1 hversion) (reports_ok faultless_nil)))
    · rintro e ⟨⟨⟩, -⟩
    · rintro e ⟨name, ⟨hmem, -⟩, -⟩
      rw [unknownNames, hsuites] at hmem
      exact absurd hmem.1 List.not_mem_nil
  | only names =>
    have hempty := suites_eq_empty_iff hsuites
    rw [hsuites] at hempty
    refine .ite hempty fun _ => ?_
    split
    · rename_i name hfind
      refine .here ⟨name, (find?_unknown_eq_some_iff hsuites).mp hfind, rfl⟩ ?_
      rintro e ⟨other, hleast, rfl⟩
      rw [(find?_unknown_eq_some_iff hsuites).mpr hleast, Option.some.injEq] at hfind
      rw [hfind]
    rename_i hfind
    refine .past ?_ ?_
    · rintro e ⟨name, hleast, -⟩
      rw [(find?_unknown_eq_some_iff hsuites).mpr hleast] at hfind
      cases hfind
    have husable := usable_iff hsuites hle
    rw [← Bool.or_eq_true] at husable
    split
    · rename_i h
      exact .past (fun _ hfault => hfault.1 (husable.mp h)) (reports_ok faultless_nil)
    · rename_i h
      exact .here ⟨mt husable.mpr h, rfl⟩ fun _ h => h.2

/-! ## The two parts of a choice -/

/-- An explicit choice of suites in two parts, by the versions that they belong to. -/
structure Parted (policy : Policy) (names : NameSet) : Prop where
  /-- Each chosen name stands once, in one part or in the other. -/
  whole : ((policy.legacySuites ++ policy.tls13Suites).map (·.name)).Perm names.toList
  disjoint : ∀ suite ∈ policy.legacySuites, ∀ other ∈ policy.tls13Suites, suite.name ≠ other.name
  known : ∀ suite ∈ policy.legacySuites ++ policy.tls13Suites,
    CipherSuite.lookup? suite.name = some suite
  legacy : ∀ suite ∈ policy.legacySuites, suite.tls13 = false
  tls13 : ∀ suite ∈ policy.tls13Suites, suite.tls13 = true
  ascending : (policy.legacySuites.map (·.name)).Pairwise (· < ·) ∧
    (policy.tls13Suites.map (·.name)).Pairwise (· < ·)

theorem lookup?_name_of_mem_knownSuites {suite : CipherSuite} (h : suite ∈ policy.knownSuites) :
    CipherSuite.lookup? suite.name = some suite := by
  obtain ⟨name, -, hlookup⟩ := mem_knownSuites.mp h
  rw [CipherSuite.name_of_lookup? hlookup, hlookup]

theorem parted_of_known (h : policy.suites = .only names)
    (hknown : ∀ name ∈ names, (CipherSuite.lookup? name).isSome = true) :
    policy.Parted names where
  whole := by
    rw [List.map_append, map_name_legacySuites h, map_name_tls13Suites h]
    exact perm_legacyNames_append hknown
  disjoint suite hmem other hother hname := by
    obtain ⟨hmem, hlegacy⟩ := mem_legacySuites.mp hmem
    obtain ⟨hother, htls13⟩ := mem_tls13Suites.mp hother
    have hlookup := lookup?_name_of_mem_knownSuites hmem
    rw [hname, lookup?_name_of_mem_knownSuites hother, Option.some.injEq] at hlookup
    rw [← hlookup, htls13] at hlegacy
    cases hlegacy
  known suite hmem := by
    rcases List.mem_append.mp hmem with hmem | hmem
    · exact lookup?_name_of_mem_knownSuites (mem_legacySuites.mp hmem).1
    · exact lookup?_name_of_mem_knownSuites (mem_tls13Suites.mp hmem).1
  legacy _ hmem := (mem_legacySuites.mp hmem).2
  tls13 _ hmem := (mem_tls13Suites.mp hmem).2
  ascending := by
    rw [map_name_legacySuites h, map_name_tls13Suites h]
    exact ⟨names.ascending.filter _, names.ascending.filter _⟩

/-! ## Accepted policies -/

/-- A policy is accepted if and only if some version within its bounds has a suite, all names being
known.  Otherwise the first of its faults is reported.  An accepted choice falls into the suites for
the versions up to 1.2 and those for 1.3, each part in byte order. -/
theorem policy_validated (policy : Policy) :
    (policy.validate = .ok () ↔
      policy.min ≤ policy.max ∧
        (policy.suites = .any ∨ ∃ names, policy.suites = .only names ∧ (∃ name, name ∈ names) ∧
          (∀ name ∈ names, (CipherSuite.lookup? name).isSome = true) ∧
          ∃ version, policy.min ≤ version ∧ version ≤ policy.max ∧
            ∃ name ∈ names, ∃ suite, CipherSuite.lookup? name = some suite ∧
              (suite.tls13 = true ↔ version = .tls13))) ∧
    (∀ e, policy.validate = .error e ↔ First policy.faults e) ∧
    ∀ names, policy.suites = .only names → policy.validate = .ok () → policy.Parted names := by
  refine ⟨?_, reports_validate policy, fun names h hvalid =>
    parted_of_known h ((validate_eq_ok_iff.mp hvalid).2 names h).2.1⟩
  rw [validate_eq_ok_iff]
  refine and_congr_right fun hle => ?_
  cases hsuites : policy.suites with
  | any => simp
  | only names =>
    have hnonempty : names.isEmpty = false ↔ ∃ name, name ∈ names := by
      rw [NameSet.isEmpty, List.isEmpty_eq_false_iff_exists_mem]
      rfl
    simp only [reduceCtorEq, false_or, CipherSuites.only.injEq, forall_eq', exists_eq_left',
      hnonempty, usable_iff hsuites hle, HasSuite, hsuites]

namespace Sample

/-- A suite for the versions up to 1.2 and one for 1.3. -/
def mixed : NameSet := .ofList ["TLS_RSA_WITH_AES_128_CBC_SHA", "TLS_AES_128_GCM_SHA256"]

end Sample

/-- One suite for 1.3 is enough where there is no other version.  Of two names that are not known
the first in byte order is reported, and not that neither leaves anything to offer. -/
theorem policy_validated_sample :
    (Policy.mk .tls13 .tls13 (.only Sample.mixed) false).Parted Sample.mixed ∧
    First (Policy.mk .tls13 .tls13 (.only (.ofList ["weak", "legacy"])) false).faults
      (.unknownCipherSuite "legacy") := by
  obtain ⟨-, -, hparted⟩ := policy_validated ⟨.tls13, .tls13, .only Sample.mixed, false⟩
  obtain ⟨-, herror, -⟩ :=
    policy_validated ⟨.tls13, .tls13, .only (.ofList ["weak", "legacy"]), false⟩
  exact ⟨hparted _ rfl rfl, (herror _).mp rfl⟩

end LoadHarness.Tls.Policy
