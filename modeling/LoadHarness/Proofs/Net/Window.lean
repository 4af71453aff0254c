import LoadHarness.Proofs.Net.Connector
import LoadHarness.Proofs.Tls.Policy

/-! The versions that a client offers.

A policy is narrowed from both ends before its bounds are passed on: upwards where no
suite is left for the versions up to 1.2, downwards where none is left for 1.3.

    policy.Offers version ↔ policy.min ≤ version ≤ policy.max and policy.HasSuite version

So a version is offered exactly if it is allowed and there is something to offer for it
(`offered_window`), and an accepted policy offers some version. -/

namespace LoadHarness

namespace Tls.Policy

variable {policy : Policy} {names : NameSet} {version : Version}

/-- Whether a version lies between the bounds that are passed on. -/
def Offers (policy : Policy) (version : Version) : Prop :=
  policy.offeredMin ≤ version ∧ version ≤ policy.offeredMax

theorem offeredMin_of_any (h : policy.suites = .any) : policy.offeredMin = policy.min := by
  rw [offeredMin, if_neg fun hne => hne.1 h]

theorem offeredMax_of_any (h : policy.suites = .any) : policy.offeredMax = policy.max := by
  rw [offeredMax, if_neg fun hne => hne.1 h]

theorem ne_any_of_only (h : policy.suites = .only names) : policy.suites ≠ .any := by
  rw [h]
  exact nofun

/-- The lower bound lets a version up to 1.2 through where a suite is left for it. -/
theorem offeredMin_le_iff (h : policy.suites = .only names) :
    policy.offeredMin ≤ version ↔
      policy.min ≤ version ∧ (version ≠ .tls13 → policy.legacySuites ≠ []) := by
  unfold offeredMin
  split
  · rename_i hempty
    rw [List.isEmpty_iff] at hempty
    rw [Version.tls13_le_iff]
    constructor
    · rintro rfl
      exact ⟨Version.le_tls13 _, fun hne => absurd rfl hne⟩
    · rintro ⟨-, hlegacy⟩
      exact Classical.byContradiction fun hne => hlegacy hne hempty.2
  · rename_i hne
    refine ⟨fun hle => ⟨hle, fun _ hempty => hne ⟨ne_any_of_only h, ?_⟩⟩, And.left⟩
    rw [hempty, List.isEmpty_nil]

/-- The upper bound lets version 1.3 through where a suite is left for it. -/
theorem le_offeredMax_iff (h : policy.suites = .only names) :
    version ≤ policy.offeredMax ↔
      version ≤ policy.max ∧ (version = .tls13 → policy.tls13Suites ≠ []) := by
  unfold offeredMax
  split
  · rename_i hempty
    rw [List.isEmpty_iff] at hempty
    rw [Version.le_min_iff, Version.le_tls12_iff]
    exact and_congr_right fun _ => ⟨fun hne heq => absurd heq hne, fun hall heq =>
      hall heq hempty.2⟩
  · rename_i hne
    refine ⟨fun hle => ⟨hle, fun _ hempty => hne ⟨ne_any_of_only h, ?_⟩⟩, And.left⟩
    rw [hempty, List.isEmpty_nil]

/-- A version is offered exactly if it is allowed and has an allowed suite. -/
theorem offers_iff :
    policy.Offers version ↔
      policy.min ≤ version ∧ version ≤ policy.max ∧ policy.HasSuite version := by
  rw [Offers]
  cases hsuites : policy.suites with
  | any =>
    rw [offeredMin_of_any hsuites, offeredMax_of_any hsuites, HasSuite, hsuites, and_true]
  | only names =>
    rw [offeredMin_le_iff hsuites, le_offeredMax_iff hsuites, and_assoc]
    refine and_congr_right fun _ => ?_
    by_cases hversion : version = .tls13
    · rw [hversion, hasSuite_tls13_iff hsuites]
      simp only [ne_eq, not_true_eq_false, false_implies, true_and, true_implies]
    · rw [hasSuite_iff_legacySuites hsuites hversion]
      simp only [ne_eq, hversion, not_false_eq_true, true_implies, false_implies, and_true]
      exact and_comm

/-- Where suites are chosen, those for the versions up to 1.2 are passed on if there are any. -/
theorem cipherList_eq_none_iff (h : policy.suites = .only names) :
    policy.settings.cipherList = none ↔ policy.legacySuites = [] := by
  simp only [settings, h, List.isEmpty_iff]
  split <;> simp [*]

/-- Those for version 1.3 are passed on if there are any. -/
theorem ciphersuites_eq_none_iff :
    policy.settings.ciphersuites = none ↔ policy.tls13Suites = [] := by
  simp only [settings, List.isEmpty_iff]
  split <;> simp [*]

/-- The calls that pass a policy on, one setting after the other. -/
theorem allCalls_eq (policy : Policy) :
    policy.allCalls =
      [.builder, .minVersion policy.offeredMin, .maxVersion policy.offeredMax] ++
        policy.settings.cipherList.toList.map .cipherList ++
        policy.settings.ciphersuites.toList.map .ciphersuites ++
        if policy.insecure then [.verifyNone] else [] := by
  simp only [allCalls, calls, List.map_append, List.map_map, List.map_cons, List.map_nil]
  rfl

theorem mem_allCalls {call : Call} :
    call ∈ policy.allCalls ↔
      call = .builder ∨ call = .minVersion policy.offeredMin ∨
        call = .maxVersion policy.offeredMax ∨
        (∃ text, policy.settings.cipherList = some text ∧ call = .cipherList text) ∨
        (∃ text, policy.settings.ciphersuites = some text ∧ call = .ciphersuites text) ∨
        (policy.insecure = true ∧ call = .verifyNone) := by
  rw [allCalls_eq]
  simp only [List.mem_append, List.mem_cons, List.not_mem_nil, or_false, List.mem_map,
    Option.mem_toList, or_assoc, eq_comm, List.mem_ite_nil_right]

end Tls.Policy

namespace Net.Connector

open Tls

/-- The bounds that are passed on hold exactly the versions that are allowed and have an allowed
suite.  So a client offers no version for which the library would choose the suites itself, no
version is withheld that could be used, and for an accepted policy there is one to offer. -/
theorem offered_window (policy : Policy) :
    ∃ calls min max, Makes policy calls ∧
      (∀ version, .minVersion version ∈ calls ↔ version = min) ∧
      (∀ version, .maxVersion version ∈ calls ↔ version = max) ∧
      (∀ version, min ≤ version ∧ version ≤ max ↔
        policy.min ≤ version ∧ version ≤ policy.max ∧ policy.HasSuite version) ∧
      (∀ names, policy.suites = .only names → ∀ version, min ≤ version → version ≤ max →
        (version ≠ .tls13 → ∃ text, .cipherList text ∈ calls) ∧
          (version = .tls13 → ∃ text, .ciphersuites text ∈ calls)) ∧
      (policy.validate = .ok () → ∃ version, min ≤ version ∧ version ≤ max) := by
  refine ⟨policy.allCalls, policy.offeredMin, policy.offeredMax, makes_allCalls policy,
    fun version => by simp [Policy.mem_allCalls], fun version => by simp [Policy.mem_allCalls],
    fun version => Policy.offers_iff, ?suites, ?accepted⟩
  case suites =>
    intro names honly version hmin hmax
    have hlegacy := ((Policy.offeredMin_le_iff honly).mp hmin).2
    have htls13 := ((Policy.le_offeredMax_iff honly).mp hmax).2
    refine ⟨fun hversion => ?_, fun hversion => ?_⟩
    · have hset := mt (Policy.cipherList_eq_none_iff honly).mp (hlegacy hversion)
      obtain ⟨text, htext⟩ := Option.ne_none_iff_exists'.mp hset
      exact ⟨text, by simp [Policy.mem_allCalls, htext]⟩
    · have hset := mt Policy.ciphersuites_eq_none_iff.mp (htls13 hversion)
      obtain ⟨text, htext⟩ := Option.ne_none_iff_exists'.mp hset
      exact ⟨text, by simp [Policy.mem_allCalls, htext]⟩
  case accepted =>
    intro hvalid
    obtain ⟨version, hallowed⟩ := Policy.exists_hasSuite hvalid
    exact ⟨version, Policy.offers_iff.mpr hallowed⟩

end Net.Connector

end LoadHarness
