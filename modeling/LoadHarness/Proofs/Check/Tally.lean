import LoadHarness.Check.Recorder
import LoadHarness.Proofs.Names.Map
import Mathlib.Data.List.Induction

/-! What a log of iterations and a log of checks add up to, whatever their order.

An iteration that counts is written as the class of its failure, if it failed.

    iterationLog l   the recorder to which the iterations of `l` were given

* `iterations_iterationLog`, `get?_failed_iterationLog`, `totalFailed_iterationLog`: the three
  numbers kept about iterations are counts of `l`.
* `get?_summarize`, `sum_totals_summarize`: what is kept about checks is a count by name, and
  together these counts are the log.  The counts of two logs add up (`get?_summarize_append`).
* `summarize_of_perm`: none of this depends on the order. -/

namespace LoadHarness

/-! ## Iterations -/

/-- A recorder that was given these iterations and nothing else. -/
def iterationLog (outcomes : List (Option String)) : Recorder :=
  outcomes.foldl .recordIteration .empty

theorem iterationLog_append_singleton (outcomes : List (Option String))
    (failure : Option String) :
    iterationLog (outcomes ++ [failure]) = (iterationLog outcomes).recordIteration failure := by
  rw [iterationLog, List.foldl_append]
  rfl

theorem failed_recordIteration (recorder : Recorder) (failure : Option String) :
    (recorder.recordIteration failure).failed = match failure with
      | none => recorder.failed
      | some «class» => recorder.failed.alter «class» fun count => count.getD 0 + 1 := rfl

/-- What a map has for a count: no entry for none. -/
def positive? (count : Nat) : Option Nat := if count = 0 then none else some count

theorem getD_positive? (count : Nat) : (positive? count).getD 0 = count := by
  unfold positive?
  split
  · rename_i h
    rw [h, Option.getD_none]
  · rfl

theorem positive?_succ (count : Nat) : positive? (count + 1) = some (count + 1) :=
  if_neg (Nat.succ_ne_zero count)

theorem iterations_iterationLog (outcomes : List (Option String)) :
    (iterationLog outcomes).iterations = outcomes.length := by
  induction outcomes using List.reverseRecOn with
  | nil => rfl
  | append_singleton outcomes failure ih =>
    rw [iterationLog_append_singleton, Recorder.iterations_recordIteration, ih,
      List.length_append, List.length_singleton]

theorem get?_failed_iterationLog (outcomes : List (Option String)) («class» : String) :
    (iterationLog outcomes).failed.get? «class» = positive? (outcomes.count (some «class»)) := by
  induction outcomes using List.reverseRecOn with
  | nil => rfl
  | append_singleton outcomes failure ih =>
    rw [iterationLog_append_singleton, failed_recordIteration, List.count_append]
    cases failure with
    | none => simpa using ih
    | some other =>
      simp only [NameMap.get?_alter]
      by_cases h : «class» = other
      · subst h
        rw [if_pos rfl, ih, getD_positive?, List.count_singleton_self, positive?_succ]
      · have hne : ¬ other = «class» := fun e => h e.symm
        rw [if_neg h, ih, List.count_singleton]
        simp [hne]

theorem totalFailed_iterationLog (outcomes : List (Option String)) :
    (iterationLog outcomes).failed.values.foldr (· + ·) 0 = outcomes.countP Option.isSome := by
  induction outcomes using List.reverseRecOn with
  | nil => rfl
  | append_singleton outcomes failure ih =>
    rw [iterationLog_append_singleton, failed_recordIteration, List.countP_append]
    cases failure with
    | none => simpa using ih
    | some other =>
      have hsum := @sum_alterEntry Nat id (fun count => count.getD 0 + 1) rfl (fun _ => rfl) other
        (iterationLog outcomes).failed.entries
      simp only [NameMap.values, NameMap.alter] at hsum ih ⊢
      exact hsum.trans (congrArg (· + 1) ih)

/-! ## Checks -/

/-- How often a check has passed and failed in a log. -/
def countsOf (name : String) (log : List CheckResult) : CheckCounts :=
  ⟨log.countP fun result => result.name == name && result.passed,
    log.countP fun result => result.name == name && !result.passed⟩

theorem total_countsOf (name : String) (log : List CheckResult) :
    (countsOf name log).total = log.countP fun result => result.name == name := by
  induction log with
  | nil => rfl
  | cons result log ih =>
    simp only [countsOf, CheckCounts.total, List.countP_cons] at ih ⊢
    cases result.name == name <;> cases result.passed <;> simp <;> omega

/-- One more result counts for the check of its name. -/
theorem countsOf_append_singleton (name : String) (log : List CheckResult) (result : CheckResult) :
    countsOf name (log ++ [result]) =
      if name = result.name then (countsOf name log).add result.passed else countsOf name log := by
  simp only [countsOf, List.countP_append, List.countP_singleton]
  by_cases hname : name = result.name
  · subst hname
    cases result.passed <;> simp [CheckCounts.add]
  · have hne : (result.name == name) = false := beq_eq_false_iff_ne.mpr (Ne.symm hname)
    simp [hname, hne]

/-- The counts of two logs together. -/
instance : Add CheckCounts where
  add counts other := ⟨counts.passed + other.passed, counts.failed + other.failed⟩

theorem countsOf_append (name : String) (log other : List CheckResult) :
    countsOf name (log ++ other) = countsOf name log + countsOf name other := by
  simp only [countsOf, List.countP_append]
  rfl

/-- What a map has for the counts of a check: no entry for one that was never made. -/
def made? (counts : CheckCounts) : Option CheckCounts :=
  if counts.total = 0 then none else some counts

theorem getD_made? (counts : CheckCounts) : (made? counts).getD .zero = counts := by
  obtain ⟨passed, failed⟩ := counts
  unfold made? CheckCounts.total
  split
  · rename_i h
    obtain ⟨rfl, rfl⟩ := Nat.add_eq_zero_iff.mp h
    rfl
  · rfl

theorem made?_add (counts : CheckCounts) (passed : Bool) :
    made? (counts.add passed) = some (counts.add passed) := by
  rw [made?, if_neg]
  rw [CheckCounts.total_add]
  exact Nat.succ_ne_zero _

/-- Checks that were never made may be left out before two logs are counted together. -/
theorem made?_plus (counts other : CheckCounts) :
    made? (counts + other) = (made? counts).merge (· + ·) (made? other) := by
  have hzero {counts : CheckCounts} (h : counts.total = 0) : counts = .zero := by
    rw [← getD_made? counts, made?, if_pos h, Option.getD_none]
  have htotal : (counts + other).total = counts.total + other.total :=
    Nat.add_add_add_comm _ _ _ _
  by_cases h : counts.total = 0
  · obtain rfl := hzero h
    have hplus : CheckCounts.zero + other = other :=
      congrArg₂ CheckCounts.mk (Nat.zero_add _) (Nat.zero_add _)
    have hnone : made? .zero = none := rfl
    rw [hplus, hnone, Option.merge_none_left]
  · by_cases hother : other.total = 0
    · obtain rfl := hzero hother
      exact (Option.merge_none_right).symm
    · rw [made?, if_neg (by omega), made?, if_neg h, made?, if_neg hother, Option.merge_some_some]

theorem summarize_append_singleton (log : List CheckResult) (result : CheckResult) :
    summarize (log ++ [result]) = (summarize log).alter result.name
      fun counts => (counts.getD .zero).add result.passed := by
  rw [summarize, List.foldl_append]
  rfl

theorem get?_summarize (log : List CheckResult) (name : String) :
    (summarize log).get? name = made? (countsOf name log) := by
  induction log using List.reverseRecOn with
  | nil => rfl
  | append_singleton log result ih =>
    rw [summarize_append_singleton, NameMap.get?_alter, countsOf_append_singleton]
    split
    · rename_i hname
      rw [← hname, ih, getD_made?, made?_add]
    · exact ih

theorem getD_get?_summarize (log : List CheckResult) (name : String) :
    ((summarize log).get? name).getD .zero = countsOf name log := by
  rw [get?_summarize, getD_made?]

/-- The order of a log does not show in its counts. -/
theorem summarize_of_perm {log other : List CheckResult} (h : log.Perm other) :
    summarize log = summarize other := by
  apply NameMap.ext_get?
  intro name
  simp only [get?_summarize, countsOf, h.countP_eq]

theorem get?_summarize_append (log other : List CheckResult) (name : String) :
    (summarize (log ++ other)).get? name =
      ((summarize log).get? name).merge (· + ·) ((summarize other).get? name) := by
  simp only [get?_summarize, countsOf_append, made?_plus]

/-- Every result of a log is counted under one name. -/
theorem sum_totals_summarize (log : List CheckResult) :
    ((summarize log).values.map CheckCounts.total).foldr (· + ·) 0 = log.length := by
  induction log using List.reverseRecOn with
  | nil => rfl
  | append_singleton log result ih =>
    have hsum := @sum_alterEntry CheckCounts CheckCounts.total
      (fun counts => (counts.getD .zero).add result.passed) (CheckCounts.total_add _ _)
      (fun _ => CheckCounts.total_add _ _) result.name (summarize log).entries
    rw [NameMap.values, List.map_map] at ih ⊢
    rw [summarize_append_singleton, List.length_append, List.length_singleton, ← ih]
    exact hsum

/-- The counts of a log: a map that has exactly its names, each with the results of that name. -/
structure Tallied (log : List CheckResult) (checks : NameMap CheckCounts) : Prop where
  /-- In byte order. -/
  ascending : checks.names.Pairwise (· < ·)
  mem_names_iff : ∀ name, name ∈ checks.names ↔ ∃ result ∈ log, result.name = name
  counts : ∀ name ∈ checks.names, ∃ counts, checks.get? name = some counts ∧
    counts.passed = (log.countP fun result => result.name == name && result.passed) ∧
    counts.failed = (log.countP fun result => result.name == name && !result.passed) ∧
    1 ≤ counts.total ∧ counts.total ≤ log.length ∧ counts.passRate? ≠ none
  sum_totals : (checks.values.map CheckCounts.total).foldr (· + ·) 0 = log.length

theorem tallied_summarize (log : List CheckResult) : Tallied log (summarize log) where
  ascending := (summarize log).ascending
  mem_names_iff name := by
    rw [NameMap.mem_names_iff, get?_summarize, made?, total_countsOf]
    simp
  counts name hmem := by
    obtain ⟨counts, hget⟩ := Option.ne_none_iff_exists'.mp (NameMap.mem_names_iff.mp hmem)
    refine ⟨counts, hget, ?_⟩
    rw [get?_summarize, made?, Option.ite_none_left_eq_some] at hget
    obtain ⟨htotal, heq⟩ := hget
    have hle : (countsOf name log).total ≤ log.length := by
      rw [total_countsOf]
      exact List.countP_le_length
    obtain rfl := Option.some.inj heq
    refine ⟨rfl, rfl, Nat.one_le_iff_ne_zero.mpr htotal, hle, ?_⟩
    rw [CheckCounts.passRate?, if_neg htotal]
    exact Option.some_ne_none _
  sum_totals := sum_totals_summarize log

end LoadHarness
