import LoadHarness.Proofs.Names.Map
import LoadHarness.Report.Tables
import Mathlib.Algebra.BigOperators.Ring.Finset
import Mathlib.Algebra.Order.Field.Rat
import Mathlib.Order.Bounds.Basic

/-! The rows of the table of operations, as a partition of the records.

There is a row for each name, made of the operations of that name and of no others:

    operationRows operations = names.map fun id => operationRow id (named id operations)

So the rows are known from a row (`accounts_operationRow`) and from the names, and the order in
which operations were recorded shows in the order of their times and nowhere else
(`settled_operationRows_of_perm`).  Numbers are exact here: the mean of a row is the function that
prints it, taken over the rationals. -/

namespace LoadHarness.Report

/-! ## Groups -/

/-- The operations of one name, in the order in which they were recorded. -/
def named (id : String) (operations : List Operation) : List Operation :=
  operations.filter fun operation => operation.id == id

theorem mem_named {id : String} {operations : List Operation} {operation : Operation} :
    operation ∈ named id operations ↔ operation ∈ operations ∧ operation.id = id := by
  rw [named, List.mem_filter, beq_iff_eq]

theorem named_ne_nil_iff {id : String} {operations : List Operation} :
    named id operations ≠ [] ↔ ∃ operation ∈ operations, operation.id = id := by
  rw [← List.length_pos_iff, List.length_pos_iff_exists_mem]
  exact exists_congr fun _ => mem_named

theorem groupById_cons (operation : Operation) (operations : List Operation) :
    groupById (operation :: operations) =
      (groupById operations).alter operation.id fun group => operation :: group.getD [] := rfl

theorem get?_groupById (operations : List Operation) (id : String) :
    (groupById operations).get? id =
      if named id operations = [] then none else some (named id operations) := by
  induction operations with
  | nil => rfl
  | cons operation operations ih =>
    rw [groupById_cons, NameMap.get?_alter]
    by_cases h : id = operation.id
    · have hgroup : ((groupById operations).get? operation.id).getD [] = named id operations := by
        rw [← h, ih]
        split
        · rename_i hnil
          exact hnil.symm
        · rfl
      have hcons : named id (operation :: operations) = operation :: named id operations :=
        List.filter_cons_of_pos (beq_iff_eq.mpr h.symm)
      rw [if_pos h, hgroup, hcons, if_neg (List.cons_ne_nil _ _)]
    · have hskip : named id (operation :: operations) = named id operations :=
        List.filter_cons_of_neg fun hbeq => h (beq_iff_eq.mp hbeq).symm
      rw [if_neg h, ih, hskip]

theorem mem_names_groupById {operations : List Operation} {id : String} :
    id ∈ (groupById operations).names ↔ ∃ operation ∈ operations, operation.id = id := by
  rw [NameMap.mem_names_iff, get?_groupById, ← named_ne_nil_iff]
  simp

theorem operationRows_eq (operations : List Operation) :
    operationRows operations =
      (groupById operations).names.map fun id => operationRow id (named id operations) := by
  rw [operationRows, NameMap.names, List.map_map]
  refine List.map_congr_left fun entry hmem => ?_
  have hget := NameMap.get?_of_mem_entries hmem
  rw [get?_groupById, Option.ite_none_left_eq_some] at hget
  exact congrArg (operationRow entry.1) (Option.some.inj hget.2).symm

theorem map_id_operationRows (operations : List Operation) :
    (operationRows operations).map (·.id) = (groupById operations).names := by
  rw [operationRows_eq, List.map_map]
  exact List.map_id _

/-- Every operation is in one group. -/
theorem sum_totals_operationRows (operations : List Operation) :
    ((operationRows operations).map (·.total)).sum = operations.length := by
  have hsum : ((groupById operations).entries.map fun entry => entry.2.length).sum =
      operations.length := by
    induction operations with
    | nil => rfl
    | cons operation operations ih =>
      rw [List.length_cons, ← ih]
      exact sum_alterEntry List.length rfl (fun _ => rfl) operation.id _
  rw [operationRows, List.map_map]
  exact hsum

/-! ## Times -/

theorem min?_map_of_monotone {f : Nat → Nat} (hf : Monotone f) (times : List Nat) :
    (times.map f).min? = times.min?.map f := by
  induction times with
  | nil => rfl
  | cons time times ih =>
    rw [List.map_cons, List.min?_cons, List.min?_cons, ih]
    cases times.min? with
    | none => rfl
    | some least => exact congrArg some hf.map_min.symm

theorem max?_map_of_monotone {f : Nat → Nat} (hf : Monotone f) (times : List Nat) :
    (times.map f).max? = times.max?.map f := by
  induction times with
  | nil => rfl
  | cons time times ih =>
    rw [List.map_cons, List.max?_cons, List.max?_cons, ih]
    cases times.max? with
    | none => rfl
    | some greatest => exact congrArg some hf.map_max.symm

theorem min?_eq_of_perm {times others : List Nat} (h : times.Perm others) :
    times.min? = others.min? := by
  ext time
  rw [List.min?_eq_some_iff, List.min?_eq_some_iff, h.mem_iff]
  simp only [h.mem_iff]

theorem max?_eq_of_perm {times others : List Nat} (h : times.Perm others) :
    times.max? = others.max? := by
  ext time
  rw [List.max?_eq_some_iff, List.max?_eq_some_iff, h.mem_iff]
  simp only [h.mem_iff]

/-- How long the successful operations of a name took, in nanoseconds. -/
def successTimes (id : String) (operations : List Operation) : Set Nat :=
  {nanos | ∃ operation ∈ operations,
    operation.id = id ∧ operation.failed = false ∧ operation.duration = some ⟨nanos⟩}

/-- How long the operations of a name took, successful or not, in whole microseconds. -/
def timesOf (id : String) (operations : List Operation) : List Nat :=
  operations.filterMap fun operation =>
    if operation.id = id then operation.duration.map (·.micros) else none

theorem micros_named (id : String) (operations : List Operation) :
    micros (named id operations) = timesOf id operations := by
  rw [micros, named, List.filterMap_filter, timesOf]
  simp only [beq_iff_eq]

/-- The times of the successful operations in a group, in nanoseconds. -/
def succeededNanos (group : List Operation) : List Nat :=
  (group.filter fun operation => !operation.failed).filterMap fun operation =>
    operation.duration.map (·.nanos)

theorem micros_succeeded (group : List Operation) :
    micros (group.filter fun operation => !operation.failed) =
      (succeededNanos group).map fun nanos => (Duration.mk nanos).micros := by
  rw [micros, succeededNanos, List.map_filterMap]
  simp only [Option.map_map]
  rfl

theorem mem_succeededNanos {id : String} {operations : List Operation} {nanos : Nat} :
    nanos ∈ succeededNanos (named id operations) ↔ nanos ∈ successTimes id operations := by
  simp only [succeededNanos, List.mem_filterMap, List.mem_filter, mem_named, Option.map_eq_some_iff,
    Bool.not_eq_true', successTimes, Set.mem_ofPred_eq]
  constructor
  · rintro ⟨operation, ⟨⟨hmem, hid⟩, hfailed⟩, ⟨_⟩, hduration, rfl⟩
    exact ⟨operation, hmem, hid, hfailed, hduration⟩
  · rintro ⟨operation, hmem, hid, hfailed, hduration⟩
    exact ⟨operation, ⟨⟨hmem, hid⟩, hfailed⟩, _, hduration, rfl⟩

theorem monotone_micros : Monotone fun nanos => (Duration.mk nanos).micros :=
  fun _ _ h => Nat.div_le_div_right h

/-- The mean of the times of a row, as an exact number of microseconds. -/
def OperationRow.mean (row : OperationRow) : ℚ := Report.mean 0 Nat.cast Nat.cast row.timed

theorem mean_eq (times : List Nat) :
    (mean 0 Nat.cast Nat.cast times : ℚ) =
      if times = [] then 0 else (times.sum : ℚ) / (times.length : ℚ) := by
  rw [mean, ← List.sum_eq_foldl, ← Nat.cast_list_sum]
  split
  · rename_i hnil
    rw [hnil]
    simp
  · rename_i hne
    rw [Nat.max_eq_left (List.length_pos_iff.mpr hne)]

/-! ## One row -/

/-- A row gives an account of the operations of its name. -/
structure OperationRow.Accounts (row : OperationRow) (operations : List Operation) : Prop where
  total : row.total = operations.countP fun operation => operation.id == row.id
  errors : row.errors =
    operations.countP fun operation => operation.id == row.id && operation.failed
  errors_le : row.errors ≤ row.total
  isSome_min? : row.min?.isSome = true ↔ (successTimes row.id operations).Nonempty
  isSome_max? : row.max?.isSome = true ↔ (successTimes row.id operations).Nonempty
  /-- The least time of a success, cut to whole microseconds. -/
  min? : ∀ least, row.min? = some least ↔
    ∃ nanos, IsLeast (successTimes row.id operations) nanos ∧ (Duration.mk nanos).micros = least
  /-- The greatest time of a success, cut to whole microseconds. -/
  max? : ∀ greatest, row.max? = some greatest ↔
    ∃ nanos, IsGreatest (successTimes row.id operations) nanos ∧
      (Duration.mk nanos).micros = greatest
  min_le_max : ∀ least ∈ row.min?, ∀ greatest ∈ row.max?, least ≤ greatest
  mean : row.mean =
    if timesOf row.id operations = [] then 0
    else ((timesOf row.id operations).sum : ℚ) / ((timesOf row.id operations).length : ℚ)

theorem min?_operationRow (id : String) (group : List Operation) :
    (operationRow id group).min? =
      (succeededNanos group).min?.map fun nanos => (Duration.mk nanos).micros := by
  rw [← min?_map_of_monotone monotone_micros, ← micros_succeeded]
  rfl

theorem max?_operationRow (id : String) (group : List Operation) :
    (operationRow id group).max? =
      (succeededNanos group).max?.map fun nanos => (Duration.mk nanos).micros := by
  rw [← max?_map_of_monotone monotone_micros, ← micros_succeeded]
  rfl

theorem accounts_operationRow (id : String) (operations : List Operation) :
    (operationRow id (named id operations)).Accounts operations := by
  have hleast : ∀ least, (succeededNanos (named id operations)).min? = some least ↔
      IsLeast (successTimes id operations) least := by
    intro least
    rw [List.min?_eq_some_iff]
    simp only [mem_succeededNanos]
    rfl
  have hgreatest : ∀ greatest, (succeededNanos (named id operations)).max? = some greatest ↔
      IsGreatest (successTimes id operations) greatest := by
    intro greatest
    rw [List.max?_eq_some_iff]
    simp only [mem_succeededNanos]
    rfl
  have hnonempty : succeededNanos (named id operations) ≠ [] ↔
      (successTimes id operations).Nonempty := by
    rw [← List.length_pos_iff, List.length_pos_iff_exists_mem]
    exact exists_congr fun _ => mem_succeededNanos
  have hmin : ∀ least, (operationRow id (named id operations)).min? = some least ↔
      ∃ nanos, IsLeast (successTimes id operations) nanos ∧
        (Duration.mk nanos).micros = least := by
    intro least
    simp only [min?_operationRow, Option.map_eq_some_iff, hleast]
  have hmax : ∀ greatest, (operationRow id (named id operations)).max? = some greatest ↔
      ∃ nanos, IsGreatest (successTimes id operations) nanos ∧
        (Duration.mk nanos).micros = greatest := by
    intro greatest
    simp only [max?_operationRow, Option.map_eq_some_iff, hgreatest]
  exact {
    total := List.countP_eq_length_filter.symm
    errors := by
      simp only [operationRow, named, List.countP_filter, Bool.and_comm]
    errors_le := List.countP_le_length
    isSome_min? := by
      rw [min?_operationRow, Option.isSome_map, List.isSome_min?_iff, hnonempty]
      rfl
    isSome_max? := by
      rw [max?_operationRow, Option.isSome_map, List.isSome_max?_iff, hnonempty]
      rfl
    min? := hmin
    max? := hmax
    min_le_max := by
      intro least hmem greatest hmem'
      obtain ⟨nanos, hisLeast, rfl⟩ := (hmin least).mp hmem
      obtain ⟨nanos', hisGreatest, rfl⟩ := (hmax greatest).mp hmem'
      exact monotone_micros (hisLeast.2 hisGreatest.1)
    mean := by
      rw [OperationRow.mean, mean_eq]
      exact congrArg (fun times : List Nat =>
        if times = [] then (0 : ℚ) else (times.sum : ℚ) / (times.length : ℚ))
        (micros_named id operations) }

/-! ## All rows -/

/-- A row with its times in ascending order. -/
def OperationRow.settled (row : OperationRow) : OperationRow :=
  { row with timed := row.timed.mergeSort }

theorem mergeSort_eq_of_perm {times others : List Nat} (h : times.Perm others) :
    times.mergeSort = others.mergeSort := by
  have hascending (times : List Nat) : times.mergeSort.Pairwise (· ≤ ·) := by
    refine List.Pairwise.imp of_decide_eq_true (List.pairwise_mergeSort ?_ ?_ times)
    · intro a b c hab hbc
      exact decide_eq_true (Nat.le_trans (of_decide_eq_true hab) (of_decide_eq_true hbc))
    · intro a b
      rw [Bool.or_eq_true, decide_eq_true_eq, decide_eq_true_eq]
      exact Nat.le_total a b
  have hperm : times.mergeSort.Perm others.mergeSort :=
    (List.mergeSort_perm times _).trans (h.trans (List.mergeSort_perm others _).symm)
  exact hperm.eq_of_pairwise (fun _ _ _ _ => Nat.le_antisymm) (hascending times)
    (hascending others)

theorem settled_operationRow_of_perm {group other : List Operation} (h : group.Perm other)
    (id : String) : (operationRow id group).settled = (operationRow id other).settled := by
  have hsucceeded := (h.filter fun operation => !operation.failed).filterMap fun operation =>
    operation.duration.map (·.micros)
  rw [OperationRow.settled, OperationRow.settled, OperationRow.mk.injEq]
  exact ⟨rfl, h.length_eq, h.countP_eq _, mergeSort_eq_of_perm (h.filterMap _),
    min?_eq_of_perm hsucceeded, max?_eq_of_perm hsucceeded⟩

/-- The order in which operations were recorded shows in the order of the times alone. -/
theorem settled_operationRows_of_perm {operations others : List Operation}
    (h : operations.Perm others) :
    (operationRows operations).map OperationRow.settled =
      (operationRows others).map OperationRow.settled := by
  have hnames : (groupById operations).names = (groupById others).names := by
    refine NameMap.names_eq_of_mem_iff fun id => ?_
    rw [mem_names_groupById, mem_names_groupById]
    simp only [h.mem_iff]
  rw [operationRows_eq, operationRows_eq, hnames, List.map_map, List.map_map]
  exact List.map_congr_left fun id _ => settled_operationRow_of_perm (h.filter _) id

/-- The rows part the operations by name. -/
structure Parts (operations : List Operation) (rows : List OperationRow) : Prop where
  /-- In byte order, and so each name once. -/
  ascending : (rows.map (·.id)).Pairwise (· < ·)
  mem_ids_iff : ∀ id, id ∈ rows.map (·.id) ↔ ∃ operation ∈ operations, operation.id = id
  accounts : ∀ row ∈ rows, row.Accounts operations
  sum_totals : (rows.map (·.total)).sum = operations.length

/-- There is one row for each name, with the counts and times of the operations of that name, and
but for the order of the times the rows are the same in whatever order operations were recorded. -/
theorem operations_parted (operations : List Operation) :
    Parts operations (operationRows operations) ∧
      ∀ others, operations.Perm others →
        (operationRows others).map OperationRow.settled =
          (operationRows operations).map OperationRow.settled := by
  refine ⟨?_, fun others h => (settled_operationRows_of_perm h).symm⟩
  exact {
    ascending := by
      rw [map_id_operationRows]
      exact (groupById operations).ascending
    mem_ids_iff := fun id => by
      rw [map_id_operationRows, mem_names_groupById]
    accounts := fun row hmem => by
      rw [operationRows_eq] at hmem
      obtain ⟨id, -, rfl⟩ := List.mem_map.mp hmem
      exact accounts_operationRow id operations
    sum_totals := sum_totals_operationRows operations }

namespace Sample

/-- Reads of which one has failed and one has not come to an end, and a connect that has failed. -/
def operations : List Operation := [
  ⟨"tcp_read", false, some ⟨2999⟩⟩,
  ⟨"tcp_connect", true, some ⟨500⟩⟩,
  ⟨"tcp_read", true, some ⟨1000⟩⟩,
  ⟨"tcp_read", false, some ⟨3000⟩⟩,
  ⟨"tcp_read", false, none⟩]

/-- The row of the reads.  The one that has failed is the fastest, and counts for the mean alone. -/
def reads : OperationRow := ⟨"tcp_read", 4, 1, [2, 1, 3], some 2, some 3⟩

end Sample

/-- The rows of a list and of its reverse, which have the same figures. -/
theorem operations_parted_sample :
    Sample.reads ∈ operationRows Sample.operations ∧
      Sample.reads.Accounts Sample.operations ∧ Sample.reads.mean = 2 ∧
      Sample.operations.Perm Sample.operations.reverse ∧
      (operationRows Sample.operations.reverse).map OperationRow.settled =
        (operationRows Sample.operations).map OperationRow.settled := by
  obtain ⟨hparts, hsettled⟩ := operations_parted Sample.operations
  have hmem : Sample.reads ∈ operationRows Sample.operations := by decide +kernel
  have hperm := (List.reverse_perm Sample.operations).symm
  exact ⟨hmem, hparts.accounts _ hmem, by decide +kernel, hperm, hsettled _ hperm⟩

end LoadHarness.Report
