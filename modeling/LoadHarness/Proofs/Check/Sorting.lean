import LoadHarness.Check.Recorder

/-! The log of checks, sorted by virtual user.

The sort is stable, so it keeps apart what the log mixes: of every user it has the
checks in the order in which the user recorded them, and nothing else shows
(`sortByUser_congr`). -/

namespace LoadHarness

/-- The log of checks in the order of the users that recorded them, each user's own in the order in
which it did. -/
def sortByUser (log : List CheckResult) : List CheckResult :=
  log.mergeSort fun result other => result.virtualUser ≤ other.virtualUser

theorem pairwise_sortByUser (log : List CheckResult) :
    (sortByUser log).Pairwise fun result other => result.virtualUser ≤ other.virtualUser := by
  have h : (sortByUser log).Pairwise fun result other =>
      decide (result.virtualUser ≤ other.virtualUser) = true :=
    List.pairwise_mergeSort (fun a b c hab hbc => by simp only [decide_eq_true_eq] at *; omega)
      (fun a b => by simp only [Bool.or_eq_true, decide_eq_true_eq]; omega) log
  exact h.imp fun h => of_decide_eq_true h

/-- Sorting does not touch what one user has recorded. -/
theorem filter_sortByUser (log : List CheckResult) (id : Nat) :
    (sortByUser log).filter (·.virtualUser == id) = log.filter (·.virtualUser == id) := by
  have hpairwise : (log.filter (·.virtualUser == id)).Pairwise fun result other =>
      decide (result.virtualUser ≤ other.virtualUser) = true := by
    apply List.pairwise_of_forall_mem_list
    intro result hresult other hother
    have heq := beq_iff_eq.mp (List.mem_filter.mp hresult).2
    have heq' := beq_iff_eq.mp (List.mem_filter.mp hother).2
    exact decide_eq_true (Nat.le_of_eq (heq.trans heq'.symm))
  have hsublist : (log.filter (·.virtualUser == id)).Sublist (sortByUser log) :=
    List.sublist_mergeSort (fun a b c hab hbc => by simp only [decide_eq_true_eq] at *; omega)
      (fun a b => by simp only [Bool.or_eq_true, decide_eq_true_eq]; omega) hpairwise
      List.filter_sublist
  have hfilter := hsublist.filter (·.virtualUser == id)
  rw [List.filter_filter] at hfilter
  simp only [Bool.and_self] at hfilter
  refine (hfilter.eq_of_length ?_).symm
  exact ((List.mergeSort_perm log _).filter _).length_eq.symm

theorem mem_of_filter {log other : List CheckResult}
    (h : ∀ id, log.filter (·.virtualUser == id) = other.filter (·.virtualUser == id))
    {result : CheckResult} (hmem : result ∈ log) : result ∈ other := by
  have hfilter : result ∈ log.filter (·.virtualUser == result.virtualUser) :=
    List.mem_filter.mpr ⟨hmem, beq_self_eq_true _⟩
  rw [h] at hfilter
  exact (List.mem_filter.mp hfilter).1

theorem head_le_of_mem {log : List CheckResult} {head result : CheckResult}
    (hlog : (head :: log).Pairwise fun result other => result.virtualUser ≤ other.virtualUser)
    (hmem : result ∈ head :: log) : head.virtualUser ≤ result.virtualUser := by
  rcases List.mem_cons.mp hmem with rfl | hmem
  · exact Nat.le_refl _
  · exact (List.pairwise_cons.mp hlog).1 result hmem

/-- A sorted log is known by what each user has recorded. -/
theorem eq_of_pairwise_of_filter {log other : List CheckResult}
    (hlog : log.Pairwise fun result other => result.virtualUser ≤ other.virtualUser)
    (hother : other.Pairwise fun result other => result.virtualUser ≤ other.virtualUser)
    (h : ∀ id, log.filter (·.virtualUser == id) = other.filter (·.virtualUser == id)) :
    log = other := by
  induction log generalizing other with
  | nil =>
    rw [eq_comm, List.eq_nil_iff_forall_not_mem]
    intro result hmem
    exact absurd (mem_of_filter (fun id => (h id).symm) hmem) List.not_mem_nil
  | cons result log ih =>
    cases other with
    | nil => exact absurd (mem_of_filter h (List.mem_cons_self ..)) List.not_mem_nil
    | cons head other =>
      -- either head is the least of its log, so that both are of one user
      have hle := head_le_of_mem hlog
        (mem_of_filter (fun id => (h id).symm) (List.mem_cons_self ..))
      have hle' := head_le_of_mem hother (mem_of_filter h (List.mem_cons_self ..))
      have huser : result.virtualUser = head.virtualUser := Nat.le_antisymm hle hle'
      have hcons := h result.virtualUser
      rw [List.filter_cons, List.filter_cons, if_pos (beq_self_eq_true _),
        if_pos (beq_iff_eq.mpr huser.symm)] at hcons
      obtain ⟨rfl, -⟩ := List.cons.inj hcons
      congr 1
      apply ih (List.pairwise_cons.mp hlog).2 (List.pairwise_cons.mp hother).2
      intro id
      have hid := h id
      rw [List.filter_cons, List.filter_cons] at hid
      split at hid
      · exact (List.cons.inj hid).2
      · exact hid

/-- Logs in which every user has recorded the same are equal once they are sorted. -/
theorem sortByUser_congr {log other : List CheckResult}
    (h : ∀ id, log.filter (·.virtualUser == id) = other.filter (·.virtualUser == id)) :
    sortByUser log = sortByUser other := by
  apply eq_of_pairwise_of_filter (pairwise_sortByUser log) (pairwise_sortByUser other)
  intro id
  rw [filter_sortByUser, filter_sortByUser, h]

/-- Logs in which every user has recorded the same differ at most in their order. -/
theorem perm_of_filter {log other : List CheckResult}
    (h : ∀ id, log.filter (·.virtualUser == id) = other.filter (·.virtualUser == id)) :
    log.Perm other := by
  have hsorted : (sortByUser log).Perm log := List.mergeSort_perm log _
  rw [sortByUser_congr h] at hsorted
  exact hsorted.symm.trans (List.mergeSort_perm other _)

end LoadHarness
