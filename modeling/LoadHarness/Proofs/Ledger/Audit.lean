import LoadHarness.Ledger.Audit
import LoadHarness.Proofs.Histories
import Mathlib.Algebra.Group.Nat.Even
import Mathlib.Data.List.Induction
import Mathlib.Data.Set.Card

/-! What a count of the open connections is worth when its two readings are taken apart.

The closed connections are read first, and the opened ones later.  What is opened is closed or alive
(`closed_add_ncard_alive`), so the difference of the two readings is what was alive at the first one
and all that was opened since:

    opened = closed + (alive at the first reading + opened since)     (Counting.opened_eq)

What is alive at a moment between the readings is part of that, so no connection is overlooked
(`open_count_covers`).  A token is alive by what was done with it, and not by what the books hold
(`mem_live_after_iff`). -/

namespace LoadHarness.Audit

/-- What a step answers after others. -/
def answerAfter (steps : List Step) (step : Step) : Answer := ((start.after steps).step step).2

/-- A token was handed out in the course of the steps, and was not dropped since. -/
def Alive (steps : List Step) (token : Nat) : Prop :=
  ∃ before later, steps = before ++ .track :: later ∧
    answerAfter before .track = .tracked token ∧ .drop token ∉ later

/-- The tokens that are alive after some steps. -/
def alive (steps : List Step) : Set Nat := {token | Alive steps token}

variable {audit : Audit} {step : Step} {steps before between : List Step} {reader token : Nat}

theorem after_concat (audit : Audit) (steps : List Step) (step : Step) :
    audit.after (steps ++ [step]) = ((audit.after steps).step step).1 :=
  after_append audit steps [step]

/-! ## The counts -/

theorem opened_step :
    (audit.step step).1.ledger.opened = audit.ledger.opened + [step].count .track := by
  cases step with
  | track => rfl
  | drop => rfl
  | read => rw [ledger_read]; rfl

/-- The books count the connections that were opened. -/
theorem opened_after (audit : Audit) (steps : List Step) :
    (audit.after steps).ledger.opened = audit.ledger.opened + steps.count .track := by
  induction steps generalizing audit with
  | nil => rfl
  | cons step rest ih =>
    rw [after_cons, ih, opened_step, Nat.add_assoc, ← List.count_append, List.singleton_append]

theorem opened_after_start (steps : List Step) :
    (start.after steps).ledger.opened = steps.count .track := by
  rw [opened_after]
  exact Nat.zero_add _

theorem count_track_cons_read (reader : Nat) (steps : List Step) :
    (.read reader :: steps).count .track = steps.count .track :=
  List.count_cons_of_ne (by simp)

theorem closed_le_step : audit.ledger.closed ≤ (audit.step step).1.ledger.closed := by
  cases step with
  | track => exact Nat.le_refl _
  | drop => exact Nat.le_add_right _ _
  | read => rw [ledger_read]

/-- What is closed stays closed. -/
theorem closed_le_after (audit : Audit) (steps : List Step) :
    audit.ledger.closed ≤ (audit.after steps).ledger.closed := by
  induction steps generalizing audit with
  | nil => exact Nat.le_refl _
  | cons step rest ih => exact closed_le_step.trans (ih _)

theorem balanced_step (h : audit.ledger.Balanced) : (audit.step step).1.ledger.Balanced := by
  cases step with
  | track => exact h.open _
  | drop => exact h.closeWhere _
  | read => rwa [ledger_read]

theorem balanced_after (steps : List Step) : (start.after steps).ledger.Balanced := by
  induction steps using List.reverseRecOn with
  | nil => exact Ledger.balanced_empty
  | append_singleton steps step ih =>
    rw [after_concat]
    exact balanced_step ih

/-! ## The tokens that are alive -/

/-- A step opens its own connection, and of the open ones it leaves all but the one it drops. -/
theorem mem_live_step_iff :
    token ∈ (audit.step step).1.ledger.live ↔
      step = .track ∧ audit.ledger.opened = token ∨
        token ∈ audit.ledger.live ∧ step ≠ .drop token := by
  cases step with
  | track =>
    have hopen : token ∈ audit.ledger.live ++ [audit.ledger.opened] ↔
        token ∈ audit.ledger.live ∨ audit.ledger.opened = token := by
      rw [List.mem_append, List.mem_singleton, eq_comm]
    simp only [true_and, ne_eq, reduceCtorEq, not_false_eq_true, and_true]
    exact hopen.trans or_comm
  | drop dropped =>
    have hclose : token ∈ audit.ledger.live.filter (fun other => !other == dropped) ↔
        token ∈ audit.ledger.live ∧ dropped ≠ token := by
      simp [List.mem_filter, ne_comm]
    simp only [reduceCtorEq, false_and, false_or, ne_eq, Step.drop.injEq]
    exact hclose
  | read => simp

theorem alive_concat_iff :
    Alive (steps ++ [step]) token ↔
      step = .track ∧ answerAfter steps .track = .tracked token ∨
        Alive steps token ∧ step ≠ .drop token := by
  constructor
  · rintro ⟨before, later, hsplit, hanswer, hkept⟩
    rcases concat_eq_append_cons_iff.mp hsplit with ⟨rfl, rfl, rfl⟩ | ⟨rest, rfl, rfl⟩
    · exact .inl ⟨rfl, hanswer⟩
    · simp only [List.mem_append, List.mem_singleton, not_or] at hkept
      exact .inr ⟨⟨before, rest, rfl, hanswer, hkept.1⟩, Ne.symm hkept.2⟩
  · rintro (⟨rfl, hanswer⟩ | ⟨⟨before, later, rfl, hanswer, hkept⟩, hstep⟩)
    · exact ⟨steps, [], rfl, hanswer, List.not_mem_nil⟩
    · refine ⟨before, later ++ [step], by simp, hanswer, ?_⟩
      simp only [List.mem_append, List.mem_singleton, not_or]
      exact ⟨hkept, Ne.symm hstep⟩

theorem not_alive_nil : ¬ Alive [] token := by
  rintro ⟨before, later, hsplit, -⟩
  simp at hsplit

/-- The books hold the tokens that are alive. -/
theorem mem_live_after_iff : token ∈ (start.after steps).ledger.live ↔ Alive steps token := by
  induction steps using List.reverseRecOn with
  | nil => exact iff_of_false List.not_mem_nil not_alive_nil
  | append_singleton steps step ih =>
    rw [after_concat, mem_live_step_iff, alive_concat_iff, ih]
    simp [answerAfter, Audit.step]

/-- Tokens are numbered in the order in which they are handed out. -/
theorem Alive.lt_opened (h : Alive steps token) : token < (start.after steps).ledger.opened := by
  obtain ⟨before, later, rfl, hanswer, -⟩ := h
  obtain rfl : (start.after before).ledger.opened = token := Answer.tracked.inj hanswer
  rw [after_append, opened_after (start.after before), List.count_cons_self]
  exact Nat.lt_add_of_pos_right (Nat.succ_pos _)

/-- No token is held twice. -/
theorem nodup_live_after (steps : List Step) : (start.after steps).ledger.live.Nodup := by
  induction steps using List.reverseRecOn with
  | nil => exact List.nodup_nil
  | append_singleton steps step ih =>
    rw [after_concat]
    cases step with
    | track =>
      refine List.nodup_append.mpr ⟨ih, List.nodup_singleton _, ?_⟩
      rintro token hmem fresh hfresh rfl
      obtain rfl := List.mem_singleton.mp hfresh
      exact Nat.lt_irrefl _ (mem_live_after_iff.mp hmem).lt_opened
    | drop => exact ih.filter _
    | read => rwa [ledger_read]

theorem ncard_alive (steps : List Step) :
    (alive steps).ncard = (start.after steps).ledger.live.length := by
  have hset : alive steps = ((start.after steps).ledger.live.toFinset : Set Nat) := by
    ext token
    rw [List.coe_toFinset]
    exact mem_live_after_iff.symm
  rw [hset, Set.ncard_coe_finset, List.toFinset_card_of_nodup (nodup_live_after steps)]

/-- The connections that were opened are closed or alive. -/
theorem closed_add_ncard_alive (steps : List Step) :
    (start.after steps).ledger.closed + (alive steps).ncard = steps.count .track := by
  have hbalanced := balanced_after steps
  rw [Ledger.Balanced, opened_after_start] at hbalanced
  rw [ncard_alive, ← hbalanced]

/-- No more are alive later than are alive now and are opened until then. -/
theorem ncard_alive_append_le (steps later : List Step) :
    (alive (steps ++ later)).ncard ≤ (alive steps).ncard + later.count .track := by
  have hnow := closed_add_ncard_alive steps
  have hthen := closed_add_ncard_alive (steps ++ later)
  have hclosed := closed_le_after (start.after steps) later
  rw [← after_append] at hclosed
  rw [List.count_append] at hthen
  omega

/-- To have read the books makes no difference to what is alive. -/
theorem alive_append_of_reads {later : List Step} (h : ∀ step ∈ later, ∃ other, step = .read other)
    (steps : List Step) : alive (steps ++ later) = alive steps := by
  have hledger : ∀ audit : Audit, (audit.after later).ledger = audit.ledger := by
    induction later with
    | nil => exact fun _ => rfl
    | cons step rest ih =>
      obtain ⟨⟨other, rfl⟩, hrest⟩ := List.forall_mem_cons.mp h
      intro audit
      rw [after_cons, ih hrest, ledger_read]
  ext token
  calc token ∈ alive (steps ++ later)
      ↔ token ∈ (start.after (steps ++ later)).ledger.live := mem_live_after_iff.symm
    _ ↔ token ∈ (start.after steps).ledger.live := by rw [after_append, hledger]
    _ ↔ token ∈ alive steps := mem_live_after_iff

/-! ## The two readings -/

/-- A reader took the first of its two readings between these steps, and has not read since. -/
structure Counting (reader : Nat) (steps before between : List Step) : Prop where
  split : steps = before ++ .read reader :: between
  idle : Even (before.count (.read reader))
  waiting : .read reader ∉ between

theorem noted_step_of_ne (h : step ≠ .read reader) :
    (audit.step step).1.noted reader = audit.noted reader := by
  cases step with
  | track => rfl
  | drop => rfl
  | read other =>
    have hother : reader ≠ other := fun heq => h (congrArg Step.read heq.symm)
    rw [Audit.step]
    split <;> exact if_neg hother

theorem noted_step_self :
    (audit.step (.read reader)).1.noted reader =
      if audit.noted reader = none then some audit.ledger.closed else none := by
  rw [Audit.step]
  split <;> rename_i hnoted <;> rw [hnoted] <;> exact if_pos rfl

theorem noted_after_of_notMem (h : .read reader ∉ steps) (audit : Audit) :
    (audit.after steps).noted reader = audit.noted reader := by
  induction steps generalizing audit with
  | nil => rfl
  | cons step rest ih =>
    obtain ⟨hstep, hrest⟩ := List.ne_and_not_mem_of_not_mem_cons h
    rw [after_cons, ih hrest, noted_step_of_ne (Ne.symm hstep)]

/-- A reader that has read an even number of times has no reading to set another against. -/
theorem noted_after_eq_none_iff :
    (start.after steps).noted reader = none ↔ Even (steps.count (.read reader)) := by
  induction steps using List.reverseRecOn with
  | nil => exact iff_of_true rfl Even.zero
  | append_singleton steps step ih =>
    rw [after_concat, List.count_append]
    by_cases hstep : step = .read reader
    · subst hstep
      rw [noted_step_self, List.count_singleton_self, Nat.even_add_one, ← ih]
      split <;> simp_all
    · rw [noted_step_of_ne hstep, List.count_singleton, if_neg (by simpa using hstep), ih]
      rfl

/-- The first reading is the one before the last of an odd number. -/
theorem exists_counting (h : ¬ Even (steps.count (.read reader))) :
    ∃ before between, Counting reader steps before between := by
  induction steps using List.reverseRecOn with
  | nil => exact absurd Even.zero h
  | append_singleton steps step ih =>
    by_cases hstep : step = .read reader
    · subst hstep
      rw [List.count_append, List.count_singleton_self, Nat.even_add_one, not_not] at h
      exact ⟨steps, [], rfl, h, List.not_mem_nil⟩
    · rw [List.count_append, List.count_singleton, if_neg (by simpa using hstep)] at h
      obtain ⟨before, between, rfl, hidle, hwaiting⟩ := ih h
      refine ⟨before, between ++ [step], by simp, hidle, ?_⟩
      simp only [List.mem_append, List.mem_singleton, not_or]
      exact ⟨hwaiting, Ne.symm hstep⟩

theorem not_even_of_counted {number : Nat}
    (h : answerAfter steps (.read reader) = .counted number) :
    ¬ Even (steps.count (.read reader)) := by
  rw [← noted_after_eq_none_iff]
  intro hnone
  rw [answerAfter, Audit.step, hnone] at h
  cases h

theorem Counting.noted (h : Counting reader steps before between) :
    (start.after steps).noted reader = some (start.after before).ledger.closed := by
  rw [h.split, after_append, after_cons, noted_after_of_notMem h.waiting, noted_step_self,
    if_pos (noted_after_eq_none_iff.mpr h.idle)]

theorem Counting.answer (h : Counting reader steps before between) :
    answerAfter steps (.read reader) =
      .counted (Ledger.openCount (start.after steps).ledger.opened
        (start.after before).ledger.closed) := by
  rw [answerAfter, Audit.step, h.noted]

theorem Counting.opened (h : Counting reader steps before between) :
    (start.after steps).ledger.opened = before.count .track + between.count .track := by
  rw [opened_after_start, h.split, List.count_append, count_track_cons_read]

/-- What is read as closed was opened, and the rest of what is read as opened was alive at the
first reading or has been opened since. -/
theorem Counting.opened_eq (h : Counting reader steps before between) :
    (start.after steps).ledger.opened = (start.after before).ledger.closed +
      ((alive before).ncard + between.count .track) := by
  rw [h.opened, ← closed_add_ncard_alive before, Nat.add_assoc]

/-- No more are alive at a moment between the readings. -/
theorem ncard_alive_between_le {early late : List Step} (hsplit : between = early ++ late) :
    (alive (before ++ .read reader :: early)).ncard ≤
      (alive before).ncard + between.count .track := by
  have hearly := ncard_alive_append_le before (.read reader :: early)
  rw [count_track_cons_read] at hearly
  rw [hsplit, List.count_append]
  omega

/-- With nothing but readings between the two, nothing is opened, closed or counted twice. -/
theorem Counting.eq_ncard_alive (h : Counting reader steps before between)
    (hreads : ∀ step ∈ between, ∃ other, step = .read other) :
    (alive before).ncard + between.count .track = (alive steps).ncard := by
  have hall : ∀ step ∈ .read reader :: between, ∃ other, step = .read other :=
    List.forall_mem_cons.mpr ⟨⟨reader, rfl⟩, hreads⟩
  have hnone : between.count .track = 0 := by
    refine List.count_eq_zero.mpr fun hmem => ?_
    obtain ⟨other, heq⟩ := hreads _ hmem
    cases heq
  rw [hnone, h.split, alive_append_of_reads hall, Nat.add_zero]

/-- Whatever others do between the two readings of a reader, it comes to a count.  The closed
connections that it has read are no more than the opened ones, so that nothing is cut off from
their difference, and at no moment between the readings are more tokens alive than are counted.
With no entry between the readings the count is the number of tokens alive. -/
theorem open_count_covers (steps : List Step) (reader : Nat) :
    (∀ number, answerAfter steps (.read reader) = .counted number →
      ∃ before between, Counting reader steps before between) ∧
    ∀ before between, Counting reader steps before between →
      ∃ number, answerAfter steps (.read reader) = .counted number ∧
        (start.after before).ledger.closed ≤ (start.after steps).ledger.opened ∧
        (start.after before).ledger.closed + number = (start.after steps).ledger.opened ∧
        number = (alive before).ncard + between.count .track ∧
        (∀ early late, between = early ++ late →
          (alive (before ++ .read reader :: early)).ncard ≤ number) ∧
        ((∀ step ∈ between, ∃ other, step = .read other) → number = (alive steps).ncard) := by
  refine ⟨fun number hcounted => exists_counting (not_even_of_counted hcounted), ?_⟩
  intro before between hcounting
  -- what was read as closed is part of what was opened, so it can be taken from both sides
  have hopened := hcounting.opened_eq
  have hanswer := hcounting.answer
  rw [hopened, Ledger.openCount, Nat.add_sub_cancel_left] at hanswer
  exact ⟨_, hanswer, hopened ▸ Nat.le_add_right _ _, hopened.symm, rfl,
    fun early late => ncard_alive_between_le, hcounting.eq_ncard_alive⟩

namespace Sample

/-- One of two connections is closed before the first reading. -/
def untilReading : List Step := [.track, .track, .drop 0]

/-- Until the second reading, one more is opened and closed, as is the one that was open, and
another reader comes and goes. -/
def untilCounted : List Step := [.read 3, .track, .drop 1, .read 3, .drop 2, .track]

end Sample

/-- At no moment are more than two connections open, and three are counted: the one that was open,
the one that passed and the one that was opened last. -/
theorem open_count_covers_passing :
    Counting 7 (Sample.untilReading ++ .read 7 :: Sample.untilCounted) Sample.untilReading
        Sample.untilCounted ∧
      answerAfter (Sample.untilReading ++ .read 7 :: Sample.untilCounted) (.read 7) =
        .counted 3 ∧
      (alive (Sample.untilReading ++ [.read 7, .read 3, .track])).ncard = 2 ∧
      (alive (Sample.untilReading ++ [.read 7, .read 3, .track])).ncard ≤ 3 ∧
      Counting 7 [.track, .read 7, .read 3] [.track] [.read 3] ∧
      answerAfter [.track, .read 7, .read 3] (.read 7) = .counted 1 ∧
      (alive [.track, .read 7, .read 3]).ncard = 1 := by
  have hpassing : Counting 7 (Sample.untilReading ++ .read 7 :: Sample.untilCounted)
      Sample.untilReading Sample.untilCounted := ⟨rfl, by decide, by decide⟩
  have hquiet : Counting 7 [.track, .read 7, .read 3] [.track] [.read 3] :=
    ⟨rfl, by decide, by decide⟩
  obtain ⟨-, hcounts⟩ := open_count_covers (Sample.untilReading ++ .read 7 :: Sample.untilCounted) 7
  obtain ⟨number, hcounted, -, -, -, hcovers, -⟩ := hcounts _ _ hpassing
  obtain rfl : (3 : Nat) = number := Answer.counted.inj hcounted
  obtain ⟨-, hcounts⟩ := open_count_covers [.track, .read 7, .read 3] 7
  obtain ⟨number, hcounted', -, -, -, -, hexact⟩ := hcounts _ _ hquiet
  obtain rfl : (1 : Nat) = number := Answer.counted.inj hcounted'
  refine ⟨hpassing, hcounted, ?_, hcovers [.read 3, .track] _ rfl, hquiet, hcounted', ?_⟩
  · rw [ncard_alive]
    rfl
  · exact (hexact (by simp)).symm

end LoadHarness.Audit
