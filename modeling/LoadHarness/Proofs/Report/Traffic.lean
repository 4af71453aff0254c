import LoadHarness.Proofs.Report.Reporter
import LoadHarness.Proofs.Report.Rows
import LoadHarness.Proofs.Shuffles
import LoadHarness.Report.Traffic
import Mathlib.Data.List.Induction

/-! What collectors receive from callers that call at the same time.

At every point of every schedule, the visits that a caller has made and those that it owes are the
visits of its calls, in their order:

    visits made ++ visits owed = calls.flatMap visits                (Traffic.Faithful)

So when all calls have returned, the visits are a shuffle of the callers' own, and what picks one
collector from it makes what that collector has received a shuffle of what the callers have called
with.  Collectors may have received it in different orders, but nothing that a table counts depends
on the order. -/

namespace LoadHarness.Report

/-! ## One caller -/

namespace Caller

/-- The visits that a caller has still to make, in their order. -/
def owed (collectors : Nat) : Caller → List Visit
  | ⟨[], _⟩ => []
  | ⟨delivery :: later, visited⟩ =>
    (delivery.visits collectors).drop visited ++ later.flatMap (·.visits collectors)

/-- How many moves a caller has still to make. -/
def due (collectors : Nat) (caller : Caller) : Nat :=
  caller.calls.length * (collectors + 1) - caller.visited

/-- A call under way has not visited more collectors than there are. -/
def Fits (collectors : Nat) (caller : Caller) : Prop := caller.visited ≤ collectors

variable {collectors : Nat} {caller : Caller}

theorem owed_cons (delivery : Delivery) (later : List Delivery) (visited : Nat) :
    owed collectors ⟨delivery :: later, visited⟩ =
      (delivery.visits collectors).drop visited ++ later.flatMap (·.visits collectors) := rfl

theorem owed_fresh (calls : List Delivery) :
    owed collectors ⟨calls, 0⟩ = calls.flatMap (·.visits collectors) := by
  cases calls <;> rfl

theorem owed_eq_nil (h : caller.calls = []) : caller.owed collectors = [] := by
  obtain ⟨calls, visited⟩ := caller
  obtain rfl : calls = [] := h
  rfl

theorem Fits.moved (h : caller.Fits collectors) : (caller.moved collectors).Fits collectors := by
  obtain ⟨calls, visited⟩ := caller
  cases calls with
  | nil => exact h
  | cons delivery later =>
    rw [Caller.moved]
    split
    · rename_i hlt
      exact hlt
    · exact Nat.zero_le _

/-- A move makes the first of the visits that are owed, or none. -/
theorem owed_eq (h : caller.Fits collectors) :
    caller.owed collectors =
      (caller.visit? collectors).toList ++ (caller.moved collectors).owed collectors := by
  obtain ⟨calls, visited⟩ := caller
  cases calls with
  | nil => rfl
  | cons delivery later =>
    have hlength : (delivery.visits collectors).length = collectors := by
      rw [Delivery.visits, List.length_map, List.length_range]
    rw [owed_cons]
    simp only [visit?, Caller.moved]
    split
    · rename_i hlt
      rw [owed_cons, List.drop_eq_getElem_cons (hlength.symm ▸ hlt)]
      simp [Delivery.visits]
    · rename_i hge
      rw [owed_fresh, List.drop_of_length_le (hlength.symm ▸ Nat.not_lt.mp hge)]
      rfl

theorem due_moved (h : caller.Fits collectors) :
    (caller.moved collectors).due collectors = caller.due collectors - 1 := by
  obtain ⟨calls, visited⟩ := caller
  cases calls with
  | nil => simp [Caller.moved, due]
  | cons delivery later =>
    have hvisited : visited ≤ collectors := h
    simp only [Caller.moved]
    split
    · simp only [due, List.length_cons, Nat.succ_mul]
      omega
    · simp only [due, List.length_cons, Nat.succ_mul]
      omega

/-- A caller has no move to make if and only if its calls have returned. -/
theorem calls_eq_nil_iff (h : caller.Fits collectors) :
    caller.calls = [] ↔ caller.due collectors = 0 := by
  obtain ⟨calls, visited⟩ := caller
  have hvisited : visited ≤ collectors := h
  cases calls with
  | nil => simp [due]
  | cons delivery later =>
    simp only [due, List.length_cons, Nat.succ_mul, reduceCtorEq, false_iff]
    omega

end Caller

/-! ## All callers -/

namespace Traffic

/-- The visits that one caller has made. -/
def madeBy (traffic : Traffic) (number : Nat) : List Visit :=
  (traffic.made.filter fun entry => entry.1 == number).map Prod.snd

theorem caller_step (traffic : Traffic) (mover number : Nat) :
    (traffic.step mover).caller number =
      if mover = number then (traffic.caller number).moved traffic.reporter.collectors.length
      else traffic.caller number := by
  simp only [caller, step, List.getD_eq_getElem?_getD, List.getElem?_modify]
  cases traffic.callers[number]? with
  | none => split <;> rfl
  | some found => split <;> rfl

theorem madeBy_step (traffic : Traffic) (mover number : Nat) :
    (traffic.step mover).madeBy number =
      traffic.madeBy number ++
        if mover = number then
          ((traffic.caller number).visit? traffic.reporter.collectors.length).toList
        else [] := by
  simp only [madeBy, step, List.filter_append, List.map_append]
  congr 1
  split
  · rename_i h
    subst h
    rw [List.filter_eq_self.mpr fun entry hmem => ?_, List.map_map]
    · exact List.map_id _
    · obtain ⟨_, -, rfl⟩ := List.mem_map.mp hmem
      exact beq_self_eq_true _
  · rename_i h
    rw [List.filter_eq_nil_iff.mpr fun entry hmem => ?_]
    · rfl
    · obtain ⟨_, -, rfl⟩ := List.mem_map.mp hmem
      exact fun hbeq => h (beq_iff_eq.mp hbeq)

/-- What holds at every point of the traffic that `calls` to a reporter make, once callers have
moved in the order of a schedule. -/
structure Faithful (first : Reporter) (calls : List (List Delivery)) (schedule : List Nat)
    (traffic : Traffic) : Prop where
  /-- The reporter is what the visits have made of it. -/
  reporter : traffic.reporter = first.after (traffic.made.map Prod.snd)
  length_callers : traffic.callers.length = calls.length
  fits : ∀ number, (traffic.caller number).Fits first.collectors.length
  /-- Each caller has made its visits up to a point, and owes the rest. -/
  visits : ∀ number,
    traffic.madeBy number ++ (traffic.caller number).owed first.collectors.length =
      (calls.getD number []).flatMap (·.visits first.collectors.length)
  /-- No caller waits for another: each move of a caller is one less to make. -/
  due : ∀ number, (traffic.caller number).due first.collectors.length =
    (calls.getD number []).length * (first.collectors.length + 1) - schedule.count number

variable {first : Reporter} {calls : List (List Delivery)} {schedule : List Nat}
  {traffic : Traffic}

theorem caller_start (number : Nat) :
    (start first calls).caller number = ⟨calls.getD number [], 0⟩ := by
  simp only [caller, start, List.getD_eq_getElem?_getD, List.getElem?_map]
  cases calls[number]? <;> rfl

theorem faithful_start (first : Reporter) (calls : List (List Delivery)) :
    Faithful first calls [] (start first calls) where
  reporter := rfl
  length_callers := List.length_map _
  fits number := by
    rw [caller_start]
    exact Nat.zero_le _
  visits number := by
    rw [caller_start, Caller.owed_fresh]
    rfl
  due number := by
    rw [caller_start]
    rfl

theorem Faithful.length_collectors (h : Faithful first calls schedule traffic) :
    traffic.reporter.collectors.length = first.collectors.length := by
  rw [h.reporter, Reporter.length_collectors_after]

theorem Faithful.step (h : Faithful first calls schedule traffic) (mover : Nat) :
    Faithful first calls (schedule ++ [mover]) (traffic.step mover) where
  reporter := by
    have hmade : (traffic.step mover).made.map Prod.snd = traffic.made.map Prod.snd ++
        ((traffic.caller mover).visit? traffic.reporter.collectors.length).toList := by
      rw [Traffic.step, List.map_append, List.map_map]
      exact congrArg _ (List.map_id _)
    rw [hmade, Reporter.after, List.foldl_append]
    exact congrArg (Reporter.after · _) h.reporter
  length_callers := by
    rw [Traffic.step, List.length_modify]
    exact h.length_callers
  fits number := by
    rw [caller_step, h.length_collectors]
    split
    · exact (h.fits number).moved
    · exact h.fits number
  visits number := by
    rw [caller_step, madeBy_step, h.length_collectors, ← h.visits number]
    split
    · rw [Caller.owed_eq (h.fits number), List.append_assoc]
    · rw [List.append_nil]
  due number := by
    rw [caller_step, h.length_collectors, List.count_append, List.count_singleton]
    split
    · rename_i hmover
      rw [Caller.due_moved (h.fits number), h.due number, if_pos (beq_iff_eq.mpr hmover)]
      omega
    · rename_i hmover
      rw [h.due number, if_neg fun hbeq => hmover (beq_iff_eq.mp hbeq)]
      rfl

theorem faithful_after (first : Reporter) (calls : List (List Delivery)) (schedule : List Nat) :
    Faithful first calls schedule ((start first calls).after schedule) := by
  induction schedule using List.reverseRecOn with
  | nil => exact faithful_start first calls
  | append_singleton schedule mover ih =>
    rw [after, List.foldl_append]
    exact ih.step mover

theorem returned_iff_calls (traffic : Traffic) :
    traffic.returned = true ↔ ∀ number, (traffic.caller number).calls = [] := by
  simp only [returned, List.all_eq_true, List.isEmpty_iff]
  constructor
  · intro h number
    rw [caller, List.getD_eq_getElem?_getD]
    cases hfound : traffic.callers[number]? with
    | none => rfl
    | some found => exact h found (List.mem_of_getElem? hfound)
  · intro h found hmem
    obtain ⟨number, hnumber⟩ := List.mem_iff_getElem?.mp hmem
    have hcalls := h number
    rwa [caller, List.getD_eq_getElem?_getD, hnumber] at hcalls

/-- All calls have returned once every caller has had its moves, whatever the others did. -/
theorem Faithful.returned_iff (h : Faithful first calls schedule traffic) :
    traffic.returned = true ↔ ∀ number,
      (calls.getD number []).length * (first.collectors.length + 1) ≤ schedule.count number := by
  rw [returned_iff_calls]
  refine forall_congr' fun number => ?_
  rw [Caller.calls_eq_nil_iff (h.fits number), h.due number, Nat.sub_eq_zero_iff_le]

theorem Faithful.madeBy_eq (h : Faithful first calls schedule traffic)
    (hreturned : traffic.returned = true) (number : Nat) :
    traffic.madeBy number =
      (calls.getD number []).flatMap (·.visits first.collectors.length) := by
  have hvisits := h.visits number
  rwa [Caller.owed_eq_nil ((returned_iff_calls traffic).mp hreturned number),
    List.append_nil] at hvisits

/-- When all calls have returned, the visits are those of the callers, in some order that keeps the
order of each. -/
theorem Faithful.shuffles_made (h : Faithful first calls schedule traffic)
    (hreturned : traffic.returned = true) :
    Shuffles (traffic.made.map Prod.snd) fun number =>
      (calls.getD number []).flatMap (·.visits first.collectors.length) :=
  ⟨traffic.made, rfl, h.madeBy_eq hreturned⟩

/-- What the visits hand to one collector is what the callers have called with. -/
theorem Faithful.shuffles_handed (h : Faithful first calls schedule traffic)
    (hreturned : traffic.returned = true) {place : Nat} (hplace : place < first.collectors.length) :
    Shuffles (handedTo place (traffic.made.map Prod.snd)) fun number => calls.getD number [] := by
  have hpicked := (h.shuffles_made hreturned).filterMap fun visit =>
    if visit.collector = place then some visit.delivery else none
  have hown (number : Nat) : ((calls.getD number []).flatMap
      (·.visits first.collectors.length)).filterMap (fun visit =>
        if visit.collector = place then some visit.delivery else none) = calls.getD number [] :=
    handedTo_flatMap_visits hplace _
  simp only [hown] at hpicked
  exact hpicked

end Traffic

/-! ## What has been delivered -/

/-- What comes of calls to a reporter, once they have all returned. -/
structure Delivered (first : Reporter) (calls : List (List Delivery)) (traffic : Traffic) :
    Prop where
  /-- Each call has visited the collectors in their order, and each caller has made its calls in
  theirs. -/
  visits : Shuffles (traffic.made.map Prod.snd) fun number =>
    (calls.getD number []).flatMap first.visits
  kinds : traffic.reporter.collectors.map (·.kind) = first.collectors.map (·.kind)
  /-- Every collector has received what each caller has called with, in the order of its calls. -/
  received : ∀ collector ∈ traffic.reporter.collectors,
    Shuffles collector.received.reverse fun number => calls.getD number []
  /-- Every collector has received all of it, and nothing else. -/
  complete : ∀ collector ∈ traffic.reporter.collectors, collector.received.Perm calls.flatten
  /-- Every collector has the operations that it would have, had the calls been made one after the
  other, and but for the order of the times the rows that count them are the same. -/
  operations : ∀ collector ∈ traffic.reporter.collectors,
    collector.operations.Perm (calls.flatten.filterMap Delivery.operation?) ∧
      (operationRows collector.operations).map OperationRow.settled =
        (operationRows (calls.flatten.filterMap Delivery.operation?)).map OperationRow.settled

theorem Traffic.Faithful.delivered {first : Reporter} {calls : List (List Delivery)}
    {schedule : List Nat} {traffic : Traffic}
    (h : Traffic.Faithful first calls schedule traffic) (hreturned : traffic.returned = true)
    (hfresh : ∀ collector ∈ first.collectors, collector.received = []) :
    Delivered first calls traffic := by
  have hreceived : ∀ collector ∈ traffic.reporter.collectors,
      Shuffles collector.received.reverse fun number => calls.getD number [] := by
    intro collector hmem
    obtain ⟨place, hplace⟩ := List.mem_iff_getElem?.mp hmem
    rw [h.reporter, Reporter.getElem?_collectors_after, Option.map_eq_some_iff] at hplace
    obtain ⟨before, hbefore, rfl⟩ := hplace
    rw [hfresh before (List.mem_of_getElem? hbefore), List.append_nil, List.reverse_reverse]
    exact h.shuffles_handed hreturned (List.getElem?_eq_some_iff.mp hbefore).1
  have hcomplete : ∀ collector ∈ traffic.reporter.collectors,
      collector.received.Perm calls.flatten := fun collector hmem =>
    (List.reverse_perm _).symm.trans (hreceived collector hmem).perm_flatten
  have hoperations : ∀ collector ∈ traffic.reporter.collectors,
      collector.operations.Perm (calls.flatten.filterMap Delivery.operation?) := by
    intro collector hmem
    rw [Collector.operations_eq]
    exact ((List.reverse_perm _).trans (hcomplete collector hmem)).filterMap _
  exact {
    visits := h.shuffles_made hreturned
    kinds := by rw [h.reporter, Reporter.map_kind_collectors_after]
    received := hreceived
    complete := hcomplete
    operations := fun collector hmem =>
      ⟨hoperations collector hmem, settled_operationRows_of_perm (hoperations collector hmem)⟩ }

/-- Whatever the order in which callers move, no call waits for another, and when all have returned
every collector has received everything once, each caller's in the order of its calls.  The
collector that prints, if there is one, is the last. -/
theorem fanned_out (keepers : Nat) (printing : Bool) (calls : List (List Delivery))
    (schedule : List Nat) :
    let first := Reporter.start keepers printing
    let traffic := (Traffic.start first calls).after schedule
    (traffic.returned = true ↔ ∀ number,
      (calls.getD number []).length * (first.collectors.length + 1) ≤ schedule.count number) ∧
      (traffic.returned = true → Delivered first calls traffic ∧
        traffic.reporter.collectors.map (·.kind) =
          List.replicate keepers .keep ++ if printing then [.print] else []) := by
  intro first traffic
  have hfaithful : Traffic.Faithful first calls schedule traffic :=
    Traffic.faithful_after first calls schedule
  refine ⟨hfaithful.returned_iff, fun hreturned => ?_⟩
  have hdelivered := hfaithful.delivered hreturned fun _ => Reporter.received_of_mem_start
  exact ⟨hdelivered, hdelivered.kinds.trans (Reporter.map_kind_collectors_start keepers printing)⟩

namespace Sample

/-- Two callers, of which one closes with the check counts. -/
def calls : List (List Delivery) := [
  [.operation ⟨"tcp_read", false, some ⟨2000⟩⟩, .operation ⟨"tcp_read", true, some ⟨4000⟩⟩],
  [.operation ⟨"tcp_connect", false, none⟩, .checks (.ofList [("alive", ⟨2, 1⟩)])]]

/-- The second caller overtakes the first on the way to the second collector. -/
def schedule : List Nat := [0, 1, 1, 0, 0, 1, 0, 0, 0, 1, 1, 1]

end Sample

/-- Of two collectors, the one that keeps has the read before the connect, and the one that prints
has them the other way round.  What each caller has called with is in its order in both. -/
theorem fanned_out_sample :
    ∃ keeps prints : Collector,
      ((Traffic.start (.start 1 true) Sample.calls).after Sample.schedule).returned = true ∧
      ((Traffic.start (.start 1 true) Sample.calls).after Sample.schedule).reporter.collectors =
        [keeps, prints] ∧
      keeps.operations.map (·.id) = ["tcp_read", "tcp_connect", "tcp_read"] ∧
      prints.operations.map (·.id) = ["tcp_connect", "tcp_read", "tcp_read"] ∧
      (Shuffles prints.received.reverse fun number => Sample.calls.getD number []) ∧
      keeps.operations.Perm (Sample.calls.flatten.filterMap Delivery.operation?) := by
  obtain ⟨-, hdelivered⟩ := fanned_out 1 true Sample.calls Sample.schedule
  have hreturned : ((Traffic.start (.start 1 true) Sample.calls).after
      Sample.schedule).returned = true := by decide
  obtain ⟨hdelivered, -⟩ := hdelivered hreturned
  exact ⟨_, _, hreturned, rfl, rfl, rfl, hdelivered.received _ (.tail _ (.head _)),
    (hdelivered.operations _ (.head _)).1⟩

end LoadHarness.Report
