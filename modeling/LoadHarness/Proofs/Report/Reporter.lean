import LoadHarness.Report.Reporter
import Mathlib.Data.List.Nodup

/-! What visits leave with the collectors of a reporter.

A collector has received what its own visits have handed to it, in their order, whichever visits
others had in between (`Reporter.getElem?_collectors_after`).  A call that nothing comes between
hands the same thing to every collector (`Reporter.collectors_deliver`). -/

namespace LoadHarness.Report

/-- The visits of one call to a reporter with so many collectors, in order. -/
def Delivery.visits (collectors : Nat) (delivery : Delivery) : List Visit :=
  (List.range collectors).map fun place => ⟨place, delivery⟩

/-- What visits hand to the collector at one place, in their order. -/
def handedTo (place : Nat) (visits : List Visit) : List Delivery :=
  visits.filterMap fun visit => if visit.collector = place then some visit.delivery else none

/-- One call hands its delivery to every collector once. -/
theorem handedTo_visits {place collectors : Nat} (h : place < collectors) (delivery : Delivery) :
    handedTo place (delivery.visits collectors) = [delivery] := by
  have hpick : ∀ n, (if n = place then some delivery else none) =
      (Option.guard (· = place) n).map fun _ => delivery := by
    intro n
    by_cases hn : n = place <;> simp [Option.guard, hn]
  have hplace : (List.range collectors).filter (· = place) = [place] := by
    rw [List.filter_eq, List.count_eq_one_of_mem List.nodup_range (List.mem_range.mpr h)]
    rfl
  rw [handedTo, Delivery.visits, List.filterMap_map]
  simp only [Function.comp_def, hpick]
  rw [← List.map_filterMap, List.filterMap_eq_filter, hplace]
  rfl

theorem handedTo_flatMap_visits {place collectors : Nat} (h : place < collectors)
    (deliveries : List Delivery) :
    handedTo place (deliveries.flatMap fun delivery => delivery.visits collectors) =
      deliveries := by
  induction deliveries with
  | nil => rfl
  | cons delivery deliveries ih =>
    rw [List.flatMap_cons, handedTo, List.filterMap_append]
    exact congrArg₂ (· ++ ·) (handedTo_visits h delivery) ih

/-- The record of an operation, if it is one. -/
def Delivery.operation? : Delivery → Option Operation
  | .operation record => some record
  | .checks _ => none

/-- The check counts of a run, if it is those. -/
def Delivery.checks? : Delivery → Option (NameMap CheckCounts)
  | .operation _ => none
  | .checks counts => some counts

namespace Collector

/-- The check counts a collector was handed, oldest first. -/
def checks (collector : Collector) : List (NameMap CheckCounts) :=
  collector.received.reverse.filterMap fun
    | .operation _ => none
    | .checks checks => some checks

theorem operations_eq (collector : Collector) :
    collector.operations = collector.received.reverse.filterMap Delivery.operation? := by
  rw [operations]
  congr 1

theorem operations_receive (collector : Collector) (delivery : Delivery) :
    (collector.receive delivery).operations =
      collector.operations ++ delivery.operation?.toList := by
  rw [operations, operations, receive, List.reverse_cons, List.filterMap_append]
  cases delivery <;> rfl

theorem checks_receive (collector : Collector) (delivery : Delivery) :
    (collector.receive delivery).checks = collector.checks ++ delivery.checks?.toList := by
  rw [checks, checks, receive, List.reverse_cons, List.filterMap_append]
  cases delivery <;> rfl

end Collector

namespace Reporter

theorem length_collectors_after (reporter : Reporter) (visits : List Visit) :
    (reporter.after visits).collectors.length = reporter.collectors.length := by
  induction visits generalizing reporter with
  | nil => rfl
  | cons visit visits ih =>
    refine (ih (reporter.visit visit)).trans ?_
    rw [Reporter.visit, List.length_modify]

theorem length_collectors_deliver (reporter : Reporter) (delivery : Delivery) :
    (reporter.deliver delivery).collectors.length = reporter.collectors.length :=
  length_collectors_after reporter _

/-- What a collector has received is a matter of its own visits. -/
theorem getElem?_collectors_after (reporter : Reporter) (visits : List Visit) (place : Nat) :
    (reporter.after visits).collectors[place]? =
      reporter.collectors[place]?.map fun collector =>
        { collector with received := (handedTo place visits).reverse ++ collector.received } := by
  induction visits generalizing reporter with
  | nil => exact Option.map_id'.symm
  | cons visit visits ih =>
    rw [after, List.foldl_cons]
    refine (ih (reporter.visit visit)).trans ?_
    rw [Reporter.visit, List.getElem?_modify, handedTo, handedTo, List.filterMap_cons]
    by_cases hplace : visit.collector = place
    · simp only [if_pos hplace, Option.map_map, Functor.map]
      cases reporter.collectors[place]? with
      | none => rfl
      | some collector => simp [Collector.receive]
    · simp only [if_neg hplace, id_map']

theorem map_kind_collectors_after (reporter : Reporter) (visits : List Visit) :
    (reporter.after visits).collectors.map (·.kind) = reporter.collectors.map (·.kind) := by
  apply List.ext_getElem?
  intro place
  rw [List.getElem?_map, List.getElem?_map, getElem?_collectors_after, Option.map_map]
  rfl

/-- The collector that prints, if there is one, comes after those that keep. -/
theorem map_kind_collectors_start (keepers : Nat) (printing : Bool) :
    (start keepers printing).collectors.map (·.kind) =
      List.replicate keepers .keep ++ if printing then [.print] else [] := by
  rw [start, List.map_append, List.map_replicate]
  cases printing <;> rfl

theorem received_of_mem_start {keepers : Nat} {printing : Bool} {collector : Collector}
    (h : collector ∈ (start keepers printing).collectors) : collector.received = [] := by
  rcases List.mem_append.mp h with hkeeper | hprinter
  · rw [List.eq_of_mem_replicate hkeeper]
  · split at hprinter
    · rw [List.mem_singleton.mp hprinter]
    · cases hprinter

/-- A call hands the same thing to every collector. -/
theorem collectors_deliver (reporter : Reporter) (delivery : Delivery) :
    (reporter.deliver delivery).collectors =
      reporter.collectors.map (·.receive delivery) := by
  apply List.ext_getElem?
  intro place
  rw [deliver, getElem?_collectors_after, List.getElem?_map]
  rcases Nat.lt_or_ge place reporter.collectors.length with hlt | hge
  · have hhanded : handedTo place (reporter.visits delivery) = [delivery] :=
      handedTo_visits hlt delivery
    rw [hhanded]
    rfl
  · rw [List.getElem?_eq_none hge]
    rfl

/-- After a call, what was handed to each collector is what it was before, and the call. -/
theorem exists_of_mem_deliver {reporter : Reporter} {delivery : Delivery} {collector : Collector}
    (h : collector ∈ (reporter.deliver delivery).collectors) :
    ∃ before ∈ reporter.collectors, before.receive delivery = collector := by
  rwa [collectors_deliver, List.mem_map] at h

end Reporter

end LoadHarness.Report
