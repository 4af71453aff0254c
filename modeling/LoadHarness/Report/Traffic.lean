import LoadHarness.Report.Reporter

/-! Calls to the reporter that are under way at the same time.

A caller makes its calls one after the other, and each call visits the collectors in order.  No
more than one visit is indivisible, so between two visits of one caller others may make theirs;
who moves next is settled by a schedule. -/

namespace LoadHarness.Report

/-- Someone who calls the reporter, at one point of its calls. -/
structure Caller where
  /-- What is not yet handed to every collector, beginning with the call that is under way. -/
  calls : List Delivery
  /-- How many collectors this call has visited. -/
  visited : Nat
deriving DecidableEq

namespace Caller

/-- A caller whose calls have all returned. -/
def idle : Caller := ⟨[], 0⟩

instance : Inhabited Caller := ⟨idle⟩

/-- The visit that is the next move of a caller, unless it returns from a call or is idle. -/
def visit? (collectors : Nat) : Caller → Option Visit
  | ⟨[], _⟩ => none
  | ⟨delivery :: _, visited⟩ => if visited < collectors then some ⟨visited, delivery⟩ else none

/-- A caller after its next move: it has visited one more collector, or has returned from a call
that had visited all of them. -/
def moved (collectors : Nat) : Caller → Caller
  | ⟨[], visited⟩ => ⟨[], visited⟩
  | ⟨delivery :: later, visited⟩ =>
    if visited < collectors then ⟨delivery :: later, visited + 1⟩ else ⟨later, 0⟩

end Caller

/-- Callers at work on one reporter. -/
structure Traffic where
  reporter : Reporter
  callers : List Caller
  /-- The visits made so far, oldest first, each with the number of the caller. -/
  made : List (Nat × Visit)
deriving DecidableEq

namespace Traffic

/-- Callers before their first call. -/
def start (reporter : Reporter) (calls : List (List Delivery)) : Traffic where
  reporter := reporter
  callers := calls.map (⟨·, 0⟩)
  made := []

instance : Inhabited Traffic := ⟨start default []⟩

def caller (traffic : Traffic) (number : Nat) : Caller := traffic.callers.getD number .idle

/-- The next move of one caller. -/
def step (traffic : Traffic) (number : Nat) : Traffic :=
  let collectors := traffic.reporter.collectors.length
  let visits := ((traffic.caller number).visit? collectors).toList
  { reporter := traffic.reporter.after visits
    callers := traffic.callers.modify number (·.moved collectors)
    made := traffic.made ++ visits.map (number, ·) }

/-- The traffic after callers have moved in the order given. -/
def after (traffic : Traffic) (schedule : List Nat) : Traffic := schedule.foldl step traffic

/-- Whether all calls have returned. -/
def returned (traffic : Traffic) : Bool := traffic.callers.all (·.calls.isEmpty)

end Traffic

end LoadHarness.Report
