import LoadHarness.Ledger

/-! Counting open connections while connections are opened and closed.

Whoever counts reads the books twice, first for the closed connections and then for the opened
ones.  No more than one reading or one entry is indivisible: between the two readings of one reader
others may make entries, or take readings of their own.

The counts are natural numbers.  A word of 64 bits has room for as many connections as anyone could
open. -/

namespace LoadHarness

/-- The books, and the readers that are at work on them. -/
structure Audit where
  ledger : Ledger Nat
  /-- How many connections were closed, as read by a reader that has yet to read how many were
  opened. -/
  noted : Nat → Option Nat

namespace Audit

/-- Books without an entry, and no reader at work. -/
def start : Audit := ⟨.empty, fun _ => none⟩

instance : Inhabited Audit := ⟨start⟩

/-- What can be done with the books in one go. -/
inductive Step where
  /-- Open a connection.  Its token is the number of connections that were opened before. -/
  | track
  /-- Drop a token, which closes its connection. -/
  | drop (token : Nat)
  /-- Take the next reading of a reader. -/
  | read (reader : Nat)
deriving DecidableEq, Repr

/-- What a step answers. -/
inductive Answer where
  | tracked (token : Nat)
  | dropped
  /-- The first reading is taken. -/
  | noted
  /-- The second reading is taken, and this is the number of open connections. -/
  | counted (number : Nat)
deriving DecidableEq, Repr

/-- Set down what a reader knows. -/
def note (audit : Audit) (reader : Nat) (reading : Option Nat) : Audit :=
  { audit with noted := fun other => if other = reader then reading else audit.noted other }

def step (audit : Audit) : Step → Audit × Answer
  | .track => ({ audit with ledger := audit.ledger.open audit.ledger.opened },
      .tracked audit.ledger.opened)
  | .drop token => ({ audit with ledger := audit.ledger.close token }, .dropped)
  | .read reader =>
    match audit.noted reader with
    | none => (audit.note reader (some audit.ledger.closed), .noted)
    | some closed =>
      (audit.note reader none, .counted (Ledger.openCount audit.ledger.opened closed))

/-- The books after a list of steps. -/
def after (audit : Audit) (steps : List Step) : Audit :=
  steps.foldl (fun audit step => (audit.step step).1) audit

@[simp] theorem after_cons (audit : Audit) (step : Step) (rest : List Step) :
    audit.after (step :: rest) = (audit.step step).1.after rest := rfl

theorem after_append (audit : Audit) (steps later : List Step) :
    audit.after (steps ++ later) = (audit.after steps).after later :=
  List.foldl_append

@[simp] theorem ledger_read (audit : Audit) (reader : Nat) :
    (audit.step (.read reader)).1.ledger = audit.ledger := by
  rw [step]
  split <;> rfl

end Audit

end LoadHarness
