/-! The books on connections: how many were opened, how many closed, and which are open.

A connection is named by a token.  Closing a token that is not open does
nothing, so whichever way a connection is released it is counted once. -/

namespace LoadHarness

/-- The connections of a run, named by tokens. -/
structure Ledger (Token : Type) where
  opened : Nat
  closed : Nat
  /-- The tokens of the open connections, in the order in which they were opened. -/
  live : List Token
deriving DecidableEq, Repr

namespace Ledger

variable {Token : Type}

/-- Books without an entry. -/
def empty : Ledger Token := ⟨0, 0, []⟩

instance : Inhabited (Ledger Token) := ⟨empty⟩

/-- Enter an opened connection. -/
def «open» (ledger : Ledger Token) (token : Token) : Ledger Token :=
  { ledger with opened := ledger.opened + 1, live := ledger.live ++ [token] }

/-- Close every open connection that `which` picks. -/
def closeWhere (ledger : Ledger Token) (which : Token → Bool) : Ledger Token where
  opened := ledger.opened
  closed := ledger.closed + (ledger.live.filter which).length
  live := ledger.live.filter fun token => !which token

/-- Close one connection, if it is open. -/
def close [DecidableEq Token] (ledger : Ledger Token) (token : Token) : Ledger Token :=
  ledger.closeWhere (· == token)

/-- The number of open connections, from two readings of the counters. -/
def openCount (opened closed : Nat) : Nat := opened - closed

/-- What the books know at any time: no connection was closed that had not been opened, and the
open ones are those not closed yet. -/
def Balanced (ledger : Ledger Token) : Prop :=
  ledger.opened = ledger.closed + ledger.live.length

theorem balanced_empty : (empty : Ledger Token).Balanced := rfl

theorem Balanced.open {ledger : Ledger Token} (h : ledger.Balanced) (token : Token) :
    (ledger.open token).Balanced := by
  simp only [Balanced, Ledger.open, List.length_append, List.length_singleton] at h ⊢
  omega

theorem length_filter_add_length_filter_not {α : Type} (p : α → Bool) (l : List α) :
    (l.filter p).length + (l.filter fun a => !p a).length = l.length := by
  induction l with
  | nil => rfl
  | cons a l ih => cases h : p a <;> simp [h] <;> omega

theorem Balanced.closeWhere {ledger : Ledger Token} (h : ledger.Balanced) (which : Token → Bool) :
    (ledger.closeWhere which).Balanced := by
  have := length_filter_add_length_filter_not which ledger.live
  simp only [Balanced, Ledger.closeWhere] at h ⊢
  omega

end Ledger

end LoadHarness
