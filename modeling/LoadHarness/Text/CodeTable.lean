import LoadHarness.Text.Number

/-! Tables of characters, written down as text.

A table is a row of hexadecimal numbers with a mark between any two.  What the
marks mean depends on the kind of table: `41-5A 61` is a set of two ranges,
`41-5A=61` moves the characters of a range to another, `C0=41+300,41+301` spells
out two characters one behind the other, and `300-314=E6` gives a class to the
characters of a range.  Any number of blanks and line ends are one mark. -/

namespace LoadHarness.Text

/-- The numbers of a table, each with the mark behind it; `value` is the number that is being
read. -/
def scanTable (value : Option Nat) : List Char → List (Nat × Char)
  | [] => (value.map fun n => (n, ' ')).toList
  | c :: rest =>
    match hexValue? c, value with
    | some digit, value => scanTable (some (16 * value.getD 0 + digit)) rest
    | none, some n => (n, c) :: scanTable none rest
    | none, none => scanTable none rest

/-- The numbers and marks of a table. -/
def tableMarks (text : String) : List (Nat × Char) := scanTable none text.toList

/-! ## Sets -/

/-- A set of characters: ranges of code points, both ends of each in it. -/
structure CharSet where
  ranges : Array (Nat × Nat)

namespace CharSet

/-- The ranges that numbers and marks stand for. -/
def ofScan : List (Nat × Char) → List (Nat × Nat)
  | (first, '-') :: (last, _) :: rest => (first, last) :: ofScan rest
  | (code, _) :: rest => (code, code) :: ofScan rest
  | [] => []

def ofText (text : String) : CharSet := ⟨(ofScan (tableMarks text)).toArray⟩

def contains (set : CharSet) (c : Char) : Bool :=
  set.ranges.any fun range => range.1 ≤ c.toNat && c.toNat ≤ range.2

end CharSet

/-! ## Classes -/

/-- A class for each character; the characters of no range have class zero. -/
structure CharClasses where
  ranges : Array (Nat × Nat × Nat)

namespace CharClasses

/-- The ranges that numbers and marks stand for. -/
def ofScan : List (Nat × Char) → List (Nat × Nat × Nat)
  | (first, '-') :: (last, _) :: (value, _) :: rest => (first, last, value) :: ofScan rest
  | (code, _) :: (value, _) :: rest => (code, code, value) :: ofScan rest
  | _ => []

def ofText (text : String) : CharClasses := ⟨(ofScan (tableMarks text)).toArray⟩

def get (classes : CharClasses) (c : Char) : Nat :=
  match classes.ranges.find? fun range => range.1 ≤ c.toNat && c.toNat ≤ range.2.1 with
  | some range => range.2.2
  | none => 0

end CharClasses

/-! ## Moves -/

/-- Characters that give way to others in the same order. -/
structure Move where
  first : Nat
  last : Nat
  /-- How far apart they are. -/
  step : Nat
  /-- What the first of them gives way to. -/
  target : Nat

/-- Moves of ranges; those that are marked with a colon leave out every other character. -/
structure CharMoves where
  moves : Array Move

namespace CharMoves

/-- The moves that numbers and marks stand for. -/
def ofScan : List (Nat × Char) → List Move
  | (first, '-') :: (last, mark) :: (target, _) :: rest =>
    ⟨first, last, if mark = ':' then 2 else 1, target⟩ :: ofScan rest
  | _ => []

def ofText (text : String) : CharMoves := ⟨(ofScan (tableMarks text)).toArray⟩

/-- What a character gives way to. -/
def find? (moves : CharMoves) (c : Char) : Option Char :=
  (moves.moves.find? fun move =>
    move.first ≤ c.toNat && c.toNat ≤ move.last && (c.toNat - move.first) % move.step == 0).map
    fun move => Char.ofNat (move.target + (c.toNat - move.first))

end CharMoves

/-! ## Spellings -/

/-- Characters one behind the other that other characters spell. -/
structure Run where
  first : Nat
  spellings : Array (List Char)

/-- Characters that other characters spell. -/
structure CharSpellings where
  runs : Array Run

namespace CharSpellings

/-- The spellings of the run that is being read, the last of them as far as it is read, and the
runs behind it. -/
def ofScan : List (Nat × Char) → List (List Char) × List Run
  | [] => ([], [])
  | (code, mark) :: rest =>
    let (spellings, runs) := ofScan rest
    let c := Char.ofNat code
    match mark, spellings with
    | '=', spellings => ([], ⟨code, spellings.toArray⟩ :: runs)
    | '+', spelling :: spellings => ((c :: spelling) :: spellings, runs)
    | ',', spellings => ([c] :: spellings, runs)
    | _, _ => ([[c]], runs)

def ofText (text : String) : CharSpellings := ⟨(ofScan (tableMarks text)).2.toArray⟩

/-- How a character is spelled. -/
def find? (table : CharSpellings) (c : Char) : Option (List Char) :=
  table.runs.findSome? fun run =>
    if run.first ≤ c.toNat then run.spellings[c.toNat - run.first]? else none

/-- Which character is spelled this way. -/
def unspell? (table : CharSpellings) (spelling : List Char) : Option Char :=
  table.runs.findSome? fun run =>
    (run.spellings.findIdx? (· == spelling)).map fun n => Char.ofNat (run.first + n)

end CharSpellings

end LoadHarness.Text
