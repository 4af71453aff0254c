/-! Texts for a terminal: emphasis as escape sequences, and the text that is left without any.

A sequence begins with the escape character.  A short one ends with its first
byte that is not between a blank and a slash; one that opens with a bracket
ends with a letter; the others hold a text of their own, up to the next escape
character or to one of the two characters that break off every sequence.  A
command ends with the bell too, and any other text with the byte that terminates
strings.  `plain` drops sequences and all control characters but white space. -/

namespace LoadHarness.Text.Terminal

/-- Where a character stands. -/
inductive State where
  /-- Outside any sequence. -/
  | ground
  /-- Behind an escape character. -/
  | escape
  /-- Inside a short sequence. -/
  | short
  /-- Inside a sequence that opened with a bracket. -/
  | control
  /-- Inside the text of a command. -/
  | command
  /-- At the head of a text for a device. -/
  | device
  /-- Behind a number in the head of a text for a device. -/
  | deviceNumber
  /-- Behind a mark in the head of a text for a device. -/
  | deviceMark
  /-- Inside any other text that is not shown. -/
  | passage
deriving DecidableEq, Repr

/-- White space that controls the terminal and is part of a text all the same. -/
def isBlankControl (c : Char) : Bool := c == '\t' || c == '\n' || c == '\x0c' || c == '\x0d'

/-- Whether a character outside sequences is shown. -/
def isPrintable (c : Char) : Bool := (0x20 ≤ c.toNat && c.toNat ≠ 0x7F) || isBlankControl c

/-- Where a character of ASCII inside a sequence leads, if it does not break off the sequence.
White space ends the shorter sequences, and is shown. -/
def advance (state : State) (c : Char) : State :=
  let n := c.toNat
  match state with
  | .ground => .ground
  | .escape =>
    if n < 0x20 || n == 0x7F then .escape
    else if n < 0x30 then .short
    else if c == '[' then .control
    else if c == ']' then .command
    else if c == 'P' then .device
    else if c == 'X' || c == '^' || c == '_' then .passage
    else .ground
  | .short => if n < 0x30 || n == 0x7F then .short else .ground
  | .control => if n < 0x40 || n == 0x7F then .control else .ground
  | .command => if c == '\x07' then .ground else .command
  | .device =>
    if n < 0x20 || n == 0x7F then .device
    else if n < 0x30 then .deviceMark
    else if n < 0x40 then .deviceNumber
    else .passage
  | .deviceNumber =>
    if n < 0x20 || n == 0x7F then .deviceNumber
    else if n < 0x30 then .deviceMark
    else if n < 0x3C then .deviceNumber
    else .passage
  | .deviceMark => if n < 0x30 || n == 0x7F then .deviceMark else .passage
  | .passage => .passage

/-- The byte that terminates strings. -/
def terminator : UInt8 := 0x9C

/-- Where a character outside ASCII leads inside a sequence.  Its bytes mean nothing there, save that
one of them may terminate a passage. -/
def pass (state : State) (c : Char) : State :=
  if state = .passage ∧ terminator ∈ String.utf8EncodeChar c then .ground else state

/-- Whether white space is shown where it stands. -/
def State.showsBlanks : State → Bool
  | ground | escape | short | control => true
  | command | device | deviceNumber | deviceMark | passage => false

/-- One character: the state behind it, and what of it is shown. -/
def step (state : State) (c : Char) : State × List Char :=
  if c == '\x1b' then (.escape, [])
  else if c == '\x18' || c == '\x1a' then (.ground, [])
  else if 0x80 ≤ c.toNat then
    if state = .ground then (.ground, [c]) else (pass state c, [])
  else if isBlankControl c && state.showsBlanks then (.ground, [c])
  else (advance state c, if state = .ground ∧ isPrintable c then [c] else [])

/-- What is shown of a text that begins in a state. -/
def shown (state : State) : List Char → List Char
  | [] => []
  | c :: rest => (step state c).2 ++ shown (step state c).1 rest

/-- A text without escape sequences and control characters. -/
def plain (text : String) : String := String.ofList (shown .ground text.toList)

/-! ## Emphasis -/

/-- The sequence that selects how what follows is rendered. -/
def rendition (number : String) : String := "\x1b[" ++ number ++ "m"

/-- A text in one rendition, which ends behind it. -/
def rendered (number text : String) : String := rendition number ++ text ++ rendition "0"

/-- A text in bold. -/
def bold (text : String) : String := rendered "1" text

/-- A text in yellow. -/
def yellow (text : String) : String := rendered "33" text

/-- A text in bold and red. -/
def boldRed (text : String) : String := rendition "1" ++ rendered "31" text

end LoadHarness.Text.Terminal
