import LoadHarness.Domain.DirectionTable
import LoadHarness.Text.Marks

/-! Names that are written from right to left, in part or all through.

If any character of a name is written from right to left, every label has to be
readable in one direction: it begins with a letter, which sets the direction,
and has no letter of the other one, and it ends with a letter or a digit, marks
apart. -/

namespace LoadHarness.Domain

/-- How a character is written. -/
inductive Direction where
  | left
  | right
  | arabicDigit
  | europeanDigit
  /-- As what is around it. -/
  | neutral
  /-- As what is before it. -/
  | mark
deriving DecidableEq, Repr

namespace Direction

def ofChar (c : Char) : Direction :=
  if Text.nonspacingMarks.contains c && !leftMarks.contains c then mark
  else if rightLetters.contains c then right
  else if arabicDigits.contains c then arabicDigit
  else if europeanDigits.contains c then europeanDigit
  else if neutrals.contains c then neutral
  else left

/-- What a label has that is written from left to right. -/
def inLeft : Direction → Bool
  | left | europeanDigit | neutral | mark => true
  | right | arabicDigit => false

/-- What ends a label that is written from left to right. -/
def endsLeft : Direction → Bool
  | left | europeanDigit => true
  | right | arabicDigit | neutral | mark => false

/-- What a label has that is written from right to left. -/
def inRight : Direction → Bool
  | right | arabicDigit | europeanDigit | neutral | mark => true
  | left => false

/-- What ends a label that is written from right to left. -/
def endsRight : Direction → Bool
  | right | arabicDigit | europeanDigit => true
  | left | neutral | mark => false

end Direction

/-- Whether a label can be read in one direction.  One that is written from right to left has digits
of one kind only. -/
def isDirected (label : List Char) : Bool :=
  let directions := label.map Direction.ofChar
  let last := (directions.reverse.dropWhile (· = .mark)).headD .mark
  match directions with
  | [] => true
  | .left :: _ => last.endsLeft && directions.all (·.inLeft)
  | .right :: _ =>
    last.endsRight && directions.all (·.inRight) &&
      !(directions.contains .arabicDigit && directions.contains .europeanDigit)
  | _ => false

/-- Whether some character is written from right to left. -/
def hasRight (label : List Char) : Bool :=
  label.any fun c => Direction.ofChar c = .right || Direction.ofChar c = .arabicDigit

/-- Whether the labels of a name can be read together. -/
def areDirected (labels : List (List Char)) : Bool :=
  !labels.any hasRight || labels.all isDirected

end LoadHarness.Domain
