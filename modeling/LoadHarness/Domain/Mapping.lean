import LoadHarness.Domain.MappingTable
import LoadHarness.Text.Composition

/-! Names as they are compared: in small letters, composed, and without what nobody sees. -/

namespace LoadHarness.Domain

/-- What a name does with a character. -/
inductive Treatment where
  | kept
  | replaced (spelling : List Char)
  | dropped
  | refused
deriving DecidableEq, Repr

def treatment (c : Char) : Treatment :=
  if ignored.contains c then .dropped
  else if refused.contains c then .refused
  else match moved.find? c with
    | some target => .replaced [target]
    | none =>
      match spelled.find? c with
      | some spelling => .replaced spelling
      | none => .kept

/-- The characters that stand for those of a name, if none is refused. -/
def mapChars? : List Char → Option (List Char)
  | [] => some []
  | c :: rest =>
    match treatment c with
    | .kept => (mapChars? rest).map (c :: ·)
    | .replaced spelling => (mapChars? rest).map (spelling ++ ·)
    | .dropped => mapChars? rest
    | .refused => none

/-- The form of a name that is compared. -/
def normalForm? (name : List Char) : Option (List Char) := (mapChars? name).map Text.compose

/-- Whether a text is its own form already. -/
def isNormal (text : List Char) : Bool :=
  text.all (treatment · = .kept) && Text.compose text == text

end LoadHarness.Domain
