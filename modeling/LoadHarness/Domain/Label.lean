import LoadHarness.Domain.Direction
import LoadHarness.Domain.Mapping
import LoadHarness.Domain.Punycode
import LoadHarness.Text.Joining
import LoadHarness.Text.Search

/-! Names with characters of any script: what their labels may look like, and how ASCII writes them.

A label may not begin with a mark.  It may have a joiner or a non-joiner behind
a virama, and a non-joiner between two letters that would join without it. -/

namespace LoadHarness.Domain

/-! ## Joiners -/

/-- The place in the order of marks that viramas have. -/
def viramaOrder : Nat := 9

/-- Whether the first character that keeps letters apart is a letter of some kind. -/
def meets (isLetter : Char → Bool) (text : List Char) : Bool :=
  match text.dropWhile fun c => Text.isTransparent c && !isLetter c with
  | [] => false
  | c :: _ => isLetter c

/-- Whether every joiner stands where it may; `before` is what stands before the text, the last
character first. -/
def joinersFit (before : List Char) : List Char → Bool
  | [] => true
  | c :: rest =>
    let behindVirama := match before with
      | [] => false
      | last :: _ => Text.markOrder last = viramaOrder
    let fits :=
      if c = '\u200D' then behindVirama
      else if c = '\u200C' then
        behindVirama || (meets Text.joinsNext before && meets Text.joinsPrevious rest)
      else true
    fits && joinersFit (c :: before) rest

/-! ## Forms -/

/-- The longest label that is written in ASCII, and the longest that is read from it. -/
def maxWritten : Nat := 1000

def maxRead : Nat := 2000

/-- Whether a label may be part of a name. -/
def isLabel (label : List Char) : Bool :=
  !(label.head?.any Text.isMark) && joinersFit [] label &&
    (label.all Punycode.isAscii || label.length ≤ maxWritten)

/-- What a label begins with that writes another one in ASCII. -/
def asciiMark : List Char := "xn--".toList

/-- The label that a label of a mapped name stands for. -/
def readLabel? (label : List Char) : Option (List Char) :=
  if asciiMark.isPrefixOf label then
    let code := label.drop asciiMark.length
    if code.all Punycode.isAscii && code.getLast?.any (· != '-') && code.length ≤ maxRead then
      (Punycode.decode? code).bind fun label => if isNormal label then some label else none
    else none
  else some label

/-- A label in ASCII. -/
def writeLabel (label : List Char) : List Char :=
  if label.all Punycode.isAscii then label else asciiMark ++ Punycode.encode label

/-! ## Names -/

/-- The name in ASCII that a name stands for, if it is one and has no forbidden character. -/
def toAscii? (forbidden : Char → Bool) (name : List Char) : Option (List Char) := do
  let name ← normalForm? name
  if name.any forbidden then none
  let labels ← (Text.splitOnChar '.' name).mapM readLabel?
  if labels.all isLabel && areDirected labels then
    return ['.'].intercalate (labels.map writeLabel)
  else none

end LoadHarness.Domain
