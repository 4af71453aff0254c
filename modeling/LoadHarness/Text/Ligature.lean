import LoadHarness.Text.Columns
import LoadHarness.Text.Joining

/-! Letters that are one sign with the letters before them.

A text is measured from its end, and a ligature begins with its last letter.
Columns that a letter loses when another joins it are held back until the
character before it is known. -/

namespace LoadHarness.Text

/-- A letter that another one before it may join. -/
inductive Ligature where
  /-- An Arabic alef, behind a lam. -/
  | alef
  /-- A Hebrew lamed, behind an alef and a joiner. -/
  | lamed
  /-- An Old Turkic i, behind an ec and a joiner. -/
  | orkhonI
  /-- A Buginese ya, behind a vowel sign and a joiner. -/
  | ya
  /-- A Buginese ya with a vowel sign, behind an a. -/
  | vowelYa
  /-- A Khmer letter that stands below another one, behind the sign for that. -/
  | coengLetter
  /-- A Tifinagh consonant, behind another one and a joiner. -/
  | consonant
  /-- A Tifinagh consonant with the sign before it that joins it to another one. -/
  | joinedConsonant
  /-- The second of two Lisu tones. -/
  | tone
deriving DecidableEq, Repr

namespace Ligature

/-- Arabic alefs. -/
def alefs : CharSet := .ofText "622-623 625 627 671-673 675 773-774 870-882"

/-- Arabic lams. -/
def lams : CharSet := .ofText "644 6B5-6B8 76A 8A6 8C7"

/-- Khmer letters that can stand below another one. -/
def coengLetters : CharSet := .ofText "
    1780-1782 1784-1787 1789-178C 178E-1793 1795-1798 179B-179D 17A0 17A2 17A7 17AB-17AC 17AF"

/-- Tifinagh consonants. -/
def consonants : CharSet := .ofText "2D31-2D65 2D6F"

/-- Marks that nobody sees. -/
def unseenMarks : CharSet := .ofText "34F 17B4-17B5 180B-180D 180F FE00-FE0F E0100-E01EF"

/-- The character that joins what is before it to what is behind it. -/
def joiner : Char := '\u200D'

/-- The ligature that may end with a character. -/
def ofChar? (c : Char) : Option Ligature :=
  let n := c.toNat
  if alefs.contains c then some alef
  else if n == 0x5DC then some lamed
  else if n == 0x10C03 then some orkhonI
  else if n == 0x1A10 then some ya
  else if coengLetters.contains c then some coengLetter
  else if consonants.contains c then some consonant
  else if n == 0xA4FC || n == 0xA4FD then some tone
  else none

/-- The columns that are held back. -/
def held : Ligature → Nat
  | coengLetter | joinedConsonant => 1
  | alef | lamed | orkhonI | ya | vowelYa | consonant | tone => 0

/-- Whether a character may stand between the parts of a ligature. -/
def passes : Ligature → Char → Bool
  | alef, c => isColumnless c && isTransparent c
  | _, c => c == joiner || unseenMarks.contains c

/-- What a letter is with another one before it, if the two are one sign: the end of a longer
ligature, or a whole one.  `joined` tells whether a joiner stands between them. -/
def join? (letter : Ligature) (joined : Bool) (c : Char) : Option (Option Ligature) :=
  let n := c.toNat
  let whole (complete : Bool) : Option (Option Ligature) := if complete then some none else none
  match letter with
  | alef => whole (lams.contains c)
  | lamed => whole (joined && n == 0x5D0)
  | orkhonI => whole (joined && n == 0x10C32)
  | ya => if joined && n == 0x1A17 then some (some vowelYa) else none
  | vowelYa => whole (n == 0x1A15)
  | coengLetter => whole (n == 0x17D2)
  | consonant =>
    if n == 0x2D7F then some (some joinedConsonant) else whole (joined && consonants.contains c)
  | joinedConsonant => whole (consonants.contains c)
  | tone => whole (0xA4F8 ≤ n && n ≤ 0xA4FB)

end Ligature

end LoadHarness.Text
