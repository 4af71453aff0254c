import LoadHarness.Text.CompositionTable

/-! Texts in composed form, in which a letter and its marks are one character where there is one.

A text is taken apart first, then the marks of each letter are put in order, and
last each letter takes in the marks that it has a character with.  Characters
that always give way to others, such as the sign for ångström, stay as they are;
the rule is for texts that have none. -/

namespace LoadHarness.Text

/-! ## Hangul syllables

A syllable has a leading consonant, a vowel and perhaps a trailing consonant; the syllables stand in
the order of these. -/

/-- The leading consonant, vowel and trailing consonant of a syllable. -/
def decomposeSyllable? (c : Char) : Option (List Char) :=
  let n := c.toNat
  if 0xAC00 ≤ n ∧ n ≤ 0xD7A3 then
    let place := n - 0xAC00
    let trailing := if place % 28 = 0 then [] else [Char.ofNat (0x11A7 + place % 28)]
    some (Char.ofNat (0x1100 + place / 588) :: Char.ofNat (0x1161 + place % 588 / 28) :: trailing)
  else none

/-- The syllable of a consonant or a syllable with what is behind it. -/
def composeSyllable? (first second : Char) : Option Char :=
  let a := first.toNat
  let b := second.toNat
  if 0x1100 ≤ a ∧ a ≤ 0x1112 ∧ 0x1161 ≤ b ∧ b ≤ 0x1175 then
    some (Char.ofNat (0xAC00 + ((a - 0x1100) * 21 + (b - 0x1161)) * 28))
  else if 0xAC00 ≤ a ∧ a ≤ 0xD7A3 ∧ (a - 0xAC00) % 28 = 0 ∧ 0x11A8 ≤ b ∧ b ≤ 0x11C2 then
    some (Char.ofNat (a + (b - 0x11A7)))
  else none

/-! ## Letters and marks -/

/-- What a character is the same as. -/
def decomposeChar (c : Char) : List Char :=
  ((decomposeSyllable? c).or (composites.find? c)).getD [c]

/-- The character that two others are the same as. -/
def composePair? (first second : Char) : Option Char :=
  (composeSyllable? first second).or (composites.unspell? (decomposeChar first ++ [second]))

/-- The place of a character among the marks of a letter, which is zero for letters. -/
def markOrder (c : Char) : Nat := markOrders.get c

/-- Put a mark in its place before marks that are in order. -/
def insertMark (mark : Char) : List Char → List Char
  | [] => [mark]
  | c :: rest =>
    if 0 < markOrder c ∧ markOrder c < markOrder mark then c :: insertMark mark rest
    else mark :: c :: rest

/-- Put the marks of each letter in order. -/
def sortMarks (text : List Char) : List Char :=
  text.foldr (fun c rest => if markOrder c = 0 then c :: rest else insertMark c rest) []

/-- Let a letter take in what follows.  The marks that it could not take in, the last of them
first, keep those of their own place away from it. -/
def composeFrom (letter : Char) (marks : List Char) : List Char → List Char
  | [] => letter :: marks.reverse
  | c :: rest =>
    let reaches := match marks with
      | [] => true
      | last :: _ => markOrder last < markOrder c
    match if reaches then composePair? letter c else none with
    | some both => composeFrom both marks rest
    | none =>
      if markOrder c = 0 then letter :: marks.reverse ++ composeFrom c [] rest
      else composeFrom letter (c :: marks) rest

/-- The composed form of a text. -/
def compose (text : List Char) : List Char :=
  match sortMarks (text.flatMap decomposeChar) with
  | [] => []
  | c :: rest => composeFrom c [] rest

end LoadHarness.Text
