import LoadHarness.Text.EmojiTable

/-! Pictures of several characters, which take the columns of one.

A text is measured from its end, and so is a picture: a skin tone is met before
the person who has it, and the last of some joined pictures is the one that
takes columns. -/

namespace LoadHarness.Text

/-- What is known of a picture at one of its characters. -/
inductive Emoji where
  /-- It may begin here. -/
  | picture
  /-- It ends with a skin tone. -/
  | skinTone
  /-- A letter of a flag stands alone. -/
  | indicator
  /-- Letters of flags stand behind each other. -/
  | indicators
  /-- A joiner stands here, with a picture behind it. -/
  | joined
  /-- A keycap stands here, with a joiner and a picture behind it. -/
  | keycap
  /-- A selector stands here; behind it are a joiner and a picture, and perhaps a keycap. -/
  | selected
  /-- One letter of a flag stands before a joiner and a picture. -/
  | joinedIndicator
  /-- Whole flags stand before a joiner and a picture. -/
  | joinedFlag
  /-- Flags and a letter stand before a joiner and a picture. -/
  | joinedLetter
  /-- Letters of a region's code stand before a joiner and a picture. -/
  | region (letters : Nat)
  /-- The same, behind digits. -/
  | regionDigits (digits : Nat)
deriving DecidableEq, Repr

namespace Emoji

/-- Letters of flags. -/
def isIndicator (c : Char) : Bool := 0x1F1E6 ≤ c.toNat && c.toNat ≤ 0x1F1FF

def isSkinTone (c : Char) : Bool := 0x1F3FB ≤ c.toNat && c.toNat ≤ 0x1F3FF

/-- The columns that are held back: a letter takes one unless another makes a flag with it. -/
def held : Emoji → Nat
  | joinedIndicator | joinedLetter => 1
  | _ => 0

/-- A picture with one more character before it, and the columns that this adds, if the character
belongs to the picture. -/
def join? (part : Emoji) (c : Char) : Option (Nat × Emoji) :=
  let n := c.toNat
  let isJoiner := n == 0x200D
  let isLetter := 0xE0061 ≤ n && n ≤ 0xE007A
  let isDigit := 0xE0030 ≤ n && n ≤ 0xE0039
  let isFlag := n == 0x1F3F4
  match part with
  | picture => if isJoiner then some (0, joined) else none
  | skinTone =>
    if isJoiner then some (0, joined)
    else if modifierBases.contains c then some (0, picture)
    else none
  | indicator => if isIndicator c then some (1, indicators) else none
  | indicators =>
    if isJoiner then some (0, joined) else if isIndicator c then some (1, indicators) else none
  | joined =>
    if n == 0x20E3 then some (0, keycap)
    else if isIndicator c then some (0, joinedIndicator)
    else if isSkinTone c then some (0, skinTone)
    else if n == 0xE007F then some (0, region 0)
    else if pictures.contains c then some (0, picture)
    else none
  | keycap | selected => none
  | joinedIndicator => if isIndicator c then some (0, joinedFlag) else none
  | joinedFlag =>
    if isJoiner then some (0, joined) else if isIndicator c then some (2, joinedLetter) else none
  | joinedLetter =>
    if isJoiner then some (1, joined) else if isIndicator c then some (0, joinedFlag) else none
  | region letters =>
    if isLetter && letters < 6 then some (0, region (letters + 1))
    else if isDigit && letters ≤ 4 then some (0, regionDigits 1)
    else if isFlag && 3 ≤ letters then some (0, picture)
    else none
  | regionDigits digits =>
    if isDigit && digits < 3 then some (0, regionDigits (digits + 1))
    else if isFlag && digits == 3 then some (0, picture)
    else none

end Emoji

end LoadHarness.Text
