import LoadHarness.Text.Emoji
import LoadHarness.Text.Ligature

/-! How many columns a text takes on a terminal.

A text is measured from its end, one character after another, and what follows a
character decides with it: a selector makes it a picture or takes the picture
away, and a picture or a letter behind it may be part of the same sign. -/

namespace LoadHarness.Text

/-- How a selector wants the character before it. -/
inductive Style where
  | text
  | picture
  /-- As wide as an ideograph. -/
  | wide
deriving DecidableEq, Repr

/-- What follows a character, as far as it matters for its columns. -/
inductive Following where
  /-- Nothing that matters. -/
  | nothing
  | lineEnd
  | selector (style : Style)
  | emoji (part : Emoji)
  /-- A letter of a ligature, with a joiner before it or none, and with a selector or none. -/
  | letter (last : Ligature) (joined : Bool) (style : Option Style)
  /-- A Kirat Rai vowel sign that other signs compose with: one e, or two. -/
  | vowel (double : Bool)
deriving DecidableEq, Repr

namespace Following

/-- The columns that are held back until the character before is known. -/
def held : Following → Nat
  | emoji part => part.held
  | letter last _ _ => last.held
  | nothing | lineEnd | selector _ | vowel _ => 0

/-- What the selector wants that comes first. -/
def style : Following → Option Style
  | selector style => some style
  | emoji .selected => some .picture
  | letter _ _ style => style
  | _ => none

/-- The same without the selector. -/
def unstyled : Following → Following
  | selector _ | emoji .selected => nothing
  | letter last joined _ => letter last joined none
  | following => following

/-- The same with a selector before it. -/
def select (style : Style) : Following → Nat × Following
  | letter last joined _ => (0, letter last joined (some style))
  | emoji part =>
    if style = .picture ∧ (part = .joined ∨ part = .keycap) then (0, emoji .selected)
    else (part.held, selector style)
  | _ => (0, selector style)

/-- A character that is part of the sign behind it: the columns it adds, and what follows the
character before it. -/
def join? (c : Char) : Following → Option (Nat × Following)
  | emoji part => (part.join? c).map fun (columns, part) => (columns, emoji part)
  | letter last joined _ =>
    match last.join? joined c with
    | some (some last) => some (0, letter last false none)
    | some none => some (0, nothing)
    | none =>
      if last.passes c then some (0, letter last (joined || c == Ligature.joiner) none) else none
  | vowel false =>
    if c.toNat == 0x16D63 || c.toNat == 0x16D69 then some (0, nothing)
    else if c.toNat == 0x16D67 then some (0, vowel true)
    else if c.toNat == 0x16D68 then some (1, vowel false)
    else none
  | vowel true => if c.toNat == 0x16D63 then some (0, nothing) else none
  | nothing | lineEnd | selector _ => none

/-- What a character is that begins a new sign, and the columns that are certain of it. -/
def ofChar (c : Char) : Nat × Following :=
  if Emoji.isIndicator c then (1, emoji .indicator)
  else if Emoji.isSkinTone c then (2, emoji .skinTone)
  else if pictures.contains c then (2, emoji .picture)
  else if c.toNat == 0x16D67 then (1, vowel false)
  else if c.toNat == 0x16D68 then (1, vowel true)
  else match Ligature.ofChar? c with
    | some last => (charWidth c - last.held, letter last false none)
    | none => (charWidth c, nothing)

end Following

/-- Whether a selector can take the picture away from a character. -/
def isTextSelectable (c : Char) : Bool :=
  selectable.contains c && pictures.contains c && !(0x1F200 ≤ c.toNat && c.toNat ≤ 0x1F2FF)

/-- Quotation marks, which a selector can make as wide as an ideograph. -/
def isQuotation (c : Char) : Bool := c == '‘' || c == '’' || c == '“' || c == '”'

/-- A character behind which no selector for a picture stands. -/
def measureUnselected (c : Char) (following : Following) : Nat × Following :=
  if c == '\n' then (following.held + 1, .lineEnd)
  else if c == '\x0d' && following = .lineEnd then (0, .nothing)
  else if c.toNat ≤ 0xA0 then (following.held + 1, .nothing)
  else if c == '\uFE0F' then following.select .picture
  else if c == '\uFE0E' then following.select .text
  else if c == '\uFE01' then following.select .wide
  else if following.style = some .text ∧ isTextSelectable c then (following.held + 1, .nothing)
  else if following.style = some .wide ∧ isQuotation c then (following.held + 2, .nothing)
  else match following.unstyled.join? c with
    | some result => result
    | none => (following.held + (Following.ofChar c).1, (Following.ofChar c).2)

/-- A character before what follows it: the columns that it makes certain, and what follows the
character before it. -/
def measure (c : Char) (following : Following) : Nat × Following :=
  if c == ' ' then (following.held + 1, .nothing)
  else if following.style = some .picture then
    if selectable.contains c then
      (if following = .emoji .selected then 0 else following.held + 2, .emoji .picture)
    else measureUnselected c following.unstyled
  else measureUnselected c following

/-- The columns of a text before what follows it, and what follows the character before it. -/
def measureAll (following : Following) : List Char → Nat × Following
  | [] => (0, following)
  | c :: rest =>
    let (columns, following) := measureAll following rest
    (columns + (measure c following).1, (measure c following).2)

/-- The columns of a text. -/
def width (text : List Char) : Nat :=
  let (columns, following) := measureAll .nothing text
  columns + following.held

end LoadHarness.Text
