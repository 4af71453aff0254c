import LoadHarness.Text.EmojiTable
import LoadHarness.Text.Marks

/-! How many columns a character takes that nothing around it changes. -/

namespace LoadHarness.Text

/-- Characters without a column of their own: vowel signs that extend what is before them,
characters that can be ignored, the Hangul letters that join the syllable before them, and signs
that enclose what follows. -/
@[irreducible] def columnless : CharSet := .ofText "
    AD 605 61C 70F 890-891 8E2 9BE 9D7 B3E B57 BBE BD7 CC0 CC2 CC7-CC8 CCA-CCB CD5-CD6 D3E D4E D57
    DCF DDF 1160-11FF 1715 1734 180E 1B35 1B3A-1B3D 1B42-1B44 1BAA 1BF2-1BF3 200B-200F 202A-202E
    2060-206F 302E-302F 3164 A8FA A953 A9C0 D7B0-D7C6 D7CB-D7FB FEFF FFA0 FFF0-FFF8 111C0
    111C2-111C3 11235 1133E 1134D 11357 113B8 113C2 113C5 113C7-113C9 113CF 113D1 114B0 114BD 115AF
    116B6 11930 1193D 1193F 11941 11A84-11A89 11D46 11F02 11F41 16FF0-16FF1 1BCA0-1BCA3 1D165-1D166
    1D16D-1D17A E0000-E00FF E01F0-E0FFF"

/-- Characters of East Asian scripts and signs that are as wide. -/
@[irreducible] def doubleWidth : CharSet := .ofText "
    1100-115F 17A4 2329-232A 2630-2637 268A-268F 2E80-2E99 2E9B-2EF3 2F00-2FD5 2FF0-3029 3030-303E
    3041-3096 309B-30FF 3105-312F 3131-3163 3165-318E 3190-31E5 31EF-321E 3220-3247 3250-A48C
    A490-A4C6 A960-A97C AC00-D7A3 F900-FAFF FE10-FE19 FE30-FE52 FE54-FE66 FE68-FE6B FF01-FF60
    FFE0-FFE6 16FE0-16FE3 16FF2-16FF6 17000-18D1E 18D80-18DF2 18E00-19191 191A0-191FF 1AFF0-1AFF3
    1AFF5-1AFFB 1AFFD-1AFFE 1B000-1B12F 1B132 1B150-1B152 1B155 1B164-1B2FB 1D300-1D356 1D360-1D376
    1F200 1F202 1F210-1F219 1F21B-1F22E 1F230-1F231 1F237 1F23B 1F240-1F248 1F260-1F265 20000-2FFFD
    30000-3FFFD"

/-- Whether a character has no column of its own.  The sign that joins two Tifinagh consonants is a
mark with one. -/
def isColumnless (c : Char) : Bool :=
  columnless.contains c || (nonspacingMarks.contains c && c.toNat != 0x2D7F)

/-- The columns of one character.  Control characters take one like any other. -/
def charWidth (c : Char) : Nat :=
  if c.toNat ≤ 0xA0 then 1
  else if c.toNat == 0x17D8 then 3
  else if isColumnless c then 0
  else if doubleWidth.contains c || pictures.contains c then 2
  else 1

end LoadHarness.Text
