/-! Bytes read as text.

A byte below 128 is a character by itself.  Any other character has a lead byte,
which says how many tail bytes follow and which values the first of them may
have.  A lead byte whose tail is broken off counts, with the tail bytes that it
has, as one malformed sequence; so does every byte that cannot lead.  `decode`
writes the replacement character for each. -/

namespace LoadHarness.Text.Utf8

/-- What stands for bytes that are no character. -/
def replacement : Char := '\uFFFD'

/-- What a lead byte asks for. -/
structure Lead where
  /-- How many tail bytes follow. -/
  count : Nat
  /-- The least and the greatest value of the first of them. -/
  low : UInt8
  high : UInt8
  /-- What the lead byte itself adds to the number of the character. -/
  payload : Nat
deriving DecidableEq, Repr

/-- What a byte asks for, if it can lead. -/
def lead? (byte : UInt8) : Option Lead :=
  if byte < 0xC2 then none
  else if byte < 0xE0 then some ⟨1, 0x80, 0xBF, byte.toNat - 0xC0⟩
  else if byte == 0xE0 then some ⟨2, 0xA0, 0xBF, 0⟩
  else if byte == 0xED then some ⟨2, 0x80, 0x9F, 0xD⟩
  else if byte < 0xF0 then some ⟨2, 0x80, 0xBF, byte.toNat - 0xE0⟩
  else if byte == 0xF0 then some ⟨3, 0x90, 0xBF, 0⟩
  else if byte < 0xF4 then some ⟨3, 0x80, 0xBF, byte.toNat - 0xF0⟩
  else if byte == 0xF4 then some ⟨3, 0x80, 0x8F, 4⟩
  else none

/-- The tail bytes at the front, at most `count`, the first of them between `low` and `high`. -/
def tail : (count : Nat) → (low high : UInt8) → List UInt8 → List UInt8
  | count + 1, low, high, byte :: rest =>
    if low ≤ byte && byte ≤ high then byte :: tail count 0x80 0xBF rest else []
  | _, _, _, _ => []

/-- The character with this payload in its lead byte and these tail bytes. -/
def character (payload : Nat) (bytes : List UInt8) : Char :=
  Char.ofNat (bytes.foldl (fun n byte => 64 * n + byte.toNat % 64) payload)

/-- The text of some bytes. -/
def decode : List UInt8 → List Char
  | [] => []
  | byte :: rest =>
    if byte < 0x80 then Char.ofNat byte.toNat :: decode rest
    else match lead? byte with
      | none => replacement :: decode rest
      | some lead =>
        let bytes := tail lead.count lead.low lead.high rest
        (if bytes.length = lead.count then character lead.payload bytes else replacement) ::
          decode (rest.drop bytes.length)
termination_by bytes => bytes.length
decreasing_by all_goals simp only [List.length_drop, List.length_cons]; omega

/-- Everything taken into a tail stands at the front of the bytes. -/
theorem tail_isPrefix (count : Nat) (low high : UInt8) (bytes : List UInt8) :
    tail count low high bytes <+: bytes := by
  induction bytes generalizing count low high with
  | nil => cases count <;> simp [tail]
  | cons byte rest ih =>
    cases count with
    | zero => simp [tail]
    | succ count =>
      rw [tail]
      split
      · exact List.cons_prefix_cons.2 ⟨rfl, ih count 0x80 0xBF⟩
      · simp

end LoadHarness.Text.Utf8
