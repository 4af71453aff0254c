/-! Labels outside ASCII, written with the letters and digits of ASCII.

What a label has of ASCII is written first, as it stands, with a hyphen behind
it.  The other characters follow in the order of their code points, each as the
distance from the one before it: a step for every place in the label and for
every code point in between.  Distances are numbers in base 36 whose last digit
is told by its size; how large it may be at each place is set by a bias that
follows the distances seen so far. -/

namespace LoadHarness.Domain.Punycode

/-- The largest number that is counted up to. -/
def maxCount : Nat := 4294967295

/-! ## Numbers -/

/-- The character of a digit: letters first, then the digits of ASCII. -/
def digitChar (d : Nat) : Char :=
  if d < 26 then Char.ofNat ('a'.toNat + d) else Char.ofNat ('0'.toNat + (d - 26))

/-- The value of a digit. -/
def digitValue? (c : Char) : Option Nat :=
  if 'a' ≤ c ∧ c ≤ 'z' then some (c.toNat - 'a'.toNat)
  else if c.isDigit then some (c.toNat - '0'.toNat + 26)
  else none

/-- A digit below this one is the last of its number. -/
def threshold (bias place : Nat) : Nat :=
  if place ≤ bias then 1 else if bias + 26 ≤ place then 26 else place - bias

theorem threshold_pos (bias place : Nat) : 0 < threshold bias place := by
  unfold threshold
  split <;> (try split) <;> omega

/-- Divide by 35 until little is left: what is left, and 36 for each division. -/
def shrink (delta total : Nat) : Nat × Nat :=
  if 455 < delta then shrink (delta / 35) (total + 36) else (delta, total)
termination_by delta
decreasing_by exact Nat.div_lt_self (by omega) (by omega)

/-- The bias after a distance, which led to a label of `count` characters. -/
def adapt (delta count : Nat) (first : Bool) : Nat :=
  let delta := if first then delta / 700 else delta / 2
  let (delta, total) := shrink (delta + delta / count) 0
  total + 36 * delta / (delta + 38)

/-- The digits of a number. -/
def writeNumber (bias place n : Nat) : List Char :=
  let t := threshold bias place
  if n < t then [digitChar n]
  else digitChar (t + (n - t) % (36 - t)) :: writeNumber bias (place + 36) ((n - t) / (36 - t))
termination_by n
decreasing_by
  have := threshold_pos bias place
  exact Nat.lt_of_le_of_lt (Nat.div_le_self _ _) (by omega)

/-- Read a number and add it to `value`; `weight` is what the next digit counts.  The text behind it
is left. -/
def readNumber? (bias : Nat) : (place weight value : Nat) → List Char → Option (Nat × List Char)
  | _, _, _, [] => none
  | place, weight, value, c :: rest =>
    match digitValue? c with
    | none => none
    | some d =>
      let t := threshold bias place
      if maxCount < value + d * weight then none
      else if d < t then some (value + d * weight, rest)
      else if maxCount < weight * (36 - t) then none
      else readNumber? bias (place + 36) (weight * (36 - t)) (value + d * weight) rest

theorem length_of_readNumber? {bias place weight value n : Nat} {text rest : List Char}
    (h : readNumber? bias place weight value text = some (n, rest)) :
    rest.length < text.length := by
  induction text generalizing place weight value with
  | nil => simp [readNumber?] at h
  | cons c tail ih =>
    rw [readNumber?] at h
    split at h
    · simp at h
    · simp only at h
      split at h
      · simp at h
      · split at h
        · simp only [Option.some.injEq, Prod.mk.injEq] at h
          rw [← h.2]
          simp
        · split at h
          · simp at h
          · exact Nat.lt_succ_of_lt (ih h)

/-! ## Labels -/

/-- How far a label is written or read. -/
structure Progress where
  /-- The code point whose turn it is. -/
  code : Nat
  bias : Nat
  /-- How far it is from the last distance. -/
  delta : Nat
  /-- How many characters are done. -/
  count : Nat

/-- The progress when the characters of ASCII are done. -/
def Progress.start (count : Nat) : Progress := ⟨128, 72, 0, count⟩

/-- Go by a character of the label: it is a step, or the distance to it is written. -/
def writeChar (basic : Nat) (state : List Char × Progress) (c : Char) : List Char × Progress :=
  let (text, progress) := state
  if c.toNat < progress.code then (text, { progress with delta := progress.delta + 1 })
  else if c.toNat = progress.code then
    (text ++ writeNumber progress.bias 36 progress.delta,
      { progress with
        bias := adapt progress.delta (progress.count + 1) (progress.count == basic)
        delta := 0
        count := progress.count + 1 })
  else (text, progress)

/-- Write the characters with a code point, wherever they stand. -/
def writeCode (label : List Char) (basic : Nat) (state : List Char × Progress) (code : Nat) :
    List Char × Progress :=
  let (text, progress) := state
  let steps := (code - progress.code) * (progress.count + 1)
  let (text, progress) := label.foldl (writeChar basic)
    (text, { progress with code := code, delta := progress.delta + steps })
  (text, { progress with code := code + 1, delta := progress.delta + 1 })

/-- Put a number in its place in a list of different numbers. -/
def insertCode (code : Nat) : List Nat → List Nat
  | [] => [code]
  | head :: rest =>
    if code < head then code :: head :: rest
    else if code = head then head :: rest
    else head :: insertCode code rest

def isAscii (c : Char) : Bool := c.toNat < 128

/-- A label in ASCII. -/
def encode (label : List Char) : List Char :=
  let basic := label.filter isAscii
  let codes := (label.filter (!isAscii ·)).foldr (fun c => insertCode c.toNat) []
  let start := if basic.isEmpty then [] else basic ++ ['-']
  (codes.foldl (writeCode label basic.length) (start, .start basic.length)).1

/-- Read the distances and put the characters in. -/
def readCodes? (label : List Char) (progress : Progress) (text : List Char) :
    Option (List Char) :=
  if text = [] then some label
  else
    match _h : readNumber? progress.bias 36 1 progress.delta text with
    | none => none
    | some (value, rest) =>
      let count := progress.count + 1
      let code := progress.code + value / count
      if code.isValidChar then
        readCodes? (label.insertIdx (value % count) (Char.ofNat code))
          { code := code
            bias := adapt (value - progress.delta) count (progress.delta == 0)
            delta := value % count + 1
            count := count }
          rest
      else none
termination_by text.length
decreasing_by exact length_of_readNumber? _h

/-- The label that a text writes in ASCII.  A hyphen at the very front divides nothing. -/
def decode? (text : List Char) : Option (List Char) :=
  let distances := (text.reverse.takeWhile (· != '-')).reverse
  let basic := text.take (text.length - distances.length - 1)
  if basic.isEmpty then readCodes? [] (.start 0) text
  else readCodes? basic (.start basic.length) distances

end LoadHarness.Domain.Punycode
