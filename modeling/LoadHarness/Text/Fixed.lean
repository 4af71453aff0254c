/-! Floats with a fixed number of decimal places.

A float is an exact binary fraction, and its text is that fraction rounded to
the nearest multiple of the last place, a tie going to the even one. -/

namespace LoadHarness.Text

/-- `num / den` rounded to the nearest whole number, a tie to the even one. -/
def roundDiv (num den : Nat) : Nat :=
  let quotient := num / den
  let rest := num % den
  if 2 * rest < den then quotient
  else if den < 2 * rest then quotient + 1
  else if quotient % 2 = 0 then quotient
  else quotient + 1

/-- What a finite float stands for: `mantissa * 2 ^ exponent`, with a sign that zero has too. -/
structure BinaryFraction where
  negative : Bool
  mantissa : Nat
  exponent : Int
deriving DecidableEq, Repr

/-- The binary fraction of a float, which an infinity and a NaN do not have. -/
def BinaryFraction.ofFloat? (x : Float) : Option BinaryFraction :=
  let bits := x.toBits.toNat
  let negative := bits / Nat.pow 2 63 == 1
  let biased : Nat := bits / Nat.pow 2 52 % Nat.pow 2 11
  let fraction : Nat := bits % Nat.pow 2 52
  if biased = 2047 then none
  else if biased = 0 then some ⟨negative, fraction, -1074⟩
  else some ⟨negative, Nat.pow 2 52 + fraction, (biased : Int) - 1075⟩

/-- The digits of `scaled / 10 ^ places`, with all its places. -/
def placed (places scaled : Nat) : String :=
  let digits := Nat.toDigits 10 (scaled % Nat.pow 10 places)
  toString (scaled / Nat.pow 10 places) ++ "." ++
    String.ofList (List.replicate (places - digits.length) '0' ++ digits)

/-- The text of a binary fraction with the given number of places. -/
def BinaryFraction.fixed (places : Nat) (x : BinaryFraction) : String :=
  let scaled :=
    if x.exponent < 0 then
      roundDiv (x.mantissa * Nat.pow 10 places) (Nat.pow 2 (-x.exponent).toNat)
    else x.mantissa * Nat.pow 2 x.exponent.toNat * Nat.pow 10 places
  (if x.negative then "-" else "") ++ placed places scaled

/-- The text of a float with the given number of places. -/
def fixed (places : Nat) (x : Float) : String :=
  match BinaryFraction.ofFloat? x with
  | some fraction => fraction.fixed places
  | none => if x.isNaN then "NaN" else if x < 0 then "-inf" else "inf"

end LoadHarness.Text
