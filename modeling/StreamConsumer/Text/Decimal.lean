/-!
# Decimal text

Whole numbers in decimal digits, with and without a fixed width, and decimal fractions without trailing zeros.
-/

namespace StreamConsumer.Text

/-- The decimal digits of `n`, without leading zeros. -/
def digits (n : Nat) : List Char := Nat.toDigits 10 n

/-- The last `width` decimal digits of `n`. -/
def fixedDigits : (width : Nat) → Nat → List Char
  | 0, _ => []
  | width + 1, n => fixedDigits width (n / 10) ++ [Nat.digitChar (n % 10)]

/-- The decimal digits of `n`, with zeros in front up to `width` digits. -/
def atLeastDigits (width n : Nat) : List Char :=
  if (digits n).length < width then fixedDigits width n else digits n

/-- The decimal digits of the fraction `n / 10 ^ width` behind the point, without trailing zeros. -/
def fractionDigits : (width : Nat) → Nat → List Char
  | 0, _ => []
  | width + 1, n =>
    if n = 0 then [] else Nat.digitChar (n / 10 ^ width) :: fractionDigits width (n % 10 ^ width)

/-- The number `whole + fraction / 10 ^ width` in the fewest digits that write it exactly. -/
def decimal (whole fraction width : Nat) : List Char :=
  digits whole ++ if fraction = 0 then [] else '.' :: fractionDigits width fraction

end StreamConsumer.Text
