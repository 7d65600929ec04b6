/-! # Rounding to binary numbers

A number written with a fraction or an exponent counts as the nearest binary number: one of 53
significant bits, none of them below `2 ^ -1074`. Such a number is kept as how often it holds that
least unit, so that rounding is a division of natural numbers. -/

namespace SqlStyle.Binary

/-- The quotient rounded to the nearest natural number, a half to the even neighbour. -/
def divideToEven (n d : Nat) : Nat :=
  let q := n / d
  let twice := 2 * (n % d)
  if d < twice then q + 1 else if twice = d then q + q % 2 else q

/-- How many least units make one. -/
def oneUnits : Nat := Nat.pow 2 1074

/-- The least number of units that is out of range. -/
def limitUnits : Nat := Nat.pow 2 2098

/-- The units of the binary number nearest to a fraction. What has more than 53 bits is rounded to a
multiple of the power of two that leaves 53. -/
def nearest (numerator denominator : Nat) : Nat :=
  let units := numerator * oneUnits
  let grain := Nat.pow 2 (Nat.log2 (units / denominator) - 52)
  divideToEven units (denominator * grain) * grain

end SqlStyle.Binary
