import ConnectionJobs.Double.Basic

/-!
# The double nearest to a number

A decimal numeral denotes an exact rational number; reading it means choosing the double nearest to that
number, and of two equally near ones the one with an even significand. Magnitudes beyond the largest double
become infinite. All of it is exact: the quotient is taken on naturals, and the remainder decides the rounding.
-/

namespace ConnectionJobs

/-- The quotient rounded to the nearest natural, ties to even. -/
def roundedQuotient (numerator denominator : Nat) : Nat :=
  let q := numerator / denominator
  let r := numerator % denominator
  if 2 * r < denominator then q
  else if 2 * r > denominator then q + 1
  else if q % 2 == 0 then q
  else q + 1

namespace Double

/-- The double with a given significand and scale, where the significand is at most `2 ^ 53` and is less
than `2 ^ 52` only at the smallest scale. A significand of `2 ^ 53`, which rounding up may give, moves to the next scale. -/
def assemble (negative : Bool) (significand : Nat) (scale : Int) : Double :=
  let (m, q) :=
    if significand ≥ 9007199254740992 then (significand / 2, scale + 1) else (significand, scale)
  let field := (q + 1075).toNat
  if m < 4503599627370496 then ofFields negative 0 m
  else if field ≥ 2047 then infinity negative
  else ofFields negative field (m - 4503599627370496)

/-- The quotient `numerator / (denominator * 2 ^ scale)` as a fraction of naturals. -/
def scaledFraction (numerator denominator : Nat) (scale : Int) : Nat × Nat :=
  (numerator * Nat.pow 2 (-scale).toNat, denominator * Nat.pow 2 scale.toNat)

/-- The scale at which a positive fraction has a significand of fifty-three bits, or the smallest scale when
that is not reached. -/
def scaleFor (numerator denominator : Nat) : Int :=
  let estimate : Int := (numerator.log2 : Int) - (denominator.log2 : Int) - 53
  let (n, d) := scaledFraction numerator denominator estimate
  let fitting := if n / d < 9007199254740992 then estimate else estimate + 1
  max fitting (-1074)

/-- **The double nearest** to `numerator / denominator`, ties to even. -/
def nearest (negative : Bool) (numerator denominator : Nat) : Double :=
  if numerator == 0 then zero negative
  else
    let scale := scaleFor numerator denominator
    let (n, d) := scaledFraction numerator denominator scale
    assemble negative (roundedQuotient n d) scale

/-- **The double nearest to a decimal numeral** `digits * 10 ^ exponent`. A numeral too large or too small
for any finite non-zero double is settled by its number of digits, without computing the power. -/
def ofDecimal (negative : Bool) (digits : Nat) (exponent : Int) : Double :=
  if digits == 0 then zero negative
  else
    let magnitude := (Nat.toDigits 10 digits).length + exponent
    if magnitude > 310 then infinity negative
    else if magnitude < -330 then zero negative
    else nearest negative (digits * Nat.pow 10 exponent.toNat) (Nat.pow 10 (-exponent).toNat)

end Double

end ConnectionJobs
