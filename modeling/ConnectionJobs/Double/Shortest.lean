import ConnectionJobs.Double.Nearest

/-!
# The shortest decimal of a double

A double is written with the fewest significant digits that still read back as the same double, and among
those with the digits nearest to its exact value. Two of them can be equally near; which one is taken is a
decision of the written form. The search is over the number of digits: for each, the two
decimals around the exact value are the only candidates, and a candidate counts when *reading it gives the
number back*. Every double is its own exact decimal in the end, so the search cannot fail.
-/

namespace ConnectionJobs

/-- **A decimal**: a digit sequence, as a natural number, times a power of ten. -/
structure Decimal where
  /-- The digits, as a number. -/
  digits : Nat
  /-- The power of ten that scales them. -/
  exponent : Int
  deriving DecidableEq, Repr, Inhabited

namespace Decimal

/-- The digits as characters, most significant first. -/
def digitChars (d : Decimal) : List Char := Nat.toDigits 10 d.digits

/-- **The position of the decimal point**: the number of digits before it, when the decimal is written
without exponent; negative or zero when zeros follow the point. -/
def pointPosition (d : Decimal) : Int := d.digitChars.length + d.exponent

end Decimal

namespace Double

/-- The number of digits before the decimal point of a positive fraction, as `Decimal.pointPosition` counts. -/
def pointPositionOf (numerator denominator : Nat) : Int :=
  let estimate : Int := (Nat.toDigits 10 numerator).length - (Nat.toDigits 10 denominator).length
  if numerator * Nat.pow 10 (-estimate).toNat ≥ denominator * Nat.pow 10 estimate.toNat then estimate + 1
  else estimate

/-- The decimal reads back as the number. -/
def readsAs (x : Double) (d : Decimal) : Bool :=
  ofDecimal x.negative d.digits d.exponent == x

/-- **What settles a tie** between the two decimals around a number. -/
inductive Tie where
  /-- The one with an even last digit. -/
  | toEven
  /-- The larger magnitude. -/
  | awayFromZero
  deriving DecidableEq, Repr, Inhabited

/-- The decimal above is preferred in a tie, when the one below has these digits. -/
def Tie.prefersUpper (tie : Tie) (below : Nat) : Bool :=
  match tie with
  | .toEven => below % 2 == 1
  | .awayFromZero => true

/-- **The decimal with `count` digits** that reads back as the number, if there is one; the nearer of the two
candidates when both do, the one that `tie` prefers when they are equally near. When the candidate above is
a power of ten it has a single digit. -/
def decimalWith? (tie : Tie) (x : Double) (count : Nat) : Option Decimal :=
  let n := x.numerator
  let d := x.denominator
  let exponent := pointPositionOf n d - count
  let scaledNumerator := n * Nat.pow 10 (-exponent).toNat
  let scaledDenominator := d * Nat.pow 10 exponent.toNat
  let below := scaledNumerator / scaledDenominator
  let remainder := scaledNumerator % scaledDenominator
  let lower : Decimal := ⟨below, exponent⟩
  let upper : Decimal := if below + 1 == Nat.pow 10 count then ⟨1, exponent + count⟩ else ⟨below + 1, exponent⟩
  let preferUpper :=
    2 * remainder > scaledDenominator || (2 * remainder == scaledDenominator && tie.prefersUpper below)
  let first := if preferUpper then upper else lower
  let second := if preferUpper then lower else upper
  if x.readsAs first then some first
  else if x.readsAs second then some second
  else none

/-- The exact decimal of a finite number: dividing by a power of two is multiplying by a power of five and
shifting the decimal point. -/
def exactDecimal (x : Double) : Decimal :=
  let shift := (-x.scale).toNat
  ⟨x.numerator * Nat.pow 5 shift, -(shift : Int)⟩

/-- Search the shortest decimal with `count` digits or more, trying `fuel` lengths. -/
def shortestFrom (tie : Tie) (x : Double) : Nat → Nat → Decimal
  | 0, _ => x.exactDecimal
  | fuel + 1, count =>
    match decimalWith? tie x count with
    | some d => d
    | none => shortestFrom tie x fuel (count + 1)

/-- **The shortest decimal** of the magnitude of a finite number. -/
def shortest (tie : Tie) (x : Double) : Decimal :=
  if x.isZero then ⟨0, 0⟩ else shortestFrom tie x 17 1

end Double

end ConnectionJobs
