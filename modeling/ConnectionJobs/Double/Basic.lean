/-!
# Double-precision numbers

Opaque payloads may hold numbers with a fraction. They are kept as IEEE 754 double-precision values, because
that is what they were when they were stored, and because a payload must come out of a job document exactly
as it went in. A double is its three bit fields; everything else about it is exact arithmetic on naturals.
-/

namespace ConnectionJobs

/-- **A double-precision number**: its sign bit, its eleven exponent bits and its fifty-two fraction bits.
An exponent field of zero marks zero and the subnormal numbers, one of 2047 marks infinities and NaNs. -/
structure Double where
  /-- The sign bit. -/
  negative : Bool
  /-- The exponent field. -/
  exponent : Fin 2048
  /-- The fraction field. -/
  fraction : Fin 4503599627370496
  deriving DecidableEq, Repr, Inhabited

namespace Double

/-- The double with given fields, each taken to its number of bits. -/
def ofFields (negative : Bool) (exponent fraction : Nat) : Double :=
  ⟨negative, Fin.ofNat 2048 exponent, Fin.ofNat 4503599627370496 fraction⟩

/-- Zero, with a sign. -/
def zero (negative : Bool) : Double := ⟨negative, 0, 0⟩

/-- Infinity, with a sign. -/
def infinity (negative : Bool) : Double := ⟨negative, 2047, 0⟩

/-- The quiet NaN. -/
def nan : Double := ⟨false, 2047, 2251799813685248⟩

/-- **A finite number** is neither an infinity nor a NaN. -/
def isFinite (x : Double) : Bool := x.exponent.val != 2047

/-- A NaN. -/
def isNaN (x : Double) : Bool := x.exponent.val == 2047 && x.fraction.val != 0

/-- A zero of either sign. -/
def isZero (x : Double) : Bool := x.exponent.val == 0 && x.fraction.val == 0

/-- **The significand** of a finite number, as an integer. -/
def significand (x : Double) : Nat :=
  if x.exponent.val == 0 then x.fraction.val else 4503599627370496 + x.fraction.val

/-- **The scale** of a finite number: its magnitude is `significand * 2 ^ scale`. -/
def scale (x : Double) : Int :=
  if x.exponent.val == 0 then -1074 else (x.exponent.val : Int) - 1075

/-- The numerator of the magnitude of a finite number, as an exact fraction. -/
def numerator (x : Double) : Nat := x.significand * Nat.pow 2 x.scale.toNat

/-- The denominator of the magnitude of a finite number, as an exact fraction; a power of two. -/
def denominator (x : Double) : Nat := Nat.pow 2 (-x.scale).toNat

/-- **The integer part** of a finite number: its value without the fraction, rounded towards zero. -/
def integerPart (x : Double) : Int :=
  let n := x.numerator / x.denominator
  if x.negative then -(n : Int) else n

/-- A finite number without fraction. -/
def isInteger (x : Double) : Bool :=
  x.isFinite && x.numerator % x.denominator == 0

end Double

end ConnectionJobs
