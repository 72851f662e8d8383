import ConnectionJobs.Double.Shortest

/-!
# Writing doubles

One number, three written forms. Documents write it so that it stays a number with a fraction. Quantities
read from a document as numbers become text in positional notation, without an exponent and without an empty
fraction. Quantities that come from settings, and values shown in messages, use the general form, with an
exponent of at least two digits. The digits are the shortest ones in every form.
-/

namespace ConnectionJobs.Double

/-- A run of zeros. -/
def zeros (count : Nat) : List Char := List.replicate count '0'

/-- The digits with the decimal point after `position` of them, padded with zeros where the point lies
outside the digits. `keepFraction` asks for `.0` when no fraction is left. -/
def positional (keepFraction : Bool) (digits : List Char) (position : Int) : List Char :=
  if position ≤ 0 then
    '0' :: '.' :: zeros (-position).toNat ++ digits
  else
    let before := position.toNat
    if before < digits.length then digits.take before ++ '.' :: digits.drop before
    else digits ++ zeros (before - digits.length) ++ (if keepFraction then ['.', '0'] else [])

/-- The digits with a point after the first and an exponent of at least `width` digits. The sign of the
exponent is always written. -/
def scientific (width : Nat) (digits : List Char) (position : Int) : List Char :=
  let mantissa :=
    match digits with
    | [] => []
    | [d] => [d]
    | d :: rest => d :: '.' :: rest
  let exponent := position - 1
  let exponentDigits := Nat.toDigits 10 exponent.natAbs
  mantissa ++ 'e' :: (if exponent < 0 then '-' else '+') ::
    zeros (width - exponentDigits.length) ++ exponentDigits

/-- A magnitude with its sign. -/
def withSign (negative : Bool) (cs : List Char) : List Char :=
  if negative then '-' :: cs else cs

/-- The name of an infinity or a NaN, given what a NaN is called. -/
def specialName (nanName : String) (x : Double) : List Char :=
  if x.isNaN then nanName.toList else withSign x.negative "inf".toList

/-- The magnitude of a finite number, positional when its point position lies between the two bounds. -/
def magnitudeText (x : Double) (lowest highest : Int) (exponentWidth : Nat) : List Char :=
  let d := shortest .toEven x
  let position := d.pointPosition
  if x.isZero then ['0', '.', '0']
  else if lowest ≤ position && position ≤ highest then positional true d.digitChars position
  else scientific exponentWidth d.digitChars position

/-- **The form of a finite number in a document**: positional from `1e-5` up to `1e16`. -/
def documentText (x : Double) : List Char :=
  withSign x.negative (x.magnitudeText (-4) 16 1)

/-- **The general form**: positional from `1e-4` up to `1e16`, an exponent of at least two digits otherwise. -/
def generalText (x : Double) : String :=
  String.ofList <|
    if x.isFinite then withSign x.negative (x.magnitudeText (-3) 16 2) else x.specialName "nan"

/-- **The form of a quantity**: positional always, without an empty fraction; of two equally near decimals the
larger one. -/
def quantityText (x : Double) : String :=
  let d := shortest .awayFromZero x
  String.ofList <|
    if !x.isFinite then x.specialName "NaN"
    else if x.isZero then withSign x.negative ['0']
    else withSign x.negative (positional false d.digitChars d.pointPosition)

end ConnectionJobs.Double
