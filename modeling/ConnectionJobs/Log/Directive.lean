import ConnectionJobs.Double.Nearest
import ConnectionJobs.Json.Shown
import ConnectionJobs.Text.Blank
import ConnectionJobs.Text.Surrogate

/-!
# Directives

A *directive* of a message template says how one argument is written: a letter for the form, and flags, a width
and a precision for the details. A directive is only written here; how it is spelled in a template, and which
argument it gets, is the business of the template.

The forms of doubles are exact: the digits come from one division of naturals, rounded to nearest with ties to
even, so that a precision of any size shows the digits that are there.
-/

namespace ConnectionJobs.Log

/-- **What does not fit** between a template and its arguments. -/
inductive TemplateProblem where
  /-- An argument is missing, superfluous or of the wrong kind. -/
  | argument (message : String)
  /-- The template itself is malformed, or an argument has no such form. -/
  | template (message : String)
  /-- The table of arguments has no such key. -/
  | key (name : String)
  /-- A number is too large for its form. -/
  | overflow (message : String)
  /-- The text would be too long to be written at all. -/
  | memory
  deriving DecidableEq, Repr

/-- The message of a problem. -/
def TemplateProblem.message : TemplateProblem → String
  | argument message | template message | overflow message => message
  | key name => Text.quoted name
  | memory => ""

/-- **A directive**, its width and precision settled. -/
structure Directive where
  /-- The flags before the width. -/
  flags : List Char
  /-- The least number of characters. -/
  width : Nat
  /-- The precision, when there is one. -/
  precision : Option Nat
  /-- The letter. -/
  letter : Char
  /-- The position of the letter in the template. -/
  position : Nat
  deriving DecidableEq, Repr, Inhabited

/-! ## Filling -/

/-- The longest text that is written. -/
def longestText : Nat := 4294967296

/-- The number of characters missing to a width; it fails when the text would be too long. -/
def missingTo (width length : Nat) : Except TemplateProblem Nat :=
  if width > length && width > longestText then .error .memory else .ok (width - length)

/-- A number from its sign, mark and digits, filled up to the width: with zeros after the mark, or with
blanks on either side. -/
def Directive.fillNumber (d : Directive) (sign mark digits : List Char) :
    Except TemplateProblem (List Char) := do
  let missing ← missingTo d.width (sign ++ mark ++ digits).length
  if d.flags.contains '-' then return sign ++ mark ++ digits ++ List.replicate missing ' '
  else if d.flags.contains '0' then return sign ++ mark ++ List.replicate missing '0' ++ digits
  else return List.replicate missing ' ' ++ sign ++ mark ++ digits

/-- A text filled up to the width with blanks. -/
def Directive.fillText {α : Type} (d : Directive) (blank : α) (text : List α) : Except TemplateProblem (List α) := do
  let missing ← missingTo d.width text.length
  if d.flags.contains '-' then return text ++ List.replicate missing blank
  else return List.replicate missing blank ++ text

/-- The sign of a number, by the flags. -/
def Directive.signOf (d : Directive) (negative : Bool) : List Char :=
  if negative then ['-'] else if d.flags.contains '+' then ['+'] else if d.flags.contains ' ' then [' '] else []

/-- A text cut to the precision and filled up to the width. -/
def Directive.writeText (d : Directive) (cs : List Char) : Except TemplateProblem (List Char) :=
  d.fillText ' ' (match d.precision with
    | some p => cs.take p
    | none => cs)

/-- A text with every character beyond ASCII escaped. -/
def asciiShown (s : String) : List Char :=
  s.toList.flatMap fun c => if c.toNat < 128 then [c] else Text.codePointEscape c.toNat

/-! ## Integers -/

/-- The integer an argument is, for a decimal directive. -/
def decimalArgument (letter : Char) : Json → Except TemplateProblem Int
  | .integer n => .ok n
  | .boolean b => .ok (if b then 1 else 0)
  | .real x =>
    if x.isNaN then .error (.template "cannot convert float NaN to integer")
    else if !x.isFinite then .error (.overflow "cannot convert float infinity to integer")
    else .ok x.integerPart
  | value => .error (.argument ("%" ++ String.ofList [letter] ++ " format: a real number is required, not " ++
      value.kindName))

/-- The integer an argument is, for a directive in another base. -/
def integerArgument (letter : Char) : Json → Except TemplateProblem Int
  | .integer n => .ok n
  | .boolean b => .ok (if b then 1 else 0)
  | value => .error (.argument ("%" ++ String.ofList [letter] ++ " format: an integer is required, not " ++
      value.kindName))

/-- The base, and its mark, of a letter that writes an integer. -/
def baseOf (letter : Char) : Nat × List Char :=
  if letter == 'x' then (16, ['0', 'x'])
  else if letter == 'X' then (16, ['0', 'X'])
  else if letter == 'o' then (8, ['0', 'o'])
  else (10, [])

/-- The largest precision of an integer. -/
def largestIntegerPrecision : Nat := 2147483644

/-- **An integer**, with at least as many digits as the precision says. -/
def Directive.writeInteger (d : Directive) (n : Int) : Except TemplateProblem (List Char) := do
  let least := d.precision.getD 0
  if least > largestIntegerPrecision then throw (.overflow "precision too large")
  let (base, mark) := baseOf d.letter
  let plain := Nat.toDigits base n.natAbs
  let digits := List.replicate (least - plain.length) '0' ++ plain
  let cased := if d.letter == 'X' then digits.map Text.capital else digits
  d.fillNumber (d.signOf (n < 0)) (if d.flags.contains '#' then mark else []) cased

/-! ## Doubles -/

/-- The double nearest to an integer. -/
def doubleOfInteger (n : Int) : Double := Double.nearest (n < 0) n.natAbs 1

/-- The double an argument is. -/
def doubleArgument : Json → Except TemplateProblem Double
  | .integer n =>
    let x := doubleOfInteger n
    if x.isFinite then .ok x else .error (.overflow "int too large to convert to float")
  | .boolean b => .ok (doubleOfInteger (if b then 1 else 0))
  | .real x => .ok x
  | value => .error (.argument ("must be real number, not " ++ value.kindName))

/-- Digits of a number, with zeros in front up to a length. -/
def paddedDigits (length n : Nat) : List Char :=
  let digits := Nat.toDigits 10 n
  List.replicate (length - digits.length) '0' ++ digits

/-- A point and the digits after it; the point stands alone only when asked for. -/
def pointAnd (keepPoint : Bool) (digits : List Char) : List Char :=
  if digits.isEmpty && !keepPoint then [] else '.' :: digits

/-- A magnitude with a fixed number of digits after the point. -/
def fixedText (keepPoint : Bool) (precision : Nat) (x : Double) : List Char :=
  let scaled := roundedQuotient (x.numerator * Nat.pow 10 precision) x.denominator
  let digits := paddedDigits (precision + 1) scaled
  let before := digits.length - precision
  digits.take before ++ pointAnd keepPoint (digits.drop before)

/-- The significant digits of a magnitude, `count` of them, and the exponent of the first. -/
def significantDigits (count : Nat) (x : Double) : List Char × Int :=
  if x.isZero then (List.replicate count '0', 0)
  else
    let exponent := Double.pointPositionOf x.numerator x.denominator - 1
    let shift : Int := (count : Int) - 1 - exponent
    let scaled :=
      roundedQuotient (x.numerator * Nat.pow 10 shift.toNat) (x.denominator * Nat.pow 10 (-shift).toNat)
    let digits := Nat.toDigits 10 scaled
    if digits.length > count then (digits.take count, exponent + 1) else (digits, exponent)

/-- An exponent with its sign and at least two digits. -/
def exponentText (exponent : Int) : List Char :=
  'e' :: (if exponent < 0 then '-' else '+') :: paddedDigits 2 exponent.natAbs

/-- A magnitude with an exponent and a fixed number of digits after the point. -/
def scientificText (keepPoint : Bool) (precision : Nat) (x : Double) : List Char :=
  let (digits, exponent) := significantDigits (precision + 1) x
  digits.take 1 ++ pointAnd keepPoint (digits.drop 1) ++ exponentText exponent

/-- A magnitude with a number of significant digits, with an exponent only when it is very small or large. -/
def generalFormText (keepZeros : Bool) (precision : Nat) (x : Double) : List Char :=
  let count := max precision 1
  let (digits, exponent) := significantDigits count x
  let trim (cs : List Char) := if keepZeros then cs else Text.dropEndWhile (· == '0') cs
  if -4 ≤ exponent && exponent < count then
    if exponent < 0 then
      '0' :: pointAnd keepZeros (trim (List.replicate (-exponent - 1).toNat '0' ++ digits))
    else
      let before := exponent.toNat + 1
      digits.take before ++ pointAnd keepZeros (trim (digits.drop before))
  else digits.take 1 ++ pointAnd keepZeros (trim (digits.drop 1)) ++ exponentText exponent

/-- The magnitude of a double in the form of the letter. -/
def Directive.magnitude (d : Directive) (x : Double) : List Char :=
  let keep := d.flags.contains '#'
  let precision := d.precision.getD 6
  if x.isNaN then "nan".toList
  else if !x.isFinite then "inf".toList
  else if d.letter == 'f' || d.letter == 'F' then fixedText keep precision x
  else if d.letter == 'e' || d.letter == 'E' then scientificText keep precision x
  else generalFormText keep precision x

/-- **A double**, in capitals when the letter is one. -/
def Directive.writeDouble (d : Directive) (x : Double) : Except TemplateProblem (List Char) :=
  let cs := d.magnitude x
  d.fillNumber (d.signOf (x.negative && !x.isNaN)) [] (if d.letter.isUpper then cs.map Text.capital else cs)

/-! ## Characters -/

/-- **The code point an argument is**: a number may be that of half of a surrogate pair. -/
def charArgument : Json → Except TemplateProblem Text.CodePoint
  | .text s =>
    match s.toList with
    | [c] => .ok (.char c)
    | _ => .error (.argument "%c requires int or char")
  | .integer n =>
    if 0 ≤ n && n < 0x110000 then .ok (Text.codePoint n.toNat)
    else .error (.overflow "%c arg not in range(0x110000)")
  | .boolean b => .ok (.char (if b then '\x01' else '\x00'))
  | _ => .error (.argument "%c requires int or char")

/-! ## All forms -/

/-- The letter as the message about it shows it. -/
def Directive.shownLetter (d : Directive) : Char :=
  if 31 ≤ d.letter.toNat && d.letter.toNat ≤ 126 then d.letter else '?'

/-- The message about a letter that is no form. -/
def Directive.unsupported (d : Directive) : TemplateProblem :=
  .template ("unsupported format character '" ++ String.ofList [d.shownLetter] ++ "' (0x" ++
    String.ofList (Nat.toDigits 16 d.letter.toNat) ++ ") at index " ++ toString d.position)

/-- Write an argument as the directive says, in any form but that of a single character. -/
def Directive.writeChars (d : Directive) (value : Json) : Except TemplateProblem (List Char) := do
  if d.letter == 's' then d.writeText value.plain.toList
  else if d.letter == 'r' then d.writeText value.shown.toList
  else if d.letter == 'a' then d.writeText (asciiShown value.shown)
  else if ['d', 'i', 'u'].contains d.letter then d.writeInteger (← decimalArgument d.letter value)
  else if ['x', 'X', 'o'].contains d.letter then d.writeInteger (← integerArgument d.letter value)
  else if ['e', 'E', 'f', 'F', 'g', 'G'].contains d.letter then d.writeDouble (← doubleArgument value)
  else throw d.unsupported

/-- **Write an argument** as the directive says. -/
def Directive.write (d : Directive) (value : Json) : Except TemplateProblem (List Text.CodePoint) := do
  if d.letter == 'c' then d.fillText (.char ' ') [← charArgument value]
  else return Text.codePoints (← d.writeChars value)

end ConnectionJobs.Log
