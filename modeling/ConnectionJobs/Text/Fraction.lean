import ConnectionJobs.Text.Numeral

/-!
# Decimal fractions written as text

Some options are numbers that need not be whole. Such a text is read the generous way: white space around it, a
sign, digits of any script with single underscores between them, a point, and an exponent; or one of the words
for infinity and for no number at all. Here it is only decided whether a text is such a number.
-/

namespace ConnectionJobs.Text

/-- The words for infinity and for no number at all. -/
def numberWords : List String := ["INF", "INFINITY", "NAN"]

/-- An exponent, or nothing. -/
def isExponent : List Char → Bool
  | [] => true
  | mark :: cs =>
    (mark == 'e' || mark == 'E') &&
      (match spanDigits 10 false (splitSign cs).2 with
        | some (_, rest) => rest.isEmpty
        | none => false)

/-- What may follow the whole digits: a point, digits if there are any, and an exponent. -/
def isFractionEnd : List Char → Bool
  | '.' :: cs =>
    match spanDigits 10 false cs with
    | some (_, rest) => isExponent rest
    | none => isExponent cs
  | cs => isExponent cs

/-- **The text is a decimal fraction.** Either the whole digits or those after the point may be missing. -/
def isFraction (s : String) : Bool :=
  let unsigned := (splitSign (dropAround isWhiteSpace s.toList)).2
  if String.ofList (unsigned.map capital) ∈ numberWords then true
  else
    match spanDigits 10 false unsigned, unsigned with
    | some (_, rest), _ => isFractionEnd rest
    | none, '.' :: cs =>
      match spanDigits 10 false cs with
      | some (_, rest) => isExponent rest
      | none => false
    | none, _ => false

end ConnectionJobs.Text
