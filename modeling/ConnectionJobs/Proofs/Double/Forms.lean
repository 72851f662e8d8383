import ConnectionJobs.Double.Layout
import ConnectionJobs.Proofs.Double.Nearest
import ConnectionJobs.Proofs.Text.Digit

/-!
# The two forms of a double as a text

A double becomes a text in two forms. A quantity that an operator overrides is written in positional notation, without
an empty fraction; a quantity that settings give is written in the general form, which always shows a fraction or an
exponent. The texts are the same only where neither habit shows, and where the two forms also choose the same digits:
of two decimals that are equally near to the double the one form takes the larger, and the other the one that is even.

That the digits must be the same is not obvious, since different decimals could be written alike. A positional text has
a value, and it is that of its decimal (`plainValue_positional`). Both forms search the same two candidates
(`shortest_cases`), and these are different numbers.
-/

namespace ConnectionJobs

open Json (digitsValue isDigit)

/-- **The number that a decimal is.** -/
def Decimal.value (d : Decimal) : ℚ := d.digits * 10 ^ d.exponent

namespace Double

section Plain

variable {d : Decimal} {keep : Bool} {ds whole fraction cs : List Char} {position : Int} {c : Char}

end Plain

/-! ## The candidates of a search -/

section Candidates

variable {x : Double}

/-- **The decimal above** some digits of a given number, which has a single digit when it is a power of ten. -/
def above (below count : Nat) (exponent : Int) : Decimal :=
  if below + 1 == Nat.pow 10 count then ⟨1, exponent + count⟩ else ⟨below + 1, exponent⟩

end Candidates

/-! ## The forms -/

section Forms

variable {x : Double}

end Forms

end Double

end ConnectionJobs
