/-!
# Hexadecimal digits

Identifiers, escapes and digests are written in base sixteen with a fixed number of digits. The writer
`hexDigits` and the reader `hexValue` below are inverse to each other on numbers that fit the width.
-/

namespace ConnectionJobs.Text

/-- **The lower-case digit** of a number below sixteen. -/
def hexDigit (n : Nat) : Char :=
  if n < 10 then Char.ofNat (0x30 + n) else Char.ofNat (0x61 + (n - 10))

/-- **The value of a digit**, in either case; `none` when the character is not a hexadecimal digit. -/
def hexDigitValue (c : Char) : Option Nat :=
  let n := c.toNat
  if 0x30 ≤ n && n ≤ 0x39 then some (n - 0x30)
  else if 0x61 ≤ n && n ≤ 0x66 then some (n - 0x61 + 10)
  else if 0x41 ≤ n && n ≤ 0x46 then some (n - 0x41 + 10)
  else none

/-- **The last `width` digits** of a number, most significant first. -/
def hexDigits : Nat → Nat → List Char
  | 0, _ => []
  | width + 1, n => hexDigits width (n / 16) ++ [hexDigit (n % 16)]

/-- **A Latin small letter as a capital one**; other characters stay as they are. -/
def capital (c : Char) : Char := if 'a' ≤ c && c ≤ 'z' then Char.ofNat (c.toNat - 32) else c

/-- **The number a digit sequence denotes**, continuing from `acc`; `none` at the first other character. -/
def hexValueFrom : Nat → List Char → Option Nat
  | acc, [] => some acc
  | acc, c :: cs =>
    match hexDigitValue c with
    | some d => hexValueFrom (acc * 16 + d) cs
    | none => none

/-- **The number a digit sequence denotes.** -/
def hexValue (cs : List Char) : Option Nat :=
  hexValueFrom 0 cs

end ConnectionJobs.Text
