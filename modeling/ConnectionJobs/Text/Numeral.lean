import ConnectionJobs.Text.Blank
import ConnectionJobs.Text.Quoted

/-!
# Integers written as text

Database drivers and configuration values may hand an integer over as text. This file reads such text the
generous way: white space around it, a sign, decimal digits of any script, and single underscores between
digits. The same reader serves base sixteen, where a leading `0x` is allowed.
-/

namespace ConnectionJobs.Text

/-- The code points of the decimal digit zero of every script; the digits one to nine follow each. -/
def decimalZeros : List Nat :=
  [0x30, 0x660, 0x6F0, 0x7C0, 0x966, 0x9E6, 0xA66, 0xAE6, 0xB66, 0xBE6, 0xC66, 0xCE6, 0xD66, 0xDE6, 0xE50,
   0xED0, 0xF20, 0x1040, 0x1090, 0x17E0, 0x1810, 0x1946, 0x19D0, 0x1A80, 0x1A90, 0x1B50, 0x1BB0, 0x1C40,
   0x1C50, 0xA620, 0xA8D0, 0xA900, 0xA9D0, 0xA9F0, 0xAA50, 0xABF0, 0xFF10, 0x104A0, 0x10D30, 0x11066,
   0x110F0, 0x11136, 0x111D0, 0x112F0, 0x11450, 0x114D0, 0x11650, 0x116C0, 0x11730, 0x118E0, 0x11950,
   0x11C50, 0x11D50, 0x11DA0, 0x16A60, 0x16AC0, 0x16B50, 0x1D7CE, 0x1D7D8, 0x1D7E2, 0x1D7EC, 0x1D7F6,
   0x1E140, 0x1E2F0, 0x1E950, 0x1FBF0]

/-- **The value of a decimal digit** of any script. -/
def decimalDigitValue (c : Char) : Option Nat :=
  let n := c.toNat
  (decimalZeros.find? fun start => start ≤ n && n < start + 10).map fun start => n - start

/-- **The value of a digit in a base** of at most sixteen: a decimal digit of any script, or a Latin letter. -/
def digitValue (base : Nat) (c : Char) : Option Nat :=
  let n := c.toNat
  let value :=
    match decimalDigitValue c with
    | some d => some d
    | none =>
      if 0x61 ≤ n && n ≤ 0x66 then some (n - 0x61 + 10)
      else if 0x41 ≤ n && n ≤ 0x46 then some (n - 0x41 + 10)
      else none
  value.filter fun d => d < base

/-- **The digits at the front of a text**, with single underscores between them, and what follows. `afterDigit`
records whether the character before was a digit, which is what an underscore, and the end of the digits,
require. -/
def spanDigits (base : Nat) : Bool → List Char → Option (List Nat × List Char)
  | afterDigit, [] => if afterDigit then some ([], []) else none
  | afterDigit, c :: cs =>
    if c == '_' then
      if afterDigit then spanDigits base false cs else none
    else
      match digitValue base c with
      | some d => (spanDigits base true cs).map fun (digits, rest) => (d :: digits, rest)
      | none => if afterDigit then some ([], c :: cs) else none

/-- Split off a sign: `true` for a minus sign. -/
def splitSign : List Char → Bool × List Char
  | '-' :: cs => (true, cs)
  | '+' :: cs => (false, cs)
  | cs => (false, cs)

/-- Drop the `0x` that may introduce digits in base sixteen, with the underscore that may follow it. -/
def dropBaseMark (base : Nat) (cs : List Char) : List Char :=
  if base != 16 then cs
  else
    match cs with
    | '0' :: x :: '_' :: rest => if x == 'x' || x == 'X' then rest else cs
    | '0' :: x :: rest => if x == 'x' || x == 'X' then rest else cs
    | _ => cs

/-- A number with its sign. -/
def signed (negative : Bool) (n : Nat) : Int :=
  if negative then -(n : Int) else n

/-- **Why a text denotes no integer.** -/
inductive NotInteger where
  /-- It is no numeral in the base; the text as it is shown. -/
  | malformed (base : Nat) (shown : String)
  /-- It has this many digits, which are too many. -/
  | tooManyDigits (count : Nat)
  deriving DecidableEq, Repr, Inhabited

/-- The message about a text that denotes no integer. What is shown of the text is cut to two hundred
characters. -/
def NotInteger.message : NotInteger → String
  | malformed base shown =>
    "invalid literal for int() with base " ++ toString base ++ ": " ++ String.ofList (shown.toList.take 200)
  | tooManyDigits count =>
    "Exceeds the limit (4300 digits) for integer string conversion: value has " ++ toString count ++
    " digits; use sys.set_int_max_str_digits() to increase the limit"

/-- The number of digits is limited in base ten only, where reading them is slow. -/
def exceedsLimit (base count : Nat) : Bool := base == 10 && count > 4300

/-- **Read an integer** in a base, with white space around it, a sign and underscores between digits. The number
of digits is checked before what follows them. `shown` is the text as messages show it. -/
def readShownInteger (base : Nat) (cs : List Char) (shown : String) : Except NotInteger Int :=
  let (negative, unsigned) := splitSign (dropAround isWhiteSpace cs)
  match spanDigits base false (dropBaseMark base unsigned) with
  | none => .error (.malformed base shown)
  | some (digits, rest) =>
    if exceedsLimit base digits.length then .error (.tooManyDigits digits.length)
    else if rest.isEmpty then .ok (signed negative (digits.foldl (fun n d => n * base + d) 0))
    else .error (.malformed base shown)

/-- **Read an integer** in a base from a text. -/
def readInteger (base : Nat) (s : String) : Except NotInteger Int :=
  readShownInteger base s.toList (quoted s)

end ConnectionJobs.Text
