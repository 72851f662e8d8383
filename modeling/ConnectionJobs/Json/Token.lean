import ConnectionJobs.Json.Basic
import ConnectionJobs.Double.Layout
import ConnectionJobs.Text.Hexadecimal
import ConnectionJobs.Text.Surrogate

/-!
# The tokens of a JSON text

Between a JSON value and its text stand *tokens*: punctuation, and the scalar values. This file fixes the
spelling of each token and reads a text back into its tokens. What sequences of tokens make a value is the
business of the reader.

White space is space, tab, line feed and carriage return. Texts hold no raw control characters. Numbers have no
leading zeros, and the three words `NaN`, `Infinity` and `-Infinity` are numbers. Documents and settings differ
in a few details, which `Rules` names.
-/

namespace ConnectionJobs.Json

/-- **The rules of a reader**, where readers differ. -/
structure Rules where
  /-- How many levels a value may nest. -/
  levels : Nat
  /-- How many of them a scalar takes: one where every value counts, none where only containers do. -/
  scalar : Nat
  /-- The limit on the digits of an integer holds for the digits of a double before its point too. -/
  limitsReals : Bool
  /-- A minus sign counts as one of the digits that are limited. -/
  countsSign : Bool
  /-- What stands for half of a surrogate pair, when an escape spells one; without it there is no such text. -/
  unpaired : Option Char
  deriving DecidableEq, Repr, Inhabited

/-- **A token** of a JSON text. -/
inductive Token where
  /-- `[` -/
  | openArray
  /-- `]` -/
  | closeArray
  /-- An opening brace. -/
  | openObject
  /-- A closing brace. -/
  | closeObject
  /-- `,` -/
  | comma
  /-- `:` -/
  | colon
  /-- The word `null`. -/
  | null
  /-- The word `true` or `false`. -/
  | boolean (value : Bool)
  /-- A number without fraction and exponent. -/
  | integer (value : Int)
  /-- A number with a fraction or an exponent, or a non-finite number. -/
  | real (value : Double)
  /-- A text between quotation marks. -/
  | text (value : String)
  deriving Repr, BEq, Inhabited

/-! ## Spelling -/

/-- **One character inside quotation marks**: the quotation mark, the backslash and the control characters
are escaped, everything else stands for itself. -/
def escapedChar (c : Char) : List Char :=
  if c == '"' then ['\\', '"']
  else if c == '\\' then ['\\', '\\']
  else if c.toNat == 0x08 then ['\\', 'b']
  else if c.toNat == 0x09 then ['\\', 't']
  else if c.toNat == 0x0A then ['\\', 'n']
  else if c.toNat == 0x0C then ['\\', 'f']
  else if c.toNat == 0x0D then ['\\', 'r']
  else if c.toNat < 0x20 then '\\' :: 'u' :: Text.hexDigits 4 c.toNat
  else [c]

/-- A text between quotation marks. -/
def quotedText (s : String) : List Char :=
  '"' :: s.toList.flatMap escapedChar ++ ['"']

/-- The digits of an integer, after a minus sign when it is negative. -/
def integerText (n : Int) : List Char :=
  Double.withSign (n < 0) (Nat.toDigits 10 n.natAbs)

/-- **The spelling of a token.** A non-finite number has none of its own and is written as `null`. -/
def Token.spelling : Token → List Char
  | .openArray => ['[']
  | .closeArray => [']']
  | .openObject => ['\x7b']
  | .closeObject => ['\x7d']
  | .comma => [',']
  | .colon => [':']
  | .null => ['n', 'u', 'l', 'l']
  | .boolean true => ['t', 'r', 'u', 'e']
  | .boolean false => ['f', 'a', 'l', 's', 'e']
  | .integer n => integerText n
  | .real x => if x.isFinite then x.documentText else ['n', 'u', 'l', 'l']
  | .text s => quotedText s

/-! ## Reading texts -/

/-- The character an escape letter stands for. -/
def escapeLetter (c : Char) : Option Char :=
  if c == '"' || c == '\\' || c == '/' then some c
  else if c == 'b' then some (Char.ofNat 0x08)
  else if c == 'f' then some (Char.ofNat 0x0C)
  else if c == 'n' then some '\n'
  else if c == 'r' then some '\r'
  else if c == 't' then some '\t'
  else none

/-- The character a single code unit stands for. Half of a surrogate pair stands for none; `standIn` takes its
place if there is one. -/
def loneUnit (standIn : Option Char) (n : Nat) : Option Char :=
  if Text.isSurrogate n then standIn else some (Char.ofNat n)

/-- **Read a text** up to its closing quotation mark: its characters, reversed on top of `acc`, and what
follows the mark. -/
def readText (standIn : Option Char) (acc : List Char) : List Char → Option (List Char × List Char)
  | [] => none
  | '"' :: rest => some (acc, rest)
  | '\\' :: 'u' :: a :: b :: c :: d :: '\\' :: 'u' :: e :: f :: g :: h :: rest =>
    match Text.hexValue [a, b, c, d], Text.hexValue [e, f, g, h] with
    | some n, some m =>
      if Text.isHighSurrogate n && Text.isLowSurrogate m then
        readText standIn (Char.ofNat (Text.surrogatePair n m) :: acc) rest
      else
        match loneUnit standIn n with
        | some char => readText standIn (char :: acc) ('\\' :: 'u' :: e :: f :: g :: h :: rest)
        | none => none
    | _, _ => none
  | '\\' :: 'u' :: a :: b :: c :: d :: rest =>
    match (Text.hexValue [a, b, c, d]).bind (loneUnit standIn) with
    | some char => readText standIn (char :: acc) rest
    | none => none
  | '\\' :: c :: rest =>
    match escapeLetter c with
    | some e => readText standIn (e :: acc) rest
    | none => none
  | c :: rest => if c.toNat < 0x20 then none else readText standIn (c :: acc) rest

/-! ## Reading numbers -/

/-- **A numeral** as it is written: sign, digits before the point, the digits after it and the exponent,
when there are any. -/
structure Numeral where
  /-- A minus sign stands in front. -/
  negative : Bool
  /-- The digits before the point. -/
  whole : List Char
  /-- The digits after the point, when there is one. -/
  fraction : Option (List Char)
  /-- The exponent, when there is one. -/
  exponent : Option Int

/-- A digit from zero to nine. -/
def isDigit (c : Char) : Bool := '0' ≤ c && c ≤ '9'

/-- The number a sequence of digits denotes. -/
def digitsValue (cs : List Char) : Nat :=
  cs.foldl (fun acc c => acc * 10 + (c.toNat - 0x30)) 0

/-- The digits at the front, and the rest. -/
def spanDigits (cs : List Char) : List Char × List Char := cs.span isDigit

/-- Read the digits before the point: a zero alone, or digits that do not start with zero. -/
def readWhole (cs : List Char) : Option (List Char × List Char) :=
  match spanDigits cs with
  | ([], _) => none
  | (['0'], rest) => some (['0'], rest)
  | ('0' :: _ :: _, _) => none
  | (digits, rest) => some (digits, rest)

/-- Read the point and the digits after it, if a point follows. -/
def readFraction : List Char → Option (Option (List Char) × List Char)
  | '.' :: cs =>
    match spanDigits cs with
    | ([], _) => none
    | (digits, rest) => some (some digits, rest)
  | cs => some (none, cs)

/-- Read the digits of an exponent. -/
def readExponentDigits (negative : Bool) (cs : List Char) : Option (Option Int × List Char) :=
  match spanDigits cs with
  | ([], _) => none
  | (digits, rest) =>
    let n : Int := digitsValue digits
    some (some (if negative then -n else n), rest)

/-- Read an exponent, if one follows. -/
def readExponent : List Char → Option (Option Int × List Char)
  | c :: cs =>
    if c == 'e' || c == 'E' then
      match cs with
      | '+' :: rest => readExponentDigits false rest
      | '-' :: rest => readExponentDigits true rest
      | _ => readExponentDigits false cs
    else some (none, c :: cs)
  | [] => some (none, [])

/-- Read the numeral after its sign. -/
def readUnsigned (negative : Bool) (cs : List Char) : Option (Numeral × List Char) := do
  let (whole, afterWhole) ← readWhole cs
  let (fraction, afterFraction) ← readFraction afterWhole
  let (exponent, rest) ← readExponent afterFraction
  return (⟨negative, whole, fraction, exponent⟩, rest)

/-- The largest number of digits an integer may have, and a double before its point where that is limited. -/
def wholeDigitLimit : Nat := 4300

/-- **How many digits a number has before its point**, for a limit on them: its sign may count as one. -/
def wholeLength (countsSign negative : Bool) (digits : List Char) : Nat :=
  digits.length + if countsSign && negative then 1 else 0

/-- **The token of a numeral**: an integer when it has neither fraction nor exponent, a double otherwise. -/
def Numeral.token (rules : Rules) (n : Numeral) : Option Token :=
  let tooLong := wholeLength rules.countsSign n.negative n.whole > wholeDigitLimit
  match n.fraction, n.exponent with
  | none, none =>
    if tooLong then none
    else
      let value : Int := digitsValue n.whole
      some (.integer (if n.negative then -value else value))
  | fraction, exponent =>
    if rules.limitsReals && tooLong then none
    else
      let after := fraction.getD []
      some (.real (Double.ofDecimal n.negative (digitsValue (n.whole ++ after))
        (exponent.getD 0 - after.length)))

/-- **Read a number.** -/
def readNumber (rules : Rules) : List Char → Option (Token × List Char)
  | 'N' :: 'a' :: 'N' :: rest => some (.real .nan, rest)
  | 'I' :: 'n' :: 'f' :: 'i' :: 'n' :: 'i' :: 't' :: 'y' :: rest => some (.real (.infinity false), rest)
  | '-' :: 'I' :: 'n' :: 'f' :: 'i' :: 'n' :: 'i' :: 't' :: 'y' :: rest => some (.real (.infinity true), rest)
  | '-' :: cs => do
    let (numeral, rest) ← readUnsigned true cs
    return (← numeral.token rules, rest)
  | cs => do
    let (numeral, rest) ← readUnsigned false cs
    return (← numeral.token rules, rest)

/-! ## Reading tokens -/

/-- White space between tokens. -/
def isSpace (c : Char) : Bool := c == ' ' || c == '\t' || c == '\n' || c == '\r'

/-- **Read one token** from the front of a text that does not start with white space. -/
def readToken (rules : Rules) : List Char → Option (Token × List Char)
  | [] => none
  | c :: cs =>
    if c == '[' then some (.openArray, cs)
    else if c == ']' then some (.closeArray, cs)
    else if c == '\x7b' then some (.openObject, cs)
    else if c == '\x7d' then some (.closeObject, cs)
    else if c == ',' then some (.comma, cs)
    else if c == ':' then some (.colon, cs)
    else if c == '"' then
      (readText rules.unpaired [] cs).map fun (acc, rest) => (.text (String.ofList acc.reverse), rest)
    else
      match c, cs with
      | 'n', 'u' :: 'l' :: 'l' :: rest => some (.null, rest)
      | 't', 'r' :: 'u' :: 'e' :: rest => some (.boolean true, rest)
      | 'f', 'a' :: 'l' :: 's' :: 'e' :: rest => some (.boolean false, rest)
      | _, _ => readNumber rules (c :: cs)

/-- **The tokens of a text**, up to the first part that is none: the tokens, and whether they are all of the text.
Every token and every blank takes a character, so the length of the text is fuel enough. -/
def readTokens (rules : Rules) : Nat → List Char → List Token × Bool
  | _, [] => ([], true)
  | 0, _ :: _ => ([], false)
  | fuel + 1, c :: cs =>
    if isSpace c then readTokens rules fuel cs
    else
      match readToken rules (c :: cs) with
      | none => ([], false)
      | some (token, rest) =>
        let (tokens, complete) := readTokens rules fuel rest
        (token :: tokens, complete)

/-- **The tokens of a text**, and whether they are all of it. -/
def tokens (rules : Rules) (s : String) : List Token × Bool :=
  let cs := s.toList
  readTokens rules cs.length cs

end ConnectionJobs.Json
