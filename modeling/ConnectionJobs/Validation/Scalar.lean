import ConnectionJobs.Json.Reader
import ConnectionJobs.Validation.Checked
import ConnectionJobs.Double.Layout
import ConnectionJobs.Text.Blank
import ConnectionJobs.Uuid

/-!
# Decoding scalars

Documents are written by several programs, and some of them write an integer as a text or a truth value as a
number. The decoders below accept what denotes the value without doubt and name the problem otherwise.
-/

namespace ConnectionJobs.Decoder

/-! ## Texts -/

/-- **A text.** -/
def text : Decoder String
  | .text s => .valid s
  | _ => .fail .stringType

/-- **A text or a number**, the number becoming a text. How a double is written depends on where the document
comes from and is given by `doubleText`. -/
def textOrNumber (doubleText : Double → String) : Decoder String
  | .text s => .valid s
  | .integer n => .valid (toString n)
  | .real x => .valid (doubleText x)
  | _ => .fail .stringType

/-- **One of a few texts**, those that `ofText` knows. -/
def oneOf {α : Type} (ofText : String → Option α) : Decoder α
  | .text s =>
    match ofText s with
    | some a => .valid a
    | none => .fail .enumeration
  | _ => .fail .enumeration

/-- **An identifier.** -/
def uuid : Decoder Uuid
  | .text s =>
    match Uuid.read? s with
    | some u => .valid u
    | none => .fail .uuidParsing
  | _ => .fail .uuidType

/-! ## Integers -/

/-- A digit from zero to nine. -/
def isAsciiDigit (c : Char) : Bool := '0' ≤ c && c ≤ '9'

/-- Drop zeros and underscores after a first zero, up to a digit that is not zero or a minus sign, or up to the
last zero before a point. `previous` is the character before the rest. -/
def dropLeadingZeros (previous : Char) : List Char → Option (List Char)
  | [] => some [previous]
  | c :: cs =>
    if c == '0' || c == '_' then dropLeadingZeros c cs
    else if isAsciiDigit c || c == '-' then some (c :: cs)
    else if c == '.' then some (previous :: c :: cs)
    else none

/-- Drop a point followed by one zero or more and nothing else. -/
def dropZeroFraction (cs : List Char) : List Char :=
  match cs.span (· != '.') with
  | (before, _ :: '0' :: after) => if after.all (· == '0') then before else cs
  | _ => cs

/-- Two underscores stand side by side. -/
def doubledUnderscore : List Char → Bool
  | '_' :: '_' :: _ => true
  | _ :: cs => doubledUnderscore cs
  | [] => false

/-- Drop underscores that stand alone between other characters. -/
def dropUnderscores (cs : List Char) : List Char :=
  if cs.head? == some '_' || cs.getLast? == some '_' || doubledUnderscore cs then cs
  else cs.filter (· != '_')

/-- The bare form of an integer that starts with a digit: without leading zeros, zero fraction and
underscores. -/
def bareMagnitude (cs : List Char) : Option (List Char) :=
  let stripped :=
    match cs with
    | '0' :: rest => dropLeadingZeros '0' rest
    | c :: _ => if isAsciiDigit c then some cs else none
    | [] => none
  stripped.map fun rest => dropUnderscores (dropZeroFraction rest)

/-- The bare form of an integer written as text: without white space around it and plus sign, and with the
bare form of what follows a minus sign. -/
def bareInteger (s : String) : Option (List Char) :=
  match Text.dropAround Text.isWhiteSpace s.toList with
  | '-' :: rest => (bareMagnitude rest).map ('-' :: ·)
  | '+' :: '-' :: _ => none
  | '+' :: rest => bareMagnitude rest
  | cs => bareMagnitude cs

/-- **The number a bare sequence of digits denotes**, after a minus sign if it is `negative`. A sequence that starts
with a zero denotes zero, and only if it ends there; a sequence of more digits than a document may have is too long,
whatever follows it. -/
def plainDigits [Json.Release] (negative : Bool) (cs : List Char) : Checked Nat :=
  match cs with
  | [] => .fail .intParsing
  | ['0'] => .valid 0
  | '0' :: _ => .fail .intParsing
  | _ =>
    let (digits, rest) := cs.span isAsciiDigit
    if Json.wholeLength Json.Release.countsSign negative digits > Json.wholeDigitLimit then .fail .intParsingSize
    else if digits.isEmpty || !rest.isEmpty then .fail .intParsing
    else .valid (digits.foldl (fun acc c => acc * 10 + (c.toNat - 0x30)) 0)

/-- **An integer written as text.** -/
def integerText [Json.Release] (s : String) : Checked Int :=
  match bareInteger s with
  | none => .fail .intParsing
  | some ('-' :: digits) => (fun n : Nat => -(n : Int)) <$> plainDigits true digits
  | some digits => (fun n : Nat => (n : Int)) <$> plainDigits false digits

/-- The integer fits in sixty-four bits, with a sign. -/
def fitsSixtyFourBits (n : Int) : Bool := -9223372036854775808 ≤ n && n < 9223372036854775808

/-- **A double taken as an integer**: it must be finite, have no fraction and be nearer to zero than the least
integer of sixty-four bits. -/
def integerDouble (x : Double) : Checked Int :=
  if !x.isFinite then .fail .finiteNumber
  else if !x.isInteger then .fail .intFromFloat
  else if x.integerPart.natAbs ≥ 9223372036854775808 then .fail .intParsingSize
  else .valid x.integerPart

/-- **An integer**: a number without fraction, a truth value, or a text denoting an integer. -/
def integer [Json.Release] : Decoder Int
  | .integer n => .valid n
  | .boolean b => .valid (if b then 1 else 0)
  | .real x => integerDouble x
  | .text s => integerText s
  | _ => .fail .intType

/-! ## Truth values -/

/-- A Latin capital letter as a small one. -/
def lowerAscii (c : Char) : Char :=
  if 'A' ≤ c && c ≤ 'Z' then Char.ofNat (c.toNat + 32) else c

/-- The texts that mean false. -/
def falseWords : List String := ["0", "off", "f", "false", "n", "no"]

/-- The texts that mean true. -/
def trueWords : List String := ["1", "on", "t", "true", "y", "yes"]

/-- The truth value a text means. -/
def truthWord (s : String) : Option Bool :=
  let lowered := String.ofList (s.toList.map lowerAscii)
  if lowered ∈ falseWords then some false
  else if lowered ∈ trueWords then some true
  else none

/-- The truth value that an integer means. -/
def truthNumber (n : Int) : Checked Bool :=
  if n = 0 then .valid false else if n = 1 then .valid true else .fail .boolParsing

/-- **A truth value**, or the numbers zero and one, or a text that means one. A number that cannot be taken as an
integer of sixty-four bits is of the wrong kind, and any other one is a value out of place. -/
def boolean : Decoder Bool
  | .boolean b => .valid b
  | .integer n => if fitsSixtyFourBits n then truthNumber n else .fail .boolType
  | .real x =>
    match integerDouble x with
    | .valid n => truthNumber n
    | .invalid _ => .fail .boolType
  | .text s =>
    match truthWord s with
    | some b => .valid b
    | none => .fail .boolParsing
  | _ => .fail .boolType

end ConnectionJobs.Decoder
