import ConnectionJobs.Text.Printable
import ConnectionJobs.Text.Hexadecimal

/-!
# Quoted text

Messages that name a value a user wrote show it *quoted*: between quotation marks, with everything that
cannot be shown written as an escape. Single quotation marks are used unless the text contains one and no
double one, so that most texts need no escaped quotation mark.
-/

namespace ConnectionJobs.Text

/-- The quotation mark a text is shown between. -/
def quotationMark (cs : List Char) : Char :=
  if cs.contains '\'' && !cs.contains '"' then '"' else '\''

/-- The escape of a character by its code point, in the shortest of the three forms that hold it. -/
def codePointEscape (n : Nat) : List Char :=
  if n < 0x100 then '\\' :: 'x' :: hexDigits 2 n
  else if n < 0x10000 then '\\' :: 'u' :: hexDigits 4 n
  else '\\' :: 'U' :: hexDigits 8 n

/-- One character of a quoted text, between quotation marks `mark`. -/
def quotedChar (mark c : Char) : List Char :=
  if c == mark || c == '\\' then ['\\', c]
  else if c == '\n' then ['\\', 'n']
  else if c == '\r' then ['\\', 'r']
  else if c == '\t' then ['\\', 't']
  else if isPrintable c then [c]
  else codePointEscape c.toNat

/-- **A text in quotation marks**, as messages show it. -/
def quoted (s : String) : String :=
  let mark := quotationMark s.toList
  String.ofList (mark :: s.toList.flatMap (quotedChar mark) ++ [mark])

/-- One byte of a quoted byte sequence, between quotation marks `mark`. -/
def quotedByte (mark : Char) (byte : UInt8) : List Char :=
  let n := byte.toNat
  let c := Char.ofNat n
  if c == mark || c == '\\' then ['\\', c]
  else if c == '\n' then ['\\', 'n']
  else if c == '\r' then ['\\', 'r']
  else if c == '\t' then ['\\', 't']
  else if 0x20 ≤ n && n < 0x7F then [c]
  else codePointEscape n

/-- **The UTF-8 bytes of a text in quotation marks**, marked as bytes by a leading `b`. -/
def quotedBytes (s : String) : String :=
  let mark := quotationMark s.toList
  String.ofList ('b' :: mark :: s.toUTF8.toList.flatMap (quotedByte mark) ++ [mark])

end ConnectionJobs.Text
