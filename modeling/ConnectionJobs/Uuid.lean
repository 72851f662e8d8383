import ConnectionJobs.Text.Numeral
import ConnectionJobs.Text.Hexadecimal

/-!
# Identifiers

Connections, workspaces, actors and definitions are identified by 128-bit UUIDs. An identifier is always
written the same way, in lower case with dashes; it may be read in several ways, and the readers differ by
how much they forgive. Documents accept the common forms only. Values that come back from the database are
read leniently: marks and dashes are dropped wherever they stand.
-/

namespace ConnectionJobs

/-- **An identifier**: a 128-bit number. -/
structure Uuid where
  /-- The number. -/
  value : Fin 340282366920938463463374607431768211456
  deriving DecidableEq, Repr, Inhabited

namespace Uuid

/-- The identifier with a given number, modulo `2 ^ 128`. -/
def ofNat (n : Nat) : Uuid := ⟨Fin.ofNat _ n⟩

/-- Digits cut into the five groups of the written form, joined by dashes. -/
def grouped (digits : List Char) : List Char :=
  digits.take 8 ++ '-' :: (digits.drop 8).take 4 ++ '-' :: (digits.drop 12).take 4 ++
    '-' :: (digits.drop 16).take 4 ++ '-' :: digits.drop 20

/-- **The written form** of an identifier: thirty-two digits in lower case, in five groups. -/
def text (u : Uuid) : String :=
  String.ofList (grouped (Text.hexDigits 32 u.value.val))

instance : ToString Uuid := ⟨text⟩

/-- The digits of a dashed form, when the four dashes stand at their places. -/
def ungrouped (cs : List Char) : Option (List Char) :=
  let digits := cs.take 8 ++ (cs.drop 9).take 4 ++ (cs.drop 14).take 4 ++ (cs.drop 19).take 4 ++ cs.drop 24
  if cs.length == 36 && cs[8]? == some '-' && cs[13]? == some '-' && cs[18]? == some '-' && cs[23]? == some '-'
  then some digits
  else none

/-- The identifier with the given thirty-two digits. -/
def ofDigits (digits : List Char) : Option Uuid :=
  if digits.length == 32 then (Text.hexValue digits).map ofNat else none

/-- The identifier in dashed form. -/
def ofDashed (cs : List Char) : Option Uuid :=
  match ungrouped cs with
  | some digits => ofDigits digits
  | none => none

/-- **Read an identifier in a document**: thirty-two digits, or the dashed form alone, in braces, or after
`urn:uuid:`. -/
def read? (s : String) : Option Uuid :=
  let cs := s.toList
  if cs.length == 32 then ofDigits cs
  else if cs.length == 36 then ofDashed cs
  else if cs.length == 38 && cs.head? == some '\x7b' && cs.getLast? == some '\x7d' then
    ofDashed (cs.drop 1).dropLast
  else if cs.length == 45 && cs.take 9 == "urn:uuid:".toList then ofDashed (cs.drop 9)
  else none

/-- Why a text was not read as an identifier. -/
inductive Unreadable where
  /-- It does not have thirty-two digits. -/
  | malformed
  /-- It holds something else than digits. -/
  | notHexadecimal (reason : Text.NotInteger)
  /-- It denotes a negative number. -/
  | outOfRange
  deriving DecidableEq, Repr

/-- Remove every occurrence of `word`. -/
def without (word : List Char) : Nat → List Char → List Char
  | 0, cs => cs
  | _ + 1, [] => []
  | fuel + 1, c :: cs =>
    if word.isPrefixOf (c :: cs) then without word fuel ((c :: cs).drop word.length)
    else c :: without word fuel cs

/-- **Read an identifier leniently**: the words `urn:` and `uuid:` and all dashes are dropped, and so are
braces at the ends; thirty-two digits must remain. -/
def readLenient (s : String) : Except Unreadable Uuid :=
  let fuel := s.length + 1
  let unmarked := without "uuid:".toList fuel (without "urn:".toList fuel s.toList)
  let unbraced := Text.dropAround (fun c => c == '\x7b' || c == '\x7d') unmarked
  let digits := unbraced.filter (· != '-')
  if digits.length != 32 then .error .malformed
  else
    match Text.readInteger 16 (String.ofList digits) with
    | .error reason => .error (.notHexadecimal reason)
    | .ok n => if n < 0 then .error .outOfRange else .ok (ofNat n.toNat)

end Uuid

end ConnectionJobs
