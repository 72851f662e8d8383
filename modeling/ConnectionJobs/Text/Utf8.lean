/-!
# Bytes as text

Escapes spell bytes, and the bytes need not be UTF-8. They are read as text all the same: where a character cannot
be completed, a replacement character stands for the bytes that had begun it, and reading goes on with the byte
that broke it off.
-/

namespace ConnectionJobs.Text

/-- **A character that has begun**: the bytes still owed, the bounds of the next one, and the number so far. -/
structure Begun where
  /-- The number of bytes still owed after the next one. -/
  owed : Nat
  /-- The least next byte. -/
  low : Nat
  /-- The greatest next byte. -/
  high : Nat
  /-- The number that the bytes so far denote. -/
  value : Nat
  deriving DecidableEq, Repr, Inhabited

/-- The replacement character. -/
def replacement : Char := '\uFFFD'

/-- **The first byte of a character**: what is complete with it, and what has begun. The first byte fixes how many
follow, and the bounds of the second one leave out long spellings, surrogates and numbers that are too great. -/
def firstByte (n : Nat) : List Char × Option Begun :=
  if n < 0x80 then ([Char.ofNat n], none)
  else if n < 0xC2 then ([replacement], none)
  else if n < 0xE0 then ([], some ⟨0, 0x80, 0xBF, n - 0xC0⟩)
  else if n < 0xF0 then
    ([], some ⟨1, if n == 0xE0 then 0xA0 else 0x80, if n == 0xED then 0x9F else 0xBF, n - 0xE0⟩)
  else if n < 0xF5 then
    ([], some ⟨2, if n == 0xF0 then 0x90 else 0x80, if n == 0xF4 then 0x8F else 0xBF, n - 0xF0⟩)
  else ([replacement], none)

/-- **The next byte** after what has begun: what is complete with it, and what has begun. -/
def nextByte (begun : Option Begun) (n : Nat) : List Char × Option Begun :=
  match begun with
  | none => firstByte n
  | some b =>
    if b.low ≤ n && n ≤ b.high then
      let value := b.value * 64 + (n - 0x80)
      match b.owed with
      | 0 => ([Char.ofNat value], none)
      | owed + 1 => ([], some ⟨owed, 0x80, 0xBF, value⟩)
    else
      let (done, next) := firstByte n
      (replacement :: done, next)

/-- The characters of bytes, after what has begun. -/
def charsFrom : Option Begun → List UInt8 → List Char
  | none, [] => []
  | some _, [] => [replacement]
  | begun, byte :: rest =>
    let (done, next) := nextByte begun byte.toNat
    done ++ charsFrom next rest

/-- **Bytes as text.** -/
def ofBytes (bytes : List UInt8) : String := String.ofList (charsFrom none bytes)

end ConnectionJobs.Text
