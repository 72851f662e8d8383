import ConnectionJobs.Text.Hexadecimal
import ConnectionJobs.Text.Utf8

/-!
# Percent escapes

The parts of a URL are written with escapes: a percent sign and two hexadecimal digits stand for a byte of the
text. A percent sign without them stands for itself.
-/

namespace ConnectionJobs.Text

/-- The bytes that escapes and characters stand for. -/
def unescapedBytes : List Char → List UInt8
  | '%' :: a :: b :: rest =>
    match hexDigitValue a, hexDigitValue b with
    | some x, some y => UInt8.ofNat (x * 16 + y) :: unescapedBytes rest
    | _, _ => 0x25 :: unescapedBytes (a :: b :: rest)
  | c :: rest => (String.ofList [c]).toUTF8.toList ++ unescapedBytes rest
  | [] => []

/-- **Replace escapes** by the text they stand for. -/
def unescape (cs : List Char) : String := ofBytes (unescapedBytes cs)

/-- A byte that is never escaped: a Latin letter, a digit, or one of four marks. -/
def isUnreserved (n : Nat) : Bool :=
  (0x30 ≤ n && n ≤ 0x39) || (0x41 ≤ n && n ≤ 0x5A) || (0x61 ≤ n && n ≤ 0x7A) ||
    n == 0x5F || n == 0x2E || n == 0x2D || n == 0x7E

/-- **Escape a text**, keeping the characters in `safe`. -/
def escape (safe : String) (s : String) : String :=
  String.ofList (s.toUTF8.toList.flatMap fun byte =>
    let n := byte.toNat
    if isUnreserved n || (n < 0x80 && safe.toList.contains (Char.ofNat n)) then [Char.ofNat n]
    else '%' :: (hexDigits 2 n).map capital)

/-- **Escape a text between options**, where a space becomes a plus sign. -/
def escapeSpaced (s : String) : String :=
  String.ofList ((escape " " s).toList.map fun c => if c == ' ' then '+' else c)

end ConnectionJobs.Text
