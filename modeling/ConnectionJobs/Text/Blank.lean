/-!
# Blank characters

Configuration values arrive from files, environments and flag backends, and several decisions hang on
whether such a value is *blank*: a blank resource override is no override, a blank queue scope is refused,
a blank database URL is refused. This file fixes what blank means, once, for all of them.

There are two notions. A **blank** character is one that trimming removes: the Unicode white space
characters together with the four information separators U+001C to U+001F. A **white space** character
is the narrower Unicode property, without the separators; it is what may surround an integer written as text.
-/

namespace ConnectionJobs.Text

/-- **White space** in the sense of the Unicode `White_Space` property. -/
def isWhiteSpace (c : Char) : Bool :=
  let n := c.toNat
  (0x09 ≤ n && n ≤ 0x0D) || n == 0x20 || n == 0x85 || n == 0xA0 || n == 0x1680 ||
    (0x2000 ≤ n && n ≤ 0x200A) || n == 0x2028 || n == 0x2029 || n == 0x202F || n == 0x205F || n == 0x3000

/-- **A blank character**: white space, or one of the information separators U+001C to U+001F. -/
def isBlank (c : Char) : Bool :=
  isWhiteSpace c || (0x1C ≤ c.toNat && c.toNat ≤ 0x1F)

/-- Drop the characters satisfying `p` from the end of a list. -/
def dropEndWhile (p : Char → Bool) (cs : List Char) : List Char :=
  (cs.reverse.dropWhile p).reverse

/-- Drop the characters satisfying `p` from both ends of a list. -/
def dropAround (p : Char → Bool) (cs : List Char) : List Char :=
  dropEndWhile p (cs.dropWhile p)

/-- **Trimming**: the text without the blank characters at its two ends. -/
def trim (s : String) : String :=
  String.ofList (dropAround isBlank s.toList)

/-- Every character of the text is blank. The empty text is blank. -/
def isBlankText (s : String) : Bool :=
  s.toList.all isBlank

end ConnectionJobs.Text
