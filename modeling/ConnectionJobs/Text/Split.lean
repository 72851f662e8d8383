/-!
# Splitting texts

A text that holds several things is split where a mark stands between them.
-/

namespace ConnectionJobs.Text

/-- The pieces of a list between marks; `piece` holds the current piece, reversed. -/
def piecesFrom (mark : Char) (piece : List Char) : List Char → List (List Char)
  | [] => [piece.reverse]
  | c :: cs => if c == mark then piece.reverse :: piecesFrom mark [] cs else piecesFrom mark (c :: piece) cs

/-- **The pieces of a list between marks.** There is one more than there are marks. -/
def pieces (mark : Char) (cs : List Char) : List (List Char) := piecesFrom mark [] cs

/-- **The pieces of a text between marks.** -/
def piecesOf (mark : Char) (s : String) : List String := (pieces mark s.toList).map String.ofList

/-- **Split a list at the first mark**, dropping it. -/
def splitFirst (mark : Char) (cs : List Char) : Option (List Char × List Char) :=
  match cs.span (· != mark) with
  | (before, _ :: after) => some (before, after)
  | (_, []) => none

/-- **Split a list at the last mark**, dropping it. -/
def splitLast (mark : Char) (cs : List Char) : Option (List Char × List Char) :=
  match cs.reverse.span (· != mark) with
  | (after, _ :: before) => some (before.reverse, after.reverse)
  | (_, []) => none

end ConnectionJobs.Text
