import ConnectionJobs.Double.Basic
import ConnectionJobs.Keyed

/-!
# JSON values

Job documents, saved states, overrides and settings are JSON. A value keeps what a document distinguishes:
the order of an object's members, integers of any size apart from doubles, and every character of a text.
An object is the keyed list of its members.
-/

namespace ConnectionJobs

/-- **A JSON value.** -/
inductive Json where
  /-- The null value. -/
  | null
  /-- A truth value. -/
  | boolean (value : Bool)
  /-- A number written without fraction and exponent. -/
  | integer (value : Int)
  /-- A number written with a fraction or an exponent, or one of the non-finite numbers. -/
  | real (value : Double)
  /-- A text. -/
  | text (value : String)
  /-- A list of values. -/
  | array (items : List Json)
  /-- A list of members, in the order they are written. -/
  | object (members : List (String × Json))
  deriving Inhabited, Repr, BEq

/-- The members of an object: keys with their values, in order. -/
abbrev Members := Keyed String Json

namespace Json

/-- An optional value, `null` when absent. -/
def optional {α : Type} (encode : α → Json) : Option α → Json
  | some a => encode a
  | none => null

mutual

/-- **The height** of a value whose scalars are `scalar` levels high: a container is one level higher than its highest
part. -/
def height (scalar : Nat) : Json → Nat
  | array items => heightOfItems scalar items + 1
  | object members => heightOfMembers scalar members + 1
  | _ => scalar

/-- The height of the highest item. -/
def heightOfItems (scalar : Nat) : List Json → Nat
  | [] => 0
  | item :: rest => max (height scalar item) (heightOfItems scalar rest)

/-- The height of the highest member value. -/
def heightOfMembers (scalar : Nat) : List (String × Json) → Nat
  | [] => 0
  | (_, value) :: rest => max (height scalar value) (heightOfMembers scalar rest)

end

/-- **The nesting depth** of a value: a scalar is a level of its own, as an empty container is. -/
abbrev depth (v : Json) : Nat := v.height 1

/-- The depth of the deepest member value. -/
abbrev depthOfMembers (members : List (String × Json)) : Nat := heightOfMembers 1 members

/-- **How many containers a value nests.** -/
abbrev nesting (v : Json) : Nat := v.height 0

end Json

end ConnectionJobs
