import ConnectionJobs.Json.Basic
import ConnectionJobs.Validation.Problem

/-!
# Checked values

Checking a document gives either a typed value or all of its problems. Checks of independent parts are
combined *applicatively*: the whole is valid when every part is, and otherwise the problems of the parts are
appended in the order of the parts. A **decoder** checks one JSON value.
-/

namespace ConnectionJobs

/-- **A checked value**: valid, or the problems that keep it from being so. -/
inductive Checked (α : Type) where
  /-- The document has the expected shape and means `value`. -/
  | valid (value : α)
  /-- The document has these problems. -/
  | invalid (problems : List Problem)
  deriving Inhabited

namespace Checked

variable {α β : Type}

/-- Change the value of a valid result. -/
def map (f : α → β) : Checked α → Checked β
  | valid a => valid (f a)
  | invalid ps => invalid ps

/-- Combine two checks: both values, or the problems of both. -/
def ap : Checked (α → β) → Checked α → Checked β
  | valid f, valid a => valid (f a)
  | valid _, invalid ps => invalid ps
  | invalid ps, valid _ => invalid ps
  | invalid ps, invalid qs => invalid (ps ++ qs)

instance : Functor Checked := ⟨map, fun a x => map (fun _ => a) x⟩

instance : Applicative Checked where
  pure := valid
  seq f x := ap f (x ())

/-- **Check further**: a check of the value that runs only when the first one succeeds. -/
def andThen (x : Checked α) (f : α → Checked β) : Checked β :=
  match x with
  | valid a => f a
  | invalid ps => invalid ps

/-- The same result seen from one step further out. -/
def under (step : PathStep) : Checked α → Checked α
  | valid a => valid a
  | invalid ps => invalid (ps.map (Problem.under step))

/-- A single problem at the value itself. -/
def fail (kind : ProblemKind) : Checked α := invalid [⟨kind, []⟩]

/-- The problems of a result; none when it is valid. -/
def problems : Checked α → List Problem
  | valid _ => []
  | invalid ps => ps

/-- The value of a valid result. -/
def value? : Checked α → Option α
  | valid a => some a
  | invalid _ => none

@[simp] theorem map_valid (f : α → β) (a : α) : map f (valid a) = valid (f a) := rfl

@[simp] theorem under_valid (step : PathStep) (a : α) : under step (valid a) = valid a := rfl

end Checked

/-- **A decoder** checks a JSON value and gives it a type. -/
abbrev Decoder (α : Type) := Json → Checked α

namespace Decoder

variable {α : Type}

/-- `null`, or a value the decoder accepts. -/
def nullable (decode : Decoder α) : Decoder (Option α)
  | .null => .valid none
  | json => some <$> decode json

/-- Decode the items of a list, numbered from `position`. -/
def itemsFrom (decode : Decoder α) : Nat → List Json → Checked (List α)
  | _, [] => .valid []
  | position, item :: rest =>
    List.cons <$> (decode item).under (.index position) <*> itemsFrom decode (position + 1) rest

/-- **A list**, each item accepted by the decoder. -/
def items (decode : Decoder α) : Decoder (List α)
  | .array list => itemsFrom decode 0 list
  | _ => .fail .tupleType

/-- **A table of anything.** -/
def members : Decoder Members
  | .object ms => .valid ms
  | _ => .fail .dictType

/-- **A record**: an object, whose members `fields` checks. -/
def record (fields : Members → Checked α) : Decoder α
  | .object ms => fields ms
  | _ => .fail .dataclassType

/-- **A required member.** -/
def required (key : String) (decode : Decoder α) (ms : Members) : Checked α :=
  match Keyed.find? key ms with
  | some json => (decode json).under (.key key)
  | none => .invalid [⟨.missing, [.key key]⟩]

/-- **A member that may be absent**, and then has a default. -/
def withDefault (key : String) (default : α) (decode : Decoder α) (ms : Members) : Checked α :=
  match Keyed.find? key ms with
  | some json => (decode json).under (.key key)
  | none => .valid default

/-- **A member that may be absent or null.** -/
def omissible (key : String) (decode : Decoder α) : Members → Checked (Option α) :=
  withDefault key none (nullable decode)

end Decoder

end ConnectionJobs
