import ConnectionJobs.Json.Basic

/-!
# What is wrong with a document

A document that does not have the expected shape is described by *problems*: what is wrong, and where. All
problems of a document are reported together, in the order in which its parts are declared.
-/

namespace ConnectionJobs

/-- **What is wrong** with a part of a document. -/
inductive ProblemKind where
  /-- The text is no JSON text. -/
  | jsonInvalid
  /-- A required member is absent. -/
  | missing
  /-- A text is required. -/
  | stringType
  /-- A text holds half of a surrogate pair. -/
  | stringUnicode
  /-- An integer is required. -/
  | intType
  /-- A text does not denote an integer. -/
  | intParsing
  /-- A number has a fraction where an integer is required. -/
  | intFromFloat
  /-- A number is too large to be taken as an integer. -/
  | intParsingSize
  /-- A finite number is required. -/
  | finiteNumber
  /-- A truth value is required. -/
  | boolType
  /-- A text or number does not denote a truth value. -/
  | boolParsing
  /-- A text holding an identifier is required. -/
  | uuidType
  /-- A text is no identifier. -/
  | uuidParsing
  /-- A value is none of those allowed. -/
  | enumeration
  /-- A list is required. -/
  | tupleType
  /-- An object is required, as a table. -/
  | dictType
  /-- An object is required, as a settings entry. -/
  | modelType
  /-- An object is required, as a record. -/
  | dataclassType
  /-- A member is not allowed. -/
  | extraForbidden
  /-- The key of a member holds half of a surrogate pair. -/
  | invalidKey
  /-- The member that tells the alternatives apart is absent. -/
  | unionTagNotFound
  /-- The member that tells the alternatives apart names none of them. -/
  | unionTagInvalid
  /-- The value breaks a rule of its own, stated in the message. -/
  | ruleBroken (message : String)
  deriving DecidableEq, Repr, Inhabited

/-- **The code** under which a problem is reported. -/
def ProblemKind.code : ProblemKind → String
  | jsonInvalid => "json_invalid"
  | missing => "missing"
  | stringType => "string_type"
  | stringUnicode => "string_unicode"
  | intType => "int_type"
  | intParsing => "int_parsing"
  | intFromFloat => "int_from_float"
  | intParsingSize => "int_parsing_size"
  | finiteNumber => "finite_number"
  | boolType => "bool_type"
  | boolParsing => "bool_parsing"
  | uuidType => "uuid_type"
  | uuidParsing => "uuid_parsing"
  | enumeration => "enum"
  | tupleType => "tuple_type"
  | dictType => "dict_type"
  | modelType => "model_type"
  | dataclassType => "dataclass_type"
  | extraForbidden => "extra_forbidden"
  | invalidKey => "invalid_key"
  | unionTagNotFound => "union_tag_not_found"
  | unionTagInvalid => "union_tag_invalid"
  | ruleBroken _ => "value_error"

/-- **The message** of a problem that has one of its own: the broken rule. -/
def ProblemKind.message? : ProblemKind → Option String
  | ruleBroken message => some ("Value error, " ++ message)
  | _ => none

/-- **A step** from a part of a document to a part of that part. -/
inductive PathStep where
  /-- To the member under a key, or into a named alternative. -/
  | key (name : String)
  /-- To an item of a list. -/
  | index (position : Nat)
  deriving DecidableEq, Repr, Inhabited

/-- **A problem**: what is wrong, and the path to the part that has it. How it is worded for a reader is left out: that
depends on where the document came from, and nothing is decided by it. -/
structure Problem where
  /-- What is wrong. -/
  kind : ProblemKind
  /-- The path from the document to the part. -/
  path : List PathStep
  deriving DecidableEq, Repr, Inhabited

/-- The same problem, seen from one step further out. -/
def Problem.under (step : PathStep) (p : Problem) : Problem :=
  { p with path := step :: p.path }

/-- A step as a document. -/
def PathStep.toJson : PathStep → Json
  | key name => .text name
  | index position => .integer position

/-- **A problem as a document**: its code, its path, and its message if it has one. -/
def Problem.toJson (p : Problem) : Json :=
  .object
    ([("type", .text p.kind.code), ("loc", .array (p.path.map PathStep.toJson))] ++
      match p.kind.message? with
      | some message => [("msg", .text message)]
      | none => [])

end ConnectionJobs
