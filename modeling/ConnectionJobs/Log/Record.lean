import ConnectionJobs.Json.Writer
import ConnectionJobs.Log.Clock
import ConnectionJobs.Log.Template
import ConnectionJobs.Uuid

/-!
# Log records and log lines

A log record becomes one line of output. As a JSON line it is an object with the time, the level, the logger,
the message, the exception if there is one, and those attributes of the record whose names start with `ctx_`;
no other attribute is written. As a plain line it is the same without attributes, and the exception follows on
a line of its own.
-/

namespace ConnectionJobs.Log

/-- **An attribute** of a record: a JSON value, or an identifier, which is written as its text, or a container of
attributes, so that identifiers may stand inside containers too. -/
inductive Attribute where
  /-- A JSON value. -/
  | json (value : Json)
  /-- An identifier. -/
  | uuid (value : Uuid)
  /-- A list of attributes. -/
  | list (items : List Attribute)
  /-- Attributes under keys. -/
  | table (members : List (String × Attribute))
  deriving Inhabited

namespace Attribute

mutual

/-- **The value of an attribute** in a line. -/
def toJson : Attribute → Json
  | json value => value
  | uuid value => .text value.text
  | list items => .array (toJsonItems items)
  | table members => .object (toJsonMembers members)

/-- The values of items. -/
def toJsonItems : List Attribute → List Json
  | [] => []
  | item :: rest => toJson item :: toJsonItems rest

/-- The values under keys. -/
def toJsonMembers : List (String × Attribute) → List (String × Json)
  | [] => []
  | (key, value) :: rest => (key, toJson value) :: toJsonMembers rest

end

end Attribute

/-- **An exception** attached to a record: what is printed of it, with the calls that it has come through and the
exceptions that it has come from. -/
structure ExceptionInfo where
  /-- What is printed. -/
  printed : String
  deriving DecidableEq, Repr, Inhabited

/-- An exception that has come through no calls: its class, and its message when there is one. -/
def ExceptionInfo.ofMessage (className message : String) : ExceptionInfo where
  printed := if message.isEmpty then className ++ "\n" else className ++ ": " ++ message ++ "\n"

/-- **The text of an exception**: what is printed of it, without the line break at the end. -/
def ExceptionInfo.text (e : ExceptionInfo) : String :=
  let cs := e.printed.toList
  if cs.getLast? == some '\n' then String.ofList cs.dropLast else e.printed

/-- **A log record.** -/
structure Record where
  /-- The logger. -/
  logger : String
  /-- The number of the level. -/
  level : Int
  /-- The message template. -/
  template : String
  /-- The arguments of the template. -/
  arguments : List Json
  /-- When the record was made, in seconds since the start of 1970. -/
  created : Int
  /-- The milliseconds after that second. -/
  milliseconds : Nat
  /-- The attributes given with the record, in order. -/
  attributes : Keyed String Attribute
  /-- The exception attached to the record. -/
  exceptionInfo : Option ExceptionInfo
  deriving Inhabited

/-- The name of a level number. -/
def levelName (n : Int) : String :=
  if n = 50 then "CRITICAL"
  else if n = 40 then "ERROR"
  else if n = 30 then "WARNING"
  else if n = 20 then "INFO"
  else if n = 10 then "DEBUG"
  else if n = 0 then "NOTSET"
  else "Level " ++ toString n

/-- **Why a line cannot be written.** -/
inductive LineProblem where
  /-- The time cannot be shown. -/
  | time (problem : ClockProblem)
  /-- The template and its arguments do not fit. -/
  | template (problem : TemplateProblem)
  /-- The message holds half of a surrogate pair. -/
  | broken
  /-- An attribute holds an integer beyond sixty-four bits. -/
  | integerRange
  /-- An attribute nests too deeply. -/
  | nesting
  deriving DecidableEq, Repr

/-- The message of a problem. -/
def LineProblem.message : LineProblem → String
  | time problem => problem.message
  | template problem => problem.message
  | broken => "str is not valid UTF-8: surrogates not allowed"
  | integerRange => "Integer exceeds 64-bit range"
  | nesting => "Recursion limit reached"

mutual

/-- **A value can be written in a line**: its integers fit in sixty-four bits, and it nests no more than `room`
containers. -/
def checkValue (room : Nat) : Json → Except LineProblem Unit
  | .integer n =>
    if -9223372036854775808 ≤ n && n < 18446744073709551616 then .ok () else .error .integerRange
  | .array items =>
    match room with
    | 0 => .error .nesting
    | room + 1 => checkValues room items
  | .object members =>
    match room with
    | 0 => .error .nesting
    | room + 1 => checkMembers room members
  | _ => .ok ()

/-- All items can be written. -/
def checkValues (room : Nat) : List Json → Except LineProblem Unit
  | [] => .ok ()
  | item :: rest => do
    checkValue room item
    checkValues room rest

/-- All member values can be written. -/
def checkMembers (room : Nat) : List (String × Json) → Except LineProblem Unit
  | [] => .ok ()
  | (_, value) :: rest => do
    checkValue room value
    checkMembers room rest

end

/-- How many containers a line may nest, the line itself among them. -/
def lineNestingLimit : Nat := 254

/-- What the names of the attributes that are written start with. -/
def contextMark : String := "ctx_"

/-- **The attributes that are written**, in their order. -/
def Record.context (r : Record) : Members :=
  (r.attributes.filter fun a => contextMark.toList.isPrefixOf a.1.toList).map fun a => (a.1, a.2.toJson)

/-- The message of a record, which may hold halves of surrogate pairs. -/
def Record.message (r : Record) : Except LineProblem (List Text.CodePoint) :=
  (writeTemplate r.template r.arguments).mapError .template

/-- **A message as it is written out.** Halves of surrogate pairs cannot be. -/
def writtenMessage (message : List Text.CodePoint) : Except LineProblem String :=
  match Text.characters? message with
  | some cs => .ok (String.ofList cs)
  | none => .error .broken

/-- The time of a record in a zone, with a separator between the date and the time of day. -/
def Record.time (zone : Zone) (r : Record) (separator : String) : Except LineProblem String :=
  match DateTime.ofSeconds? zone r.created with
  | .ok time => .ok (time.text separator)
  | .error problem => .error (.time problem)

/-- The members of the JSON line of a record, given its time and its message. -/
def Record.lineMembers (r : Record) (time message : String) : Members :=
  [("timestamp", .text time),
   ("level", .text (levelName r.level)),
   ("name", .text r.logger),
   ("message", .text message)] ++
  (match r.exceptionInfo with
    | some e => [("exc_info", Json.text e.text)]
    | none => []) ++
  Keyed.settle r.context

/-- **The JSON line** of a record, without a line break. -/
def Record.jsonLine (zone : Zone) (r : Record) : Except LineProblem String := do
  let time ← r.time zone "T"
  let message ← writtenMessage (← r.message)
  let document := Json.object (r.lineMembers time message)
  checkValue lineNestingLimit document
  return document.write

/-- A text on the next line, if there is any. -/
def onNextLine (line text : String) : String :=
  if text.isEmpty then line
  else if line.toList.getLast? == some '\n' then line ++ text
  else line ++ "\n" ++ text

/-- **The plain line** of a record, with its exception on the next line. -/
def Record.plainLine (zone : Zone) (r : Record) : Except LineProblem String := do
  let message ← writtenMessage (← r.message)
  let time ← r.time zone " "
  let line := time ++ "," ++ padded 3 r.milliseconds ++ " " ++ levelName r.level ++ " " ++ r.logger ++ ": " ++ message
  return onNextLine line ((r.exceptionInfo.map ExceptionInfo.text).getD "")

end ConnectionJobs.Log
