import ConnectionJobs.Json.Reader
import ConnectionJobs.Settings.DotEnv
import ConnectionJobs.Text.SmallLetter

/-!
# Sources of settings

Settings come from the process environment and from an environment file; where both give a setting the process
environment counts. Names are compared without regard to case. Settings that are tables are written as JSON,
and tables given by both sources are merged member by member.
-/

namespace ConnectionJobs.Settings

/-- **The sources** of settings, by precedence. -/
inductive Source where
  /-- The process environment. -/
  | environment
  /-- The environment file. -/
  | file
  deriving DecidableEq, Repr, Inhabited

/-- The name of a source in messages. -/
def Source.name : Source → String
  | environment => "EnvSettingsSource"
  | file => "DotEnvSettingsSource"

/-- **A setting**: its name, and whether it is a table. -/
structure Field where
  /-- The name, in small letters. -/
  name : String
  /-- The setting is a table and is written as JSON. -/
  isTable : Bool
  deriving DecidableEq, Repr, Inhabited

/-- **A table setting that cannot be read**: why, the setting, and the source that gives it. -/
structure Unparsable where
  /-- Why it cannot be read. -/
  reason : Json.Unreadable
  /-- The name of the setting. -/
  field : String
  /-- The source. -/
  source : Source
  deriving DecidableEq, Repr, Inhabited

/-- The message about nesting that is too deep at a container of some kind. -/
def tooDeepMessage (container : String) : String :=
  "maximum recursion depth exceeded while decoding a JSON " ++ container ++ " from a unicode string"

/-- The message about a setting that cannot be read. -/
def Unparsable.message (u : Unparsable) : String :=
  match u.reason with
  -- Where only containers are levels, no scalar is too deep.
  | .malformed | .scalarTooDeep =>
    "error parsing value for field \"" ++ u.field ++ "\" from source \"" ++ u.source.name ++ "\""
  | .arrayTooDeep => tooDeepMessage "array"
  | .objectTooDeep => tooDeepMessage "object"

/-- Values under names in small letters; of several for one name the last counts. -/
def lowered {α : Type} (values : Keyed String α) : Keyed String α :=
  Keyed.settle (values.map fun (name, value) => (Text.inSmallLetters name, value))

/-- The value of a setting as a source gives it: a text, or the value of a table, read with some `room` for containers.
A table written as `null` is not given. -/
def fieldValue (room : Nat) (source : Source) (field : Field) (text : String) : Except Unparsable (Option Json) :=
  if field.isTable then
    match Json.read (Json.settingRules room) text with
    | .ok .null => .ok none
    | .ok json => .ok (some json)
    | .error reason => .error ⟨reason, field.name, source⟩
  else .ok (some (.text text))

/-- **What a source gives**: the settings among its values, in the order of `fields`. -/
def given (room : Nat) (source : Source) (values : Keyed String (Option String)) :
    List Field → Except Unparsable Members
  | [] => .ok []
  | field :: rest => do
    let value ←
      match (Keyed.find? field.name values).join with
      | some text => fieldValue room source field text
      | none => pure none
    let others ← given room source values rest
    match value with
    | some json => return (field.name, json) :: others
    | none => return others

mutual

/-- **Merge a value over another**: objects member by member, anything else by replacing it. -/
def overlay (lower : Json) : Json → Json
  | .object members =>
    match lower with
    | .object base => .object (overlayMembers base members)
    | _ => .object members
  | upper => upper

/-- Merge members over others, which keep their places. -/
def overlayMembers (base : List (String × Json)) : List (String × Json) → List (String × Json)
  | [] => base
  | (key, value) :: rest =>
    let merged :=
      match Keyed.find? key base with
      | some lower => overlay lower value
      | none => value
    overlayMembers (Keyed.set key merged base) rest

end

/-- **Everything the sources give**: the process environment over the file. A value that cannot be parsed is
reported for the process environment first. -/
def collect (room : Nat) (fields : List Field) (environment : Keyed String String) (file : Option String) :
    Except Unparsable Members := do
  let fromEnvironment ← given room .environment (lowered (environment.map fun (n, v) => (n, some v))) fields
  let fileValues := lowered ((file.map (DotEnv.values environment)).getD [])
  let fromFile ← given room .file fileValues fields
  return overlayMembers fromFile fromEnvironment

end ConnectionJobs.Settings
