import ConnectionJobs.Log.Record

/-!
# Setting up the log

Logging is set up once, with a level and a choice between JSON lines and plain lines. Records below the level
are dropped. A record whose line cannot be written leaves no trace in the output. Times are shown in the zone of the
program.
-/

namespace ConnectionJobs.Log

/-- **A level as it is chosen**: by number or by name. -/
inductive LevelChoice where
  /-- A number. -/
  | number (n : Int)
  /-- A name. -/
  | name (s : String)
  deriving DecidableEq, Repr, Inhabited

/-- **The number of a level name.** Names are in capitals. -/
def levelNumber? : String → Option Int
  | "CRITICAL" | "FATAL" => some 50
  | "ERROR" => some 40
  | "WARNING" | "WARN" => some 30
  | "INFO" => some 20
  | "DEBUG" => some 10
  | "NOTSET" => some 0
  | _ => none

/-- **The form of log lines.** -/
inductive Form where
  /-- A JSON object per line. -/
  | json
  /-- Plain text. -/
  | plain
  deriving DecidableEq, Repr, Inhabited

/-- **A log that is set up**: the level of its root, and the form of its lines. -/
structure Setup where
  /-- The level below which records are dropped. -/
  level : Int
  /-- The form of lines. -/
  form : Form
  deriving DecidableEq, Repr, Inhabited

/-- The level chosen when none is given. -/
def defaultLevel : LevelChoice := .name "INFO"

/-- **Set up the log.** An unknown level name is refused, and the failure says which. -/
def configure (choice : LevelChoice) (form : Form) : Except String Setup :=
  match choice with
  | .number n => .ok ⟨n, form⟩
  | .name s =>
    match levelNumber? s with
    | some n => .ok ⟨n, form⟩
    | none => .error ("Unknown level: " ++ Text.quoted s)

/-- A record of a level is written. -/
def Setup.enabled (setup : Setup) (level : Int) : Bool := 0 < level && setup.level ≤ level

/-- The line of a record. -/
def Setup.line (setup : Setup) (zone : Zone) (record : Record) : Except LineProblem String :=
  match setup.form with
  | .json => record.jsonLine zone
  | .plain => record.plainLine zone

/-- What a record adds to the output. -/
def Setup.write (setup : Setup) (zone : Zone) (record : Record) : String :=
  if setup.enabled record.level then
    match setup.line zone record with
    | .ok line => line ++ "\n"
    | .error _ => ""
  else ""

/-- **The output** of records, in order. -/
def Setup.output (setup : Setup) (zone : Zone) (records : List Record) : String :=
  String.join (records.map (setup.write zone))

end ConnectionJobs.Log
