import ConnectionJobs.Database.Dialect
import ConnectionJobs.Database.Url
import ConnectionJobs.Text.Fraction
import ConnectionJobs.Text.SmallLetter

/-!
# Arguments of a connection

A driver makes the arguments of its connections from the URL when the engine is created, and refuses a URL from
which it cannot. PostgreSQL takes several hosts with their ports, in one of two ways of writing them. SQLite opens
a file, has no hosts, and reads some options as numbers and truth values.
-/

namespace ConnectionJobs.Database

/-- **Why a driver refuses a URL.** -/
inductive ArgumentProblem where
  /-- Every one of several hosts has more than one port behind it. -/
  | tooManyPorts
  /-- Hosts have ports both behind them and in an option of their own. -/
  | mixedPorts
  /-- Ports are no numbers. -/
  | badPorts (ports : List (Option String))
  /-- There are not as many ports as hosts. -/
  | unmatchedPorts
  /-- A file database has a user, a password, a host or a port. -/
  | noFile (url : String)
  /-- An option is no truth value. -/
  | noTruthValue (value : String)
  /-- An option is no number. -/
  | noNumber (value : String)
  /-- An option is no whole number. -/
  | noWholeNumber (reason : Text.NotInteger)
  /-- An option that is a number is given several times. -/
  | severalNumbers
  /-- An option that is a whole number is given several times. -/
  | severalWholeNumbers
  /-- There are options for a file, but there is no file. -/
  | optionsWithoutFile
  deriving DecidableEq, Repr

/-- Ports as they are shown: texts in quotation marks, between parentheses. -/
def shownPorts (ports : List (Option String)) : String :=
  let shown := ports.map fun port => (port.map Text.quoted).getD "None"
  "(" ++ String.intercalate ", " shown ++ (if shown.length = 1 then ",)" else ")")

/-- The message of a problem. -/
def ArgumentProblem.message : ArgumentProblem → String
  | tooManyPorts => "too many values to unpack (expected 2)"
  | mixedPorts =>
    "Can't mix 'multihost' formats together; use \"host=h1,h2,h3&port=p1,p2,p3\" or " ++
      "\"host=h1:p1&host=h2:p2&host=h3:p3\" separately"
  | badPorts ports => "Received non-integer port arguments: " ++ shownPorts ports
  | unmatchedPorts => "number of hosts and ports don't match"
  | noFile url =>
    "Invalid SQLite URL: " ++ url ++
      "\nValid SQLite URL forms are:\n sqlite:///:memory: (or, sqlite://)\n" ++
      " sqlite:///relative/path/to/file.db\n sqlite:////absolute/path/to/file.db"
  | noTruthValue value => "String is not true/false: " ++ Text.quoted value
  | noNumber value => "could not convert string to float: " ++ Text.quoted value
  | noWholeNumber reason => reason.message
  | severalNumbers => "float() argument must be a string or a real number, not 'tuple'"
  | severalWholeNumbers =>
    "int() argument must be a string, a bytes-like object or a real number, not 'tuple'"
  | optionsWithoutFile => "unsupported operand type(s) for +=: 'NoneType' and 'str'"

/-! ## Several hosts -/

/-- The first port behind each of several hosts. It is an error when every one of them has more than one. -/
def portsOfHosts (hosts : List String) : Except ArgumentProblem (List (Option String)) :=
  let parts := hosts.map (Text.piecesOf ':')
  if parts.all fun p => p.length > 2 then .error .tooManyPorts
  else .ok (parts.map fun p => p[1]?)

/-- **The hosts and ports among the options**: the number of hosts, when there are any, and the ports. Hosts are
given with their ports by an option for each, or apart from them, with commas between them. -/
def hostsAndPorts (u : Url) : Except ArgumentProblem (Option Nat × List (Option String)) := do
  let apart :=
    match u.valuesOf "port" with
    | [one] => (Text.piecesOf ',' one).map some
    | several => several.map some
  match u.valuesOf "host" with
  | [] => return (none, apart)
  | [one] => return (some (Text.piecesOf ',' one).length, apart)
  | several =>
    let ports ← portsOfHosts several
    if !apart.isEmpty then throw .mixedPorts
    return (some several.length, ports)

/-- The text is empty or a number. -/
def isPort (port : Option String) : Bool :=
  match port with
  | none => true
  | some text => text.isEmpty || (Text.readInteger 10 text).isOk

/-- **Check the hosts and ports** for PostgreSQL: there is one port for each host, or a single port for all. -/
def checkHosts (u : Url) : Except ArgumentProblem Unit := do
  let (hosts, ports) ← hostsAndPorts u
  if !ports.all isPort then throw (.badPorts ports)
  match hosts with
  | none => if ports.length > 1 then throw .unmatchedPorts
  | some count =>
    if !ports.isEmpty && count != ports.length && (count > 1 || ports.length > 1) then throw .unmatchedPorts

/-! ## Files -/

/-- The words for yes. -/
def yesWords : List String := ["true", "yes", "on", "y", "t", "1"]

/-- The words for no. -/
def noWords : List String := ["false", "no", "off", "n", "f", "0"]

/-- **The truth value of an option**; one that is given several times is true. -/
def truthValue (values : List String) : Except ArgumentProblem Bool :=
  match values with
  | [] => .ok false
  | [value] =>
    let word := Text.inSmallLetters (Text.trim value)
    if word ∈ yesWords then .ok true
    else if word ∈ noWords then .ok false
    else .error (.noTruthValue word)
  | _ => .ok true

/-- Check an option that is a number. -/
def checkNumber (values : List String) : Except ArgumentProblem Unit :=
  match values with
  | [] => .ok ()
  | [value] => if Text.isFraction value then .ok () else .error (.noNumber value)
  | _ => .error .severalNumbers

/-- Check an option that is a whole number. -/
def checkWholeNumber (values : List String) : Except ArgumentProblem Unit :=
  match values with
  | [] => .ok ()
  | [value] => (Text.readInteger 10 value).mapError .noWholeNumber |>.map fun _ => ()
  | _ => .error .severalWholeNumbers

/-- The options that are for the driver; others are for the file. -/
def driverOptions : List String :=
  ["uri", "timeout", "isolation_level", "detect_types", "check_same_thread", "cached_statements"]

/-- A text is given and not empty. -/
def isFilled (s : Option String) : Bool := (s.getD "") != ""

/-- **Check a file database** for SQLite. -/
def checkFile (u : Url) : Except ArgumentProblem Unit := do
  if isFilled u.user || isFilled u.password || isFilled u.host || u.port.getD 0 != 0 then
    throw (.noFile u.shownText)
  let namesFile ← truthValue (u.valuesOf "uri")
  checkNumber (u.valuesOf "timeout")
  checkWholeNumber (u.valuesOf "detect_types")
  let _ ← truthValue (u.valuesOf "check_same_thread")
  checkWholeNumber (u.valuesOf "cached_statements")
  if namesFile && u.database.isNone && u.options.any fun option => !(option.1 ∈ driverOptions) then
    throw .optionsWithoutFile

/-- **Check the arguments of connections** that a dialect makes from a URL. -/
def checkArguments (d : Dialect) (u : Url) : Except ArgumentProblem Unit :=
  match d with
  | .postgresql => checkHosts u
  | .sqlite => checkFile u
  | _ => .ok ()

end ConnectionJobs.Database
