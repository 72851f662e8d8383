import ConnectionJobs.Text.Alphanumeric
import ConnectionJobs.Text.Numeral
import ConnectionJobs.Text.Percent
import ConnectionJobs.Text.Split

/-!
# Database URLs

The database is named by a URL: a scheme, which is a dialect and perhaps a driver, a user and a password, a host
and a port, the name of the database, and options. User, password, database and options may contain escapes. A
URL is taken apart when the engine is created, and written again, with escapes of its own, when it is shown.
-/

namespace ConnectionJobs.Database

/-- **A database URL**, taken apart. -/
structure Url where
  /-- The dialect, with the driver after a plus sign if one is named. -/
  scheme : String
  /-- The user. -/
  user : Option String
  /-- The password. -/
  password : Option String
  /-- The host. -/
  host : Option String
  /-- The port. -/
  port : Option Int
  /-- The database. -/
  database : Option String
  /-- The options, in the order in which they are written. An option may be given several times. -/
  options : List (String × String)
  deriving DecidableEq, Repr, Inhabited

/-- **Why a text is no URL.** -/
inductive UrlProblem where
  /-- It cannot be taken apart. -/
  | unparsable
  /-- The port is no number. -/
  | badPort (reason : Text.NotInteger)
  deriving DecidableEq, Repr

/-- The message of a problem. -/
def UrlProblem.message : UrlProblem → String
  | unparsable => "Could not parse SQLAlchemy URL from given URL string"
  | badPort reason => reason.message

/-! ## Taking a URL apart -/

/-- A character of a scheme. -/
def isSchemeChar (c : Char) : Bool := c == '+' || Text.isWordChar c

/-- Split off user and password, when they are given. -/
def splitUser (cs : List Char) : Option (List Char) × Option (List Char) × List Char :=
  let (run, rest) := cs.span fun c => c != ':' && c != '/'
  let bare : Option (List Char) × Option (List Char) × List Char :=
    match Text.splitLast '@' run with
    | some (user, after) => (some user, none, after ++ rest)
    | none => (none, none, cs)
  match rest with
  | ':' :: more =>
    match more.span (· != '@') with
    | (password, _ :: after) => (some run, some password, after)
    | (_, []) => bare
  | _ => bare

/-- Split off a host in brackets. -/
def splitBracketed (cs : List Char) : Option (List Char × List Char) :=
  match cs with
  | '[' :: more =>
    let (run, rest) := more.span fun c => c != '/' && c != '?'
    match Text.splitLast ']' run with
    | some ([], _) => none
    | some (host, after) => some (host, after ++ rest)
    | none => none
  | _ => none

/-- Split off the host, when one is given. -/
def splitHost (cs : List Char) : Option (List Char) × List Char :=
  match splitBracketed cs with
  | some (host, rest) => (some host, rest)
  | none =>
    match cs.span fun c => c != '/' && c != ':' && c != '?' with
    | ([], rest) => (none, rest)
    | (host, rest) => (some host, rest)

/-- An option, when it has a name and a value that is not empty. -/
def optionOf (cs : List Char) : Option (String × String) :=
  let spaced := fun (part : List Char) => part.map fun c => if c == '+' then ' ' else c
  match cs.span (· != '=') with
  | (_, []) | (_, [_]) => none
  | (name, _ :: value) => some (Text.unescape (spaced name), Text.unescape (spaced value))

/-- Split off the port, when one is given. -/
def splitPort (cs : List Char) : Except UrlProblem (Option Int × List Char) :=
  match cs with
  | ':' :: more =>
    let (digits, rest) := more.span fun c => c != '/' && c != '?'
    match Text.readInteger 10 (String.ofList digits) with
    | .ok n => .ok (some n, rest)
    | .error reason => .error (.badPort reason)
  | _ => .ok (none, cs)

/-- Split off the database, when one is given. -/
def splitDatabase (cs : List Char) : Option (List Char) × List Char :=
  match cs with
  | '/' :: more =>
    let (name, rest) := more.span (· != '?')
    (some name, rest)
  | _ => (none, cs)

/-- The options after a question mark. -/
def optionsOf (cs : List Char) : List (String × String) :=
  match cs with
  | '?' :: more => (Text.pieces '&' (more.takeWhile (· != '\n'))).filterMap optionOf
  | _ => []

/-- **Take a URL apart.** -/
def Url.parse (text : String) : Except UrlProblem Url :=
  match text.toList.span isSchemeChar with
  | ([], _) => .error .unparsable
  | (scheme, ':' :: '/' :: '/' :: rest) => do
    let (user, password, afterUser) := splitUser rest
    let (host, afterHost) := splitHost afterUser
    let (port, afterPort) ← splitPort afterHost
    let (database, afterDatabase) := splitDatabase afterPort
    return {
      scheme := String.ofList scheme
      user := user.map Text.unescape
      password := password.map Text.unescape
      host := host.map String.ofList
      port := port
      database := database.map Text.unescape
      options := optionsOf afterDatabase }
  | _ => .error .unparsable

/-! ## Writing a URL -/

/-- A host as it is written: in brackets when it contains colons. -/
def hostText (host : String) : String :=
  if host.toList.contains ':' then "[" ++ host ++ "]" else host

/-- A text with something in front of it, when there is one. -/
def after (front : String) (s : Option String) : String :=
  match s with
  | some s => front ++ s
  | none => ""

/-- A URL as it is written, with the options sorted by name. `hide` is what is written for the password. -/
def Url.textWith (u : Url) (hide : String → String) : String :=
  let account :=
    match u.user with
    | some user => Text.escape " +" user ++ after ":" (u.password.map hide) ++ "@"
    | none => ""
  let sorted := u.options.mergeSort fun a b => !(b.1 < a.1)
  let options := sorted.map fun (name, value) => Text.escapeSpaced name ++ "=" ++ Text.escapeSpaced value
  u.scheme ++ "://" ++ account ++ after "" (u.host.map hostText) ++ after ":" (u.port.map toString) ++
    after "/" (u.database.map (Text.escape " +/")) ++
    (if options.isEmpty then "" else "?" ++ String.intercalate "&" options)

/-- **The text of a URL.** -/
def Url.text (u : Url) : String := u.textWith (Text.escape " +")

/-- **The text of a URL for messages**, which do not show the password. -/
def Url.shownText (u : Url) : String := u.textWith fun _ => "***"

/-- The values of an option, in the order in which they are given. -/
def Url.valuesOf (u : Url) (name : String) : List String :=
  (u.options.filter fun option => option.1 == name).map Prod.snd

end ConnectionJobs.Database
