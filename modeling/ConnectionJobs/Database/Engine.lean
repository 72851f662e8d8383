import ConnectionJobs.Database.Argument
import ConnectionJobs.Text.Blank

/-!
# Engines

An engine is made from a URL before anything is sent to the database: the URL is taken apart, its plugins are
looked for, its scheme leads to a driver, the library of the driver has to be there, and the driver makes the
arguments of its connections. The first of these that fails is reported.
-/

namespace ConnectionJobs.Database

/-- **Why no engine can be made.** -/
inductive EngineProblem where
  /-- The URL is blank. -/
  | blank
  /-- The URL cannot be taken apart. -/
  | url (problem : UrlProblem)
  /-- There is no such plugin. -/
  | unknownPlugin (name : String)
  /-- The scheme names no driver. -/
  | scheme (problem : SchemeProblem)
  /-- The library of the driver is not there. -/
  | missingLibrary (name : String)
  /-- The driver refuses the URL. -/
  | argument (problem : ArgumentProblem)
  deriving DecidableEq, Repr

/-- The message of a problem. -/
def EngineProblem.message : EngineProblem → String
  | blank => "database_url must not be blank"
  | url problem => problem.message
  | unknownPlugin name => "Can't load plugin: sqlalchemy.plugins:" ++ name
  | scheme problem => problem.message
  | missingLibrary name => "No module named '" ++ name ++ "'"
  | argument problem => problem.message

/-- **An engine** for a database. It checks a connection before it uses it. -/
structure Engine where
  /-- The URL, without the options that name plugins. -/
  url : Url
  /-- The dialect. -/
  dialect : Dialect
  /-- The driver. -/
  driver : Driver
  /-- Connections are checked before use. -/
  checksConnections : Bool
  deriving DecidableEq, Repr, Inhabited

/-- A URL without the options that name plugins. -/
def Url.withoutPlugins (u : Url) : Url :=
  { u with options := u.options.filter fun option => !(option.1 ∈ ["plugin", "plugins"]) }

/-- **Make an engine.** -/
def createEngine (text : String) : Except EngineProblem Engine := do
  if Text.isBlankText text then throw .blank
  let url ← (Url.parse text).mapError .url
  if let name :: _ := url.valuesOf "plugin" then throw (.unknownPlugin name)
  let (dialect, driver) ← (driverOf url.scheme).mapError .scheme
  if let some library := driver.missing then throw (.missingLibrary library)
  let url := url.withoutPlugins
  (checkArguments dialect url).mapError .argument
  return ⟨url, dialect, driver, true⟩

end ConnectionJobs.Database
