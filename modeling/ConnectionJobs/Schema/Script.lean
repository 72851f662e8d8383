import ConnectionJobs.Database.Url
import ConnectionJobs.Schema.Migration
import ConnectionJobs.Schema.Reference
import ConnectionJobs.Settings.Load

/-!
# Migration scripts

A migration script is written for the database that the settings name, although nothing is sent to it: the URL
decides the dialect of the script. Its driver need not be there.
-/

namespace ConnectionJobs.Schema

/-- **Why a script cannot be written.** -/
inductive ScriptFailure where
  /-- The command names no way to go. -/
  | command (problem : CommandProblem)
  /-- The database URL cannot be loaded. -/
  | settings (failure : Settings.LoadFailure)
  /-- A reference in the database URL leads nowhere. -/
  | reference (problem : ReferenceProblem)
  /-- The database URL cannot be taken apart. -/
  | url (problem : Database.UrlProblem)
  /-- The database URL names no known dialect. -/
  | scheme (problem : Database.SchemeProblem)
  deriving DecidableEq, Repr

/-- The message of a failure. -/
def ScriptFailure.message : ScriptFailure → String
  | command problem => problem.message
  | settings failure => failure.message
  | reference problem => problem.message
  | url problem => problem.message
  | scheme problem => problem.message

/-- **The dialect a script is written in.** -/
def scriptDialect (surroundings : Settings.Surroundings) : Except ScriptFailure Database.Dialect := do
  let text ← (Settings.loadDatabaseUrl surroundings).mapError .settings
  let resolved ← (followReferences text).mapError .reference
  let url ← (Database.Url.parse resolved).mapError .url
  let (dialect, _) ← (Database.driverOf url.scheme).mapError .scheme
  return dialect

/-- **The script of a command**, for the database that the settings name. -/
def commandScript (surroundings : Settings.Surroundings) (c : Command) : Except ScriptFailure String := do
  let names ← (scriptNames c).mapError .command
  let dialect ← scriptDialect surroundings
  (script dialect c.direction names).mapError .command

/-- **The scripts of commands**, one after the other. -/
def commandScripts (surroundings : Settings.Surroundings) (commands : List Command) :
    Except ScriptFailure String := do
  return String.join (← commands.mapM (commandScript surroundings))

end ConnectionJobs.Schema
