import ConnectionJobs.Settings.Basic
import ConnectionJobs.Settings.Sources

/-!
# Loading settings

Settings are loaded once, at start-up, from the process environment and the environment file. The tools that
migrate the database need only its URL and load nothing else, so that an unrelated mistake does not stop them.
-/

namespace ConnectionJobs.Settings

/-- **Why settings cannot be loaded.** -/
inductive LoadFailure where
  /-- A table setting cannot be read. -/
  | unparsable (u : Unparsable)
  /-- Settings are invalid. -/
  | invalid (problems : List Problem)
  /-- The database URL is blank. -/
  | blankUrl
  deriving DecidableEq, Repr

/-- The message of a failure. -/
def LoadFailure.message : LoadFailure → String
  | unparsable u => u.message
  | invalid _ => "Startup configuration validation failed. Update .env or environment variables."
  | blankUrl => "Database URL configuration validation failed. DATABASE_URL must not be blank."

/-- **The surroundings settings are loaded from**: the process environment, the text of the environment file if there
is one, and the room that is left where they are loaded. -/
structure Surroundings where
  /-- The process environment. -/
  environment : Keyed String String
  /-- The environment file. -/
  file : Option String
  /-- How many containers in each other can still be read. A program can call to some depth only, and every container
  takes a call. -/
  room : Nat
  deriving DecidableEq, Repr, Inhabited

/-- All settings, in the order in which they are checked. -/
def fields : List Field :=
  [⟨"environment_name", false⟩, ⟨"database_url", false⟩, ⟨"log_level", false⟩, ⟨"log_json", false⟩,
   ⟨"job_default_cpu_request", false⟩, ⟨"job_default_cpu_limit", false⟩,
   ⟨"job_default_memory_request", false⟩, ⟨"job_default_memory_limit", false⟩,
   ⟨"resource_requirement_variants", true⟩, ⟨"feature_flags", true⟩,
   ⟨"feature_flag_context_overrides", true⟩]

/-- **Load the settings.** -/
def load (s : Surroundings) : Except LoadFailure Settings :=
  match collect s.room fields s.environment s.file with
  | .error u => .error (.unparsable u)
  | .ok members =>
    match decode members with
    | .valid settings => .ok settings
    | .invalid problems => .error (.invalid problems)

/-- **Load the database URL** alone, without the blanks around it; it must not be blank. -/
def loadDatabaseUrl (s : Surroundings) : Except LoadFailure String :=
  match collect s.room [⟨"database_url", false⟩] s.environment s.file with
  | .error u => .error (.unparsable u)
  | .ok members =>
    match Decoder.withDefault "database_url" defaultDatabaseUrl Decoder.text members with
    | .invalid problems => .error (.invalid problems)
    | .valid url =>
      let trimmed := Text.trim url
      if trimmed.isEmpty then .error .blankUrl else .ok trimmed

end ConnectionJobs.Settings
