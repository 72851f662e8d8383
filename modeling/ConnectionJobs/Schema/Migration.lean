import ConnectionJobs.Schema.Ddl
import ConnectionJobs.Schema.Revision

/-!
# Migrations

The schema of the database is brought up and down by **migrations**, each known by its revision. There is one:
it creates the jobs, the refresh requests, the generations and the saved states, and takes them away again. The
database records the revision it is at in a table of its own.

Migrations are run on a database, or written as a script for somebody else to run.
-/

namespace ConnectionJobs.Schema

/-! ## The tables of job creation -/

/-- A column that may not be null. -/
def required (name : String) (type : ColumnType) : Column := ⟨name, type, false, false, none⟩

/-- A column that may be null. -/
def optional (name : String) (type : ColumnType) : Column := ⟨name, type, true, false, none⟩

/-- The column in which the database numbers the rows. -/
def rowNumber : Column := ⟨"id", .bigint, false, true, none⟩

/-- A time that is set to the current one by itself. -/
def currentTime (name : String) : Column := ⟨name, .timestamp, false, false, some "now()"⟩

/-- **The jobs.** -/
def jobsTable : Table where
  name := "jobs"
  columns :=
    [rowNumber, required "config_type" .text, required "scope" .text,
     { required "status" .text with defaultValue := some "'pending'" },
     required "config" .document, currentTime "created_at", currentTime "updated_at"]
  primaryKey := ["id"]
  primaryKeyName := none
  checks :=
    [⟨"ck_jobs_status",
      "status in ('pending', 'running', 'incomplete', 'failed', 'succeeded', 'cancelled')"⟩,
     ⟨"ck_jobs_config_type", "config_type in ('sync', 'refresh', 'reset_connection')"⟩]

/-- The index by which the jobs of a scope are found. -/
def jobsByScope : Index := ⟨"ix_jobs_scope_status", "jobs", ["scope", "status"], false, none⟩

/-- The index that keeps a scope from having two active jobs. -/
def activeJobs : Index :=
  ⟨"uq_jobs_scope_non_terminal", "jobs", ["scope"], true,
   some "status not in ('failed', 'succeeded', 'cancelled')"⟩

/-- **The refresh requests.** -/
def requestsTable : Table where
  name := "stream_refreshes"
  columns :=
    [rowNumber, required "connection_id" .uuid, required "stream_name" .text, optional "stream_namespace" .text,
     currentTime "created_at"]
  primaryKey := ["id"]
  primaryKeyName := none
  checks := []

/-- The index by which the requests of a connection are found. -/
def requestsByConnection : Index :=
  ⟨"ix_stream_refreshes_connection_id", "stream_refreshes", ["connection_id"], false, none⟩

/-- **The generations.** -/
def generationsTable : Table where
  name := "stream_generation"
  columns :=
    [rowNumber, required "connection_id" .uuid, required "stream_name" .text, optional "stream_namespace" .text,
     required "generation_id" .bigint, required "start_job_id" .bigint, currentTime "created_at"]
  primaryKey := ["id"]
  primaryKeyName := none
  checks := [⟨"ck_stream_generation_generation_id", "generation_id >= 0"⟩]

/-- The index by which the generations of a stream are found. -/
def generationsByStream : Index :=
  ⟨"ix_stream_generation_connection_stream", "stream_generation",
   ["connection_id", "stream_name", "stream_namespace"], false, none⟩

/-- **The saved states.** -/
def statesTable : Table where
  name := "connection_state"
  columns := [required "connection_id" .uuid, optional "state" .document, currentTime "updated_at"]
  primaryKey := ["connection_id"]
  primaryKeyName := none
  checks := []

/-! ## The migration -/

/-- **A migration**: its revision, and the changes that bring the schema up and down. -/
structure Migration where
  /-- The revision. -/
  revision : String
  /-- The changes up. -/
  up : List Change
  /-- The changes down. -/
  down : List Change
  deriving DecidableEq, Repr, Inhabited

/-- The change that drops an index. -/
def dropped (i : Index) : Change := .dropIndex i.name i.table

/-- **The migration** that creates the tables of job creation. -/
def baseline : Migration where
  revision := revisionId
  up :=
    [.createTable jobsTable, .createIndex jobsByScope, .createIndex activeJobs,
     .createTable requestsTable, .createIndex requestsByConnection,
     .createTable generationsTable, .createIndex generationsByStream,
     .createTable statesTable]
  down :=
    [.dropTable statesTable.name, dropped generationsByStream, .dropTable generationsTable.name,
     dropped requestsByConnection, .dropTable requestsTable.name, dropped activeJobs, dropped jobsByScope,
     .dropTable jobsTable.name]

/-- The table in which the database records its revision. -/
def versionTable : Table where
  name := "alembic_version"
  columns := [required "version_num" (.varchar 32)]
  primaryKey := ["version_num"]
  primaryKeyName := some "alembic_version_pkc"
  checks := []

/-! ## Commands -/

/-- The two directions. -/
inductive Direction where
  /-- Towards the newest revision. -/
  | upgrade
  /-- Towards the oldest. -/
  | downgrade
  deriving DecidableEq, Repr, Inhabited

/-- **A command**: a direction and the name of the place to go to. -/
structure Command where
  /-- The direction. -/
  direction : Direction
  /-- The name of the place, or of two with a colon between them. -/
  target : String
  deriving DecidableEq, Repr, Inhabited

/-- **Why a command cannot be carried out.** -/
inductive CommandProblem where
  /-- A name leads nowhere. -/
  | name (problem : NameProblem)
  /-- A script that goes down needs to be told from where. -/
  | missingStart
  /-- A range is only for scripts. -/
  | rangeNotAllowed
  /-- A range has more than two names. -/
  | tooManyNames
  /-- A script is to start at the base by a name that is not its own. -/
  | startNamedApart
  /-- The dialect does not know the types of the columns. -/
  | unknownType
  deriving DecidableEq, Repr

/-- The message of a problem. -/
def CommandProblem.message : CommandProblem → String
  | name problem => problem.message
  | missingStart => "downgrade with --sql requires <fromrev>:<torev>"
  | rangeNotAllowed => "Range revision not allowed"
  | tooManyNames => "too many values to unpack (expected 2)"
  | startNamedApart => "'NoneType' object has no attribute 'revision'"
  | unknownType => "(in table 'jobs', column 'config'): can't render element of type JSONB"

/-- The place that a name leads to in a direction. -/
def goal (direction : Direction) (current : Place) (name : String) : Except CommandProblem Place :=
  (match direction with
    | .upgrade => goalAbove current name
    | .downgrade => goalBelow current name).mapError .name

/-- The target is a range. -/
def isRange (target : String) : Bool := target.toList.contains ':'

/-- The step to take between two places in a direction: none when there is nothing to do. -/
def stepBetween (direction : Direction) (start goal : Place) : Option Direction :=
  match direction, start, goal with
  | .upgrade, .base, .head => some .upgrade
  | .downgrade, .head, .base => some .downgrade
  | _, _, _ => none

/-! ## Scripts -/

/-- The statement that records the revision after going up. -/
def recordStatement (d : Database.Dialect) : String :=
  "INSERT INTO alembic_version (version_num) VALUES ('" ++ baseline.revision ++ "') RETURNING " ++
    (if d == .sqlite then "" else "alembic_version.") ++ "version_num"

/-- The statement that forgets the revision after going down. -/
def forgetStatement : String :=
  "DELETE FROM alembic_version WHERE alembic_version.version_num = '" ++ baseline.revision ++ "'"

/-- **The script of a step**, one transaction. -/
def stepScript (d : Database.Dialect) : Direction → Except CommandProblem String
  | .upgrade =>
    if knowsTypes d then
      .ok (transaction d (scripted d ((Change.createTable versionTable).sql d) ++
        paragraph ("-- Running upgrade  -> " ++ baseline.revision) ++
        String.join (baseline.up.map fun c => scripted d (c.sql d)) ++ scripted d (recordStatement d)))
    else .error .unknownType
  | .downgrade =>
    .ok (transaction d (paragraph ("-- Running downgrade " ++ baseline.revision ++ " -> ") ++
      String.join (baseline.down.map fun c => scripted d (c.sql d)) ++ scripted d forgetStatement))

/-- **What a command for a script names**: where it starts and where it goes. Going up starts at the base unless
told otherwise; going down has to be told. -/
def scriptNames (command : Command) : Except CommandProblem (String × String) :=
  match Text.piecesOf ':' command.target, command.direction with
  | [start, goal], _ => .ok (start, goal)
  | _ :: _ :: _, _ => .error .tooManyNames
  | _, .upgrade => .ok ("base", command.target)
  | _, .downgrade => .error .missingStart

/-- The place where a script starts. The base is named by nothing but its name. -/
def startNamed (name : String) : Except CommandProblem Place :=
  if name == "base" then .ok .base
  else
    match positionNamed name with
    | .ok .revision => .ok .head
    | .ok _ => .error .startNamedApart
    | .error problem => .error (.name problem)

/-- **The script** between two named places. -/
def script (d : Database.Dialect) (direction : Direction) (names : String × String) :
    Except CommandProblem String := do
  let start ← startNamed names.1
  match stepBetween direction start (← goal direction start names.2) with
  | some step => stepScript d step
  | none => return ""

/-! ## Databases -/

/-- **A database** under migration: its schema, and the place it is at. -/
structure Migrated where
  /-- The schema. -/
  schema : Layout
  /-- The place. -/
  place : Place
  deriving DecidableEq, Repr, Inhabited

/-- A database that has never been migrated. -/
def Migrated.fresh : Migrated := ⟨.empty, .base⟩

/-- The database with the table that records its revision. -/
def Migrated.versioned (m : Migrated) : Migrated :=
  if m.schema.has versionTable.name then m
  else { m with schema := m.schema.apply (.createTable versionTable) }

/-- **Carry out a command** on a database. -/
def Migrated.run (m : Migrated) (command : Command) : Except CommandProblem Migrated := do
  if isRange command.target then throw .rangeNotAllowed
  let goal ← goal command.direction m.place command.target
  let versioned := m.versioned
  match stepBetween command.direction m.place goal with
  | some .upgrade => return ⟨versioned.schema.applyAll baseline.up, .head⟩
  | some .downgrade => return ⟨versioned.schema.applyAll baseline.down, .base⟩
  | none => return versioned

end ConnectionJobs.Schema
