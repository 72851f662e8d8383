import ConnectionJobs.Catalog
import ConnectionJobs.Job.Config
import ConnectionJobs.Json.Basic
import ConnectionJobs.Job.Encoding

/-!
# Statements

The database holds four tables: the jobs, the pending refresh requests, the generations started by jobs, and
the saved states. This file lists every statement the library sends to it, as data: the statement, what it
needs to know, the text that is sent and the parameters that are bound. A parameter is never put into the text.
-/

namespace ConnectionJobs.Sql

/-- The statuses of a job that is over; a job with any other status is active. -/
def terminalStatuses : List String := ["failed", "succeeded", "cancelled"]

/-- A row of the table of generations. -/
structure GenerationEntry where
  /-- The connection. -/
  connection : Uuid
  /-- The stream. -/
  stream : StreamId
  /-- The generation started. -/
  generation : Int
  /-- The job that started it. -/
  job : Int
  deriving DecidableEq, Repr, Inhabited

/-- **A statement.** -/
inductive Statement where
  /-- Try to take the lock of a scope until the end of the transaction. -/
  | tryLock (key1 key2 : Int)
  /-- Insert a pending job, unless its scope has an active one. -/
  | insertJob (kind : JobKind) (scope config : String)
  /-- Replace the configuration of a job. -/
  | updateConfig (config : String) (job : Int)
  /-- Read the saved state of a connection. -/
  | selectState (connection : Uuid)
  /-- Write the saved state of a connection. -/
  | upsertState (connection : Uuid) (state : String)
  /-- List the pending refresh requests of a connection. -/
  | listRequests (connection : Uuid)
  /-- Delete the pending refresh request of a stream. -/
  | deleteRequest (connection : Uuid) (stream : StreamId)
  /-- Read the latest generation of each stream of a connection. -/
  | latestGenerations (connection : Uuid)
  /-- Insert generations. -/
  | insertGenerations (entries : List GenerationEntry)
  deriving DecidableEq, Repr

/-- **What is bound to a statement**: parameters, or parameters for each of several rows. -/
inductive Parameters where
  /-- The parameters of one execution. -/
  | single (values : Members)
  /-- The parameters of an execution per row. -/
  | batch (rows : List Members)

/-- The terminal statuses, as a list inside a statement. -/
def terminalStatusList : String :=
  String.intercalate ", " (terminalStatuses.map fun status => "'" ++ status ++ "'")

namespace Statement

/-- **The text** that is sent. -/
def sql : Statement → String
  | tryLock _ _ =>
    "SELECT pg_try_advisory_xact_lock(CAST(:key_1 AS integer), CAST(:key_2 AS integer)) AS lock_acquired"
  | insertJob _ _ _ =>
    "INSERT INTO jobs (config_type, scope, status, config, created_at, updated_at) " ++
    "SELECT :config_type, :scope, 'pending', CAST(:config AS jsonb), now(), now() " ++
    "WHERE NOT EXISTS (SELECT 1 FROM jobs WHERE scope = :scope AND status NOT IN (" ++ terminalStatusList ++
    ")) RETURNING id"
  | updateConfig _ _ =>
    "UPDATE jobs SET config = CAST(:config AS jsonb), updated_at = now() WHERE id = :job_id RETURNING id"
  | selectState _ =>
    "SELECT state FROM connection_state WHERE connection_id = CAST(:connection_id AS uuid)"
  | upsertState _ _ =>
    "INSERT INTO connection_state (connection_id, state, updated_at) " ++
    "VALUES (CAST(:connection_id AS uuid), CAST(:state AS jsonb), now()) " ++
    "ON CONFLICT (connection_id) DO UPDATE SET state = EXCLUDED.state, updated_at = EXCLUDED.updated_at"
  | listRequests _ =>
    "SELECT connection_id, stream_name, stream_namespace FROM stream_refreshes " ++
    "WHERE connection_id = CAST(:connection_id AS uuid) " ++
    "ORDER BY stream_namespace ASC NULLS FIRST, stream_name ASC"
  | deleteRequest _ _ =>
    "DELETE FROM stream_refreshes WHERE connection_id = CAST(:connection_id AS uuid) " ++
    "AND stream_name = :stream_name " ++
    "AND stream_namespace IS NOT DISTINCT FROM CAST(:stream_namespace AS text)"
  | latestGenerations _ =>
    "SELECT stream_name, stream_namespace, MAX(generation_id) AS generation_id FROM stream_generation " ++
    "WHERE connection_id = CAST(:connection_id AS uuid) GROUP BY stream_name, stream_namespace"
  | insertGenerations _ =>
    "INSERT INTO stream_generation (connection_id, stream_name, stream_namespace, generation_id, start_job_id) " ++
    "VALUES (CAST(:connection_id AS uuid), :stream_name, :stream_namespace, :generation_id, :start_job_id)"

/-- The parameter that names a connection. -/
def connectionParameter (connection : Uuid) : String × Json := ("connection_id", .text connection.text)

/-- The parameters of one row of generations. -/
def entryParameters (entry : GenerationEntry) : Members :=
  [connectionParameter entry.connection,
   ("stream_name", .text entry.stream.name),
   ("stream_namespace", textOrNull entry.stream.space),
   ("generation_id", .integer entry.generation),
   ("start_job_id", .integer entry.job)]

/-- **What is bound** to a statement. -/
def parameters : Statement → Parameters
  | tryLock key1 key2 => .single [("key_1", .integer key1), ("key_2", .integer key2)]
  | insertJob kind scope config =>
    .single [("config_type", .text kind.name), ("scope", .text scope), ("config", .text config)]
  | updateConfig config job => .single [("config", .text config), ("job_id", .integer job)]
  | selectState connection => .single [connectionParameter connection]
  | upsertState connection state => .single [connectionParameter connection, ("state", .text state)]
  | listRequests connection => .single [connectionParameter connection]
  | deleteRequest connection stream =>
    .single
      [connectionParameter connection,
       ("stream_name", .text stream.name),
       ("stream_namespace", textOrNull stream.space)]
  | latestGenerations connection => .single [connectionParameter connection]
  | insertGenerations entries => .batch (entries.map entryParameters)

/-- **A statement that writes.** Taking a lock counts as writing, since it holds until the transaction ends. -/
def writes : Statement → Bool
  | selectState _ | listRequests _ | latestGenerations _ => false
  | _ => true

/-- The connection a statement is about, when it is about one. -/
def connection? : Statement → Option Uuid
  | selectState c | upsertState c _ | listRequests c | deleteRequest c _ | latestGenerations c => some c
  | insertGenerations entries => entries.head?.map (·.connection)
  | tryLock _ _ | insertJob _ _ _ | updateConfig _ _ => none

end Statement

end ConnectionJobs.Sql
