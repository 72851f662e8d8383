import ConnectionJobs.Proofs.Queue.Dialogue
import Mathlib.Logic.Function.Basic

/-!
# Calls on the queue that interleave

Any number of calls talk to one database, and it answers them in any order, one operation at a time. What the
database does is given as a relation, since it is free in what it numbers a job and in when it fails. Two things
are relied on: a lock is held by one open transaction at a time, from the moment it is taken until the transaction
ends, and an insertion sees every row that has been committed before it. Nothing else keeps two active jobs of
a scope apart: the table of jobs has no constraint of its own here.

Beside the calls, workers change the status of jobs that are not over, and the database may lose a session, which
rolls its transaction back.
-/

namespace ConnectionJobs.Sql

/-- **A row of the table of jobs.** -/
structure JobRow where
  /-- The number of the job. -/
  id : Int
  /-- The kind of job. -/
  kind : JobKind
  /-- The scope. -/
  scope : String
  /-- The status. -/
  status : String
  /-- The text of the configuration. -/
  config : String

/-- **An active job** has none of the terminal statuses. -/
def JobRow.isActive (row : JobRow) : Bool := !(row.status ∈ terminalStatuses)

/-- The job is active in a scope. -/
def JobRow.occupies (scope : String) (row : JobRow) : Bool := row.scope == scope && row.isActive

/-- **A write** that waits for its transaction to be committed. -/
inductive Write where
  /-- A row is inserted. -/
  | insert (row : JobRow)
  /-- The configuration of a job is replaced. -/
  | setConfig (job : Int) (config : String)

/-- The table after a write. -/
def Write.apply (jobs : List JobRow) : Write → List JobRow
  | insert row => jobs ++ [row]
  | setConfig job config => jobs.map fun row => if row.id = job then { row with config := config } else row

/-- The row that a write inserts. -/
def Write.row? : Write → Option JobRow
  | insert row => some row
  | setConfig _ _ => none

/-- **An open transaction**: the locks it holds, and its writes in order. -/
structure Transaction where
  /-- The keys of the locks. -/
  locks : List (Int × Int)
  /-- The writes. -/
  writes : List Write

namespace Transaction

/-- **The table as the transaction sees it**: everything committed, and its own writes. -/
def view (t : Transaction) (jobs : List JobRow) : List JobRow := t.writes.foldl Write.apply jobs

/-- The transaction takes a lock. -/
def lock (t : Transaction) (key : Int × Int) : Transaction := { t with locks := key :: t.locks }

/-- The transaction writes. -/
def write (t : Transaction) (w : Write) : Transaction := { t with writes := t.writes ++ [w] }

/-- The rows that the transaction inserts. -/
def rows (t : Transaction) : List JobRow := t.writes.filterMap Write.row?

end Transaction

/-- **The database**: the committed jobs, and the open transaction of every party that has one. -/
structure Database where
  /-- The committed jobs. -/
  jobs : List JobRow
  /-- The open transactions. -/
  sessions : Nat → Option Transaction

namespace Database

/-- The committed jobs that are active in a scope, up to the blanks around it. -/
def activeJobs (db : Database) (scope : String) : List JobRow :=
  db.jobs.filter fun row => Text.trim row.scope == Text.trim scope && row.isActive

/-- The transaction of a party is replaced. -/
def setSession (db : Database) (party : Nat) (session : Option Transaction) : Database :=
  { db with sessions := Function.update db.sessions party session }

/-- The transaction of a party is committed. -/
def commit (db : Database) (party : Nat) (t : Transaction) : Database :=
  { db.setSession party none with jobs := t.view db.jobs }

/-- A worker changes the status of a job, unless the job is over. -/
def work (db : Database) (job : Int) (status : String) : Database :=
  { db with
    jobs := db.jobs.map fun row => if row.id = job ∧ row.isActive then { row with status := status } else row }

/-- **What a statement does** in the transaction of a party. -/
inductive Executes (db : Database) (party : Nat) (t : Transaction) : Statement → Table → Transaction → Prop
  /-- A lock that no other transaction holds is taken. -/
  | locked {key1 key2 : Int}
      (free : ∀ other u, other ≠ party → db.sessions other = some u → (key1, key2) ∉ u.locks) :
      Executes db party t (.tryLock key1 key2) (lockTable true) (t.lock (key1, key2))
  /-- A lock that another transaction holds is not. -/
  | refused {key1 key2 : Int} {other : Nat} {u : Transaction} (ne : other ≠ party)
      (session : db.sessions other = some u) (held : (key1, key2) ∈ u.locks) :
      Executes db party t (.tryLock key1 key2) (lockTable false) t
  /-- A job is inserted when its scope has no active job. -/
  | inserted {kind : JobKind} {scope config : String} {id : Int}
      (vacant : ∀ row ∈ t.view db.jobs, row.occupies scope = false) :
      Executes db party t (.insertJob kind scope config) (idTable (some id))
        (t.write (.insert ⟨id, kind, scope, "pending", config⟩))
  /-- No job is inserted when its scope has an active job. -/
  | occupied {kind : JobKind} {scope config : String} {row : JobRow} (mem : row ∈ t.view db.jobs)
      (occupies : row.occupies scope = true) :
      Executes db party t (.insertJob kind scope config) (idTable none) t
  /-- The configuration of a job is replaced. -/
  | updated {config : String} {job : Int} {row : JobRow} (mem : row ∈ t.view db.jobs) (same : row.id = job) :
      Executes db party t (.updateConfig config job) (idTable (some job)) (t.write (.setConfig job config))
  /-- There is no such job. -/
  | missing {config : String} {job : Int} (absent : ∀ row ∈ t.view db.jobs, row.id ≠ job) :
      Executes db party t (.updateConfig config job) (idTable none) t

/-- **What the database makes of an exchange** with a party. It may fail at any operation; a commit that fails may
have happened. -/
inductive Answers (db : Database) (party : Nat) : Exchange → Database → Prop
  /-- A session is opened. -/
  | started {kind : SessionKind} (free : db.sessions party = none) :
      Answers db party ⟨.start kind, .ok ()⟩ (db.setSession party (some ⟨[], []⟩))
  /-- No session is opened. -/
  | unstarted {kind : SessionKind} {failure : Failure} : Answers db party ⟨.start kind, .error failure⟩ db
  /-- A statement is executed. -/
  | executed {statement : Statement} {table : Table} {t t' : Transaction} (session : db.sessions party = some t)
      (executes : db.Executes party t statement table t') :
      Answers db party ⟨.execute statement, .ok table⟩ (db.setSession party (some t'))
  /-- A statement fails. -/
  | failed {statement : Statement} {failure : Failure} : Answers db party ⟨.execute statement, .error failure⟩ db
  /-- The transaction is committed. -/
  | committed {t : Transaction} {outcome : Except Failure Unit} (session : db.sessions party = some t) :
      Answers db party ⟨.finish .commit, outcome⟩ (db.commit party t)
  /-- The session ends without a commit. -/
  | dropped {ending : SessionEnd} {outcome : Except Failure Unit} (unsaid : ending = .commit → outcome ≠ .ok ()) :
      Answers db party ⟨.finish ending, outcome⟩ (db.setSession party none)

end Database

/-- **What can happen.** -/
inductive Event where
  /-- A party has an exchange with the database. -/
  | did (party : Nat) (exchange : Exchange)
  /-- A worker changes the status of a job. -/
  | worked (job : Int) (status : String)
  /-- The database loses the session of a party. -/
  | lost (party : Nat)

/-- **The system**: the database, and what is left of each call. -/
structure System where
  /-- The database. -/
  database : Database
  /-- What is left of the call of each party. -/
  left : Nat → Dialogue (Except Failure (Option Int))

/-- **What happens next.** -/
inductive System.Next (s : System) : Event → System → Prop
  /-- The database answers one of the calls. -/
  | did {party : Nat} {operation : Operation} {outcome : Except Failure operation.Answer}
      {next : Except Failure operation.Answer → Dialogue (Except Failure (Option Int))} {db : Database}
      (asks : s.left party = .ask operation next) (answers : s.database.Answers party ⟨operation, outcome⟩ db) :
      Next s (.did party ⟨operation, outcome⟩) ⟨db, Function.update s.left party (next outcome)⟩
  /-- A worker changes a status. -/
  | worked (job : Int) (status : String) :
      Next s (.worked job status) { s with database := s.database.work job status }
  /-- A session is lost. -/
  | lost (party : Nat) : Next s (.lost party) { s with database := s.database.setSession party none }

/-- **A run of the system** from some committed jobs, with a call for each party. -/
inductive System.Run (jobs : List JobRow) (calls : Nat → QueueCall) : List Event → System → Prop
  /-- No call has been made. -/
  | start : Run jobs calls [] ⟨⟨jobs, fun _ => none⟩, fun party => (calls party).dialogue⟩
  /-- Something happens. -/
  | next {events : List Event} {event : Event} {s s' : System} (before : Run jobs calls events s)
      (next : s.Next event s') : Run jobs calls (events ++ [event]) s'

/-- The exchange that a given party has. -/
def Event.exchangeOf? (party : Nat) : Event → Option Exchange
  | did other exchange => if other = party then some exchange else none
  | worked _ _ => none
  | lost _ => none

/-- The exchanges of a party, in order. -/
def exchangesOf (party : Nat) (events : List Event) : List Exchange := events.filterMap (Event.exchangeOf? party)

end ConnectionJobs.Sql
