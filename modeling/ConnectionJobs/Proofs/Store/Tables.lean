import ConnectionJobs.Connection
import ConnectionJobs.Proofs.Queue.Database

/-!
# What statements do to the tables

The database holds the jobs, the generations that jobs have started, the saved states and the pending refresh requests.
A connection has rows in all four: the jobs of its scope, and what is recorded under its identifier. A statement that is
*within* a connection leaves the rows of all others as they are.

For three of the tables this can be seen from the statement alone, since it names the connection. The configuration of a
job is replaced by number, so there it matters whose jobs have that number: the statement is within a connection as far
as the connection has those jobs (`Tables.Owned`), and that has to be kept up while the tables change.

A session works on tables of its own until it is committed. Any operation may fail, and then it has had no effect; a
commit that fails may also have taken place.
-/

namespace ConnectionJobs.Sql

/-- **The tables.** -/
structure Tables where
  /-- The jobs. -/
  jobs : List JobRow
  /-- The generations that jobs have started. -/
  generations : List GenerationEntry
  /-- The text of the saved state of each connection that has one. -/
  states : Uuid → Option String
  /-- The pending refresh requests. -/
  requests : List RefreshRequest

namespace Tables

/-- **What a statement does to the tables**, and answers. A statement that reads may answer anything here. -/
inductive Executes (tables : Tables) : Statement → Table → Tables → Prop
  /-- A lock is taken, or it is not. -/
  | locked {key1 key2 : Int} {table : Table} : Executes tables (.tryLock key1 key2) table tables
  /-- Nothing is written. -/
  | read {statement : Statement} {table : Table} (reads : statement.writes = false) :
      Executes tables statement table tables
  /-- A job is inserted under a number that no job has yet, when its scope has no active job. -/
  | inserted {kind : JobKind} {scope config : String} {id : Int} (vacant : ∀ row ∈ tables.jobs, row.occupies scope = false)
      (fresh : ∀ row ∈ tables.jobs, row.id ≠ id) :
      Executes tables (.insertJob kind scope config) (idTable (some id))
        { tables with jobs := tables.jobs ++ [⟨id, kind, scope, "pending", config⟩] }
  /-- No job is inserted when its scope has an active job. -/
  | occupied {kind : JobKind} {scope config : String} {row : JobRow} (mem : row ∈ tables.jobs)
      (occupies : row.occupies scope = true) : Executes tables (.insertJob kind scope config) (idTable none) tables
  /-- The configuration of the jobs with a number is replaced, and of no job when there is none. -/
  | updated {config : String} {job : Int} {table : Table} :
      Executes tables (.updateConfig config job) table
        { tables with jobs := Write.apply tables.jobs (.setConfig job config) }
  /-- The saved state of a connection is replaced. -/
  | upserted {connection : Uuid} {state : String} {table : Table} :
      Executes tables (.upsertState connection state) table
        { tables with states := Function.update tables.states connection (some state) }
  /-- The requests for a stream of a connection are deleted. -/
  | deleted {connection : Uuid} {stream : StreamId} {table : Table} :
      Executes tables (.deleteRequest connection stream) table
        { tables with
          requests := tables.requests.filter fun row => !(row.connectionId = connection ∧ row.stream = stream) }
  /-- Generations are recorded. -/
  | recorded {entries : List GenerationEntry} {table : Table} :
      Executes tables (.insertGenerations entries) table { tables with generations := tables.generations ++ entries }

/-- **Two states of the tables agree on all other connections**: on the jobs of other scopes, and on what is recorded
under other identifiers. -/
structure SameElsewhere (connection : Uuid) (before after : Tables) : Prop where
  /-- The jobs of other scopes are the same. -/
  jobs : after.jobs.filter (fun row => row.scope ≠ connection.text) =
    before.jobs.filter fun row => row.scope ≠ connection.text
  /-- The generations of other connections are the same. -/
  generations : after.generations.filter (fun row => row.connection ≠ connection) =
    before.generations.filter fun row => row.connection ≠ connection
  /-- The saved states of other connections are the same. -/
  states : ∀ other, other ≠ connection → after.states other = before.states other
  /-- The requests of other connections are the same. -/
  requests : after.requests.filter (fun row => row.connectionId ≠ connection) =
    before.requests.filter fun row => row.connectionId ≠ connection

/-- **A connection has all jobs with some numbers.** -/
def Owned (connection : Uuid) (own : Int → Prop) (tables : Tables) : Prop :=
  ∀ row ∈ tables.jobs, own row.id → row.scope = connection.text

end Tables

/-- **A statement is within a connection** that has the jobs with some numbers. -/
def Statement.Within (connection : Uuid) (own : Int → Prop) : Statement → Prop
  | tryLock _ _ => True
  | insertJob _ scope _ => scope = connection.text
  | updateConfig _ job => own job
  | selectState other | upsertState other _ | listRequests other | deleteRequest other _ | latestGenerations other =>
    other = connection
  | insertGenerations entries => ∀ entry ∈ entries, entry.connection = connection

/-- An operation that executes a statement is within what the statement is. -/
def Operation.Within (connection : Uuid) (own : Int → Prop) : Operation → Prop
  | execute statement => statement.Within connection own
  | start _ | finish _ => True

section Statements

variable {connection : Uuid} {own : Int → Prop} {tables before middle after : Tables}

namespace Tables

theorem SameElsewhere.refl (connection : Uuid) (tables : Tables) : tables.SameElsewhere connection tables :=
  ⟨rfl, rfl, fun _ _ => rfl, rfl⟩

theorem SameElsewhere.trans (first : before.SameElsewhere connection middle)
    (second : middle.SameElsewhere connection after) : before.SameElsewhere connection after where
  jobs := second.jobs.trans first.jobs
  generations := second.generations.trans first.generations
  states other ne := (second.states other ne).trans (first.states other ne)
  requests := second.requests.trans first.requests

/-- Replacing the configuration of the jobs with a number leaves the jobs of other scopes alone, when none of them has
the number. -/
theorem filter_setConfig {jobs : List JobRow} {scope config : String} {job : Int}
    (mine : ∀ row ∈ jobs, row.id = job → row.scope = scope) :
    (Write.apply jobs (.setConfig job config)).filter (fun row => row.scope ≠ scope) =
      jobs.filter fun row => row.scope ≠ scope := by
  induction jobs with
  | nil => rfl
  | cons row rest ih =>
    obtain ⟨first, others⟩ := List.forall_mem_cons.mp mine
    have kept := ih others
    unfold Write.apply at kept ⊢
    dsimp only at kept ⊢
    rw [List.map_cons]
    by_cases same : row.id = job
    · rw [if_pos same, List.filter_cons_of_neg (by simp [first same]), List.filter_cons_of_neg (by simp [first same]), kept]
    · rw [if_neg same, List.filter_cons, List.filter_cons, kept]

/-- **A statement within a connection leaves all others as they are**, and the connection has the same jobs as before. -/
theorem Executes.frame {statement : Statement} {table : Table} (executes : before.Executes statement table after)
    (within : statement.Within connection own) (owned : before.Owned connection own) :
    before.SameElsewhere connection after ∧ after.Owned connection own := by
  cases executes with
  | locked => exact ⟨.refl _ _, owned⟩
  | read _ => exact ⟨.refl _ _, owned⟩
  | occupied _ _ => exact ⟨.refl _ _, owned⟩
  | @inserted kind scope config id _ _ =>
    obtain rfl : scope = connection.text := within
    refine ⟨⟨?_, rfl, fun _ _ => rfl, rfl⟩, fun row mem numbered => ?_⟩
    · rw [List.filter_append, List.filter_cons_of_neg (by simp), List.filter_nil, List.append_nil]
    · obtain mem | mem := List.mem_append.mp mem
      · exact owned row mem numbered
      · rw [List.mem_singleton.mp mem]
  | @updated config job table =>
    refine ⟨⟨filter_setConfig fun row mem same => owned row mem (same ▸ within), rfl, fun _ _ => rfl, rfl⟩, ?_⟩
    intro row mem numbered
    obtain ⟨old, there, rfl⟩ := List.mem_map.mp mem
    by_cases same : old.id = job
    · rw [if_pos same] at numbered ⊢
      exact owned old there numbered
    · rw [if_neg same] at numbered ⊢
      exact owned old there numbered
  | @upserted other state table =>
    obtain rfl : other = connection := within
    exact ⟨⟨rfl, rfl, fun _ ne => Function.update_of_ne ne .., rfl⟩, owned⟩
  | @deleted other stream table =>
    obtain rfl : other = connection := within
    refine ⟨⟨rfl, rfl, fun _ _ => rfl, ?_⟩, owned⟩
    rw [List.filter_filter]
    refine List.filter_congr fun row _ => ?_
    by_cases same : row.connectionId = other <;> simp [same]
  | @recorded entries table =>
    refine ⟨⟨rfl, ?_, fun _ _ => rfl, rfl⟩, owned⟩
    have none : entries.filter (fun row => row.connection ≠ connection) = [] :=
      List.filter_eq_nil_iff.mpr fun entry mem => by simp [within entry mem]
    rw [List.filter_append, none, List.append_nil]

end Tables

end Statements

/-! ## Sessions -/

/-- **What a database holds**: the tables that are committed, and those that the open session works on. -/
structure Contents where
  /-- The committed tables. -/
  committed : Tables
  /-- The tables as the open session leaves them. -/
  working : Tables

/-- **What an exchange makes of what a database holds.** -/
inductive Exchange.Changes : Contents → Exchange → Contents → Prop
  /-- A session works on what is committed. -/
  | started {contents : Contents} {kind : SessionKind} :
      Changes contents ⟨.start kind, .ok ()⟩ ⟨contents.committed, contents.committed⟩
  /-- No session is opened. -/
  | unstarted {contents : Contents} {kind : SessionKind} {failure : Failure} :
      Changes contents ⟨.start kind, .error failure⟩ contents
  /-- A statement is executed. -/
  | executed {contents : Contents} {statement : Statement} {table : Table} {tables : Tables}
      (executes : contents.working.Executes statement table tables) :
      Changes contents ⟨.execute statement, .ok table⟩ ⟨contents.committed, tables⟩
  /-- A statement fails. -/
  | failed {contents : Contents} {statement : Statement} {failure : Failure} :
      Changes contents ⟨.execute statement, .error failure⟩ contents
  /-- The session is committed. -/
  | committed {contents : Contents} {outcome : Except Failure Unit} :
      Changes contents ⟨.finish .commit, outcome⟩ ⟨contents.working, contents.working⟩
  /-- The session ends without a commit. -/
  | dropped {contents : Contents} {ending : SessionEnd} {outcome : Except Failure Unit}
      (unsaid : ending = .commit → outcome ≠ .ok ()) :
      Changes contents ⟨.finish ending, outcome⟩ ⟨contents.committed, contents.committed⟩

/-- **What exchanges make of it**, one after another. -/
inductive Changed : Contents → List Exchange → Contents → Prop
  /-- Nothing happens. -/
  | nil (contents : Contents) : Changed contents [] contents
  /-- One exchange, and more. -/
  | cons {before middle after : Contents} {exchange : Exchange} {exchanges : List Exchange}
      (first : exchange.Changes before middle) (rest : Changed middle exchanges after) :
      Changed before (exchange :: exchanges) after

/-- **All others are as they were**, and a connection has the jobs with some numbers, in what is committed and in what a
session works on. -/
structure Contents.Framed (connection : Uuid) (own : Int → Prop) (start : Tables) (contents : Contents) : Prop where
  /-- The committed tables differ on the connection only. -/
  committed : start.SameElsewhere connection contents.committed
  /-- So do those of the session. -/
  working : start.SameElsewhere connection contents.working
  /-- The connection has the jobs that are committed. -/
  owned : contents.committed.Owned connection own
  /-- It has those that the session sees. -/
  ownedWorking : contents.working.Owned connection own

section Sessions

variable {connection : Uuid} {own : Int → Prop} {start : Tables} {before after : Contents}

/-- **An exchange within a connection leaves all others as they are.** -/
theorem Exchange.Changes.framed {exchange : Exchange} (changes : exchange.Changes before after)
    (within : exchange.operation.Within connection own) (framed : before.Framed connection own start) :
    after.Framed connection own start := by
  cases changes with
  | unstarted => exact framed
  | failed => exact framed
  | started => exact ⟨framed.committed, framed.committed, framed.owned, framed.owned⟩
  | dropped _ => exact ⟨framed.committed, framed.committed, framed.owned, framed.owned⟩
  | committed => exact ⟨framed.working, framed.working, framed.ownedWorking, framed.ownedWorking⟩
  | executed executes =>
    obtain ⟨same, owned⟩ := executes.frame within framed.ownedWorking
    exact ⟨framed.committed, framed.working.trans same, framed.owned, owned⟩

/-- What exchanges make of it in two parts. -/
theorem Changed.of_append {s t : List Exchange} (changed : Changed before (s ++ t) after) :
    ∃ middle, Changed before s middle ∧ Changed middle t after := by
  induction s generalizing before with
  | nil => exact ⟨before, .nil before, changed⟩
  | cons exchange rest ih =>
    cases changed with
    | cons first others =>
      obtain ⟨middle, left, right⟩ := ih others
      exact ⟨middle, .cons first left, right⟩

/-- **Exchanges within a connection leave all others as they are.** -/
theorem Changed.framed {exchanges : List Exchange} (changed : Changed before exchanges after)
    (within : ∀ exchange ∈ exchanges, exchange.operation.Within connection own)
    (framed : before.Framed connection own start) : after.Framed connection own start := by
  induction changed with
  | nil _ => exact framed
  | cons first _ ih =>
    obtain ⟨here, others⟩ := List.forall_mem_cons.mp within
    exact ih others (first.framed here framed)

end Sessions

end ConnectionJobs.Sql
