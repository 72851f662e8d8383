import ConnectionJobs.Proofs.State.Store

/-!
# Calls on the stores are all or nothing

A call on a store over a database opens one session at most. When the call writes, that session is a transaction, and
its end tells how the call ended: it is committed when the call answers, and rolled back when the call fails, whatever
has failed. The engine may answer every statement as it likes and fail at any of them; it may also fail to open a
session or to commit one.

What a call fails with is settled too. A fault of the engine becomes a persistence failure that names the fault as its
cause, and every other failure passes as it is. The one persistence failure that no fault has caused is that of a stored
state that cannot be decoded.
-/

namespace ConnectionJobs

/-- **A failure of the library's own**, which neither the engine nor a store has reported. -/
def Failure.isPlain : Failure → Bool
  | .fault _ | .persistence .. => false
  | _ => true

namespace Sql

/-! ## Calls -/

/-- **A call** on one of the four stores, by what it answers. -/
inductive StoreCall : Type → Type where
  /-- Put a job into the queue. -/
  | enqueue (scope : String) (config : JobConfig) : StoreCall (Option Int)
  /-- Replace the configuration of a job. -/
  | updateConfig (job : Int) (config : JobConfig) : StoreCall Unit
  /-- Read the saved state of a connection. -/
  | getState (connection : Uuid) : StoreCall (Option SavedState)
  /-- Write the saved state of a connection. -/
  | putState (connection : Uuid) (state : SavedState) : StoreCall Unit
  /-- List the pending refresh requests of a connection. -/
  | listRequests (connection : Uuid) : StoreCall (List ListedRequest)
  /-- Delete the pending refresh request of a stream. -/
  | deleteRequest (connection : Uuid) (name : String) (space : Option String) : StoreCall Unit
  /-- List the latest generations of a connection. -/
  | listGenerations (connection : Uuid) : StoreCall (List ListedGeneration)
  /-- Read the current generations of a connection. -/
  | currentGenerations (connection : Uuid) : StoreCall Generations
  /-- Record generations started by a job. -/
  | insertGenerations (connection : Uuid) (job : Int) (generations : List (StreamId × Int)) : StoreCall Unit

namespace StoreCall

variable {α : Type}

/-- **What a call does** over an engine. -/
def attempt {n : Type → Type} [Monad n] (engine : Engine n) : StoreCall α → Attempt n α
  | enqueue scope config => (jobQueue engine).enqueue scope config
  | updateConfig job config => (jobQueue engine).updateConfig job config
  | getState connection => (stateStore engine).get connection
  | putState connection state => (stateStore engine).put connection state
  | listRequests connection => Sql.listRequests engine connection
  | deleteRequest connection name space => (requestStore engine).delete connection name space
  | listGenerations connection => Sql.listGenerations engine connection
  | currentGenerations connection => (generationStore engine).current connection
  | insertGenerations connection job generations => (generationStore engine).insert connection job generations

/-- The dialogue of a call. -/
def dialogue (call : StoreCall α) : Dialogue (Except Failure α) := (call.attempt Dialogue.engine).run

/-- **A call that writes.** -/
def writes : StoreCall α → Bool
  | enqueue .. | updateConfig .. | putState .. | deleteRequest .. | insertGenerations .. => true
  | getState _ | listRequests _ | listGenerations _ | currentGenerations _ => false

/-- **A call with nothing to do**: a job for a blank scope, or no generations at all. -/
def isIdle : StoreCall α → Bool
  | enqueue scope _ => (Text.trim scope).isEmpty
  | insertGenerations _ _ generations => generations.isEmpty
  | _ => false

/-- **The message** of the persistence failures that faults become in a call. -/
def message : StoreCall α → String
  | enqueue .. => "failed to enqueue job"
  | updateConfig .. => "failed to update job config"
  | getState _ => "failed to read connection state"
  | putState .. => "failed to write connection state"
  | listRequests _ => "failed to list stream refreshes"
  | deleteRequest .. => "failed to delete stream refresh"
  | listGenerations _ | currentGenerations _ => "failed to read stream generations"
  | insertGenerations .. => "failed to insert stream generations"

end StoreCall

/-! ## What an exchange says about the call -/

/-- **The failure an exchange raises**: that of its operation, or that of taking the only row of a lock statement. -/
def Exchange.raised : Exchange → Option Failure
  | ⟨_, .error failure⟩ => some failure
  | ⟨.execute (.tryLock _ _), .ok table⟩ =>
    match table.one with
    | .ok _ => none
    | .error fault => some (.fault fault)
  | _ => none

/-- **An exchange finds a stored state invalid**, for these problems. -/
def Exchange.FindsInvalid (problems : List Problem) : Exchange → Prop
  | ⟨.execute (.selectState _), .ok table⟩ =>
    ∃ row cell, table.first? = some row ∧ row.cell "state" = .ok cell ∧ cell.isNull = false ∧
      checkState cell = .invalid problems
  | _ => False

/-- The exchange executes a statement that writes. -/
def Exchange.IsWriting (exchange : Exchange) : Prop :=
  ∃ statement : Statement, exchange.operation = .execute statement ∧ statement.writes = true

/-- **A session is left undisturbed**: closing it or rolling it back does not fail. Committing it may. -/
def Exchange.EndsCleanly (exchange : Exchange) : Prop :=
  ∀ ending, exchange.operation = .finish ending → ending ≠ .commit → exchange.raised = none

section Runs

open Dialogue (Leads)

variable {α β : Type} {message : String} {exchanges : List Exchange} {outcome : Except Failure α}

/-- **How a call transacts**, by how it ends. -/
inductive Transacts : List Exchange → Except Failure α → Prop
  /-- It opens no transaction. -/
  | untouched (outcome : Except Failure α) : Transacts [] outcome
  /-- The transaction cannot be opened, and the call fails. -/
  | unopened {reason failure : Failure} : Transacts [⟨.start .writing, .error reason⟩] (.error failure)
  /-- The transaction is committed, and the call answers. -/
  | committed {statements : List Exchange} {a : α} (writing : ∀ exchange ∈ statements, exchange.IsWriting) :
      Transacts (⟨.start .writing, .ok ()⟩ :: statements ++ [⟨.finish .commit, .ok ()⟩]) (.ok a)
  /-- The transaction cannot be committed, and the call fails. -/
  | uncommitted {statements : List Exchange} {reason failure : Failure}
      (writing : ∀ exchange ∈ statements, exchange.IsWriting) :
      Transacts (⟨.start .writing, .ok ()⟩ :: statements ++ [⟨.finish .commit, .error reason⟩]) (.error failure)
  /-- The transaction is rolled back, and the call fails. -/
  | rolledBack {statements : List Exchange} {failure : Failure}
      (writing : ∀ exchange ∈ statements, exchange.IsWriting) :
      Transacts (⟨.start .writing, .ok ()⟩ :: statements ++ [⟨.finish .rollback, .ok ()⟩]) (.error failure)

/-- **What a call fails with**, by what has been raised and found. -/
structure Surfaces (message : String) (exchanges : List Exchange) (outcome : Except Failure α) : Prop where
  /-- A failure that is raised ends the call: a fault as a persistence failure, any other as it is. -/
  raised : ∀ exchange ∈ exchanges, ∀ failure, exchange.raised = some failure →
    outcome = .error (stored message failure)
  /-- So does a stored state that is invalid. -/
  invalid : ∀ exchange ∈ exchanges, ∀ problems, exchange.FindsInvalid problems →
    outcome = .error (.persistence "stored connection state is invalid" (some (.invalid problems)))
  /-- Nothing else makes a call fail persistently. -/
  persistent : ∀ text cause, outcome = .error (.persistence text cause) →
    (∃ exchange ∈ exchanges, ∃ failure, exchange.raised = some failure ∧
      stored message failure = .persistence text cause) ∨
    ∃ exchange ∈ exchanges, ∃ problems, exchange.FindsInvalid problems ∧
      text = "stored connection state is invalid" ∧ cause = some (.invalid problems)

/-! ## Bodies of transactions -/

/-- **A body reports what it meets**: it executes statements that write, ends in any failure that is raised, and fails
for reasons of its own otherwise. -/
structure Reports (exchanges : List Exchange) (result : Except Failure α) : Prop where
  /-- It executes statements that write. -/
  writing : ∀ exchange ∈ exchanges, exchange.IsWriting
  /-- It ends in a failure that is raised. -/
  raised : ∀ exchange ∈ exchanges, ∀ failure, exchange.raised = some failure → result = .error failure
  /-- Other failures are its own. -/
  others : ∀ failure, result = .error failure →
    (∃ exchange ∈ exchanges, exchange.raised = some failure) ∨ failure.isPlain = true

/-- Every run of the body reports what it meets. -/
def Dialogue.Reporting (body : Dialogue (Except Failure α)) : Prop :=
  ∀ exchanges result, body.Leads exchanges (.done result) → Reports exchanges result

/-- The failures of an outcome are the library's own. -/
def Plain (result : Except Failure α) : Prop := ∀ failure, result = .error failure → failure.isPlain = true

theorem plain_ok (a : α) : Plain (.ok a : Except Failure α) := nofun

theorem plain_error {failure : Failure} (h : failure.isPlain = true) : Plain (.error failure : Except Failure α) := by
  rintro _ ⟨⟩
  exact h

theorem plain_cell (value : Except CellProblem α) : Plain (value.mapError .cell) := by
  cases value with
  | ok a => exact plain_ok a
  | error problem => exact plain_error rfl

theorem plain_bind {value : Except Failure α} {f : α → Except Failure β} (h : Plain value) (each : ∀ a, Plain (f a)) :
    Plain (value >>= f) := by
  cases value with
  | ok a => exact each a
  | error failure => exact plain_error (h failure rfl)

theorem plain_map {value : Except Failure α} {f : α → β} (h : Plain value) : Plain (f <$> value) := by
  cases value with
  | ok a => exact plain_ok (f a)
  | error failure => exact plain_error (h failure rfl)

theorem reporting_done {result : Except Failure α} (plain : Plain result) : (Dialogue.done result).Reporting := by
  intro exchanges other leads
  obtain ⟨rfl, rfl⟩ := leads.of_done
  exact ⟨List.forall_mem_nil _, List.forall_mem_nil _, fun failure failed => .inr (plain failure failed)⟩

/-- **One exchange more**, which raises nothing. -/
theorem Reports.cons {exchange : Exchange} {result : Except Failure α} (writing : exchange.IsWriting)
    (reports : Reports exchanges result) (silent : exchange.raised = none) :
    Reports (exchange :: exchanges) result where
  writing := List.forall_mem_cons.mpr ⟨writing, reports.writing⟩
  raised := List.forall_mem_cons.mpr ⟨fun failure raised => (nomatch silent.symm.trans raised), reports.raised⟩
  others failure failed := by
    refine (reports.others failure failed).imp_left ?_
    rintro ⟨other, inside, raised⟩
    exact ⟨other, List.mem_cons_of_mem _ inside, raised⟩

/-- An exchange that raises a failure is the last one. -/
theorem reports_raised {exchange : Exchange} {failure : Failure} (writing : exchange.IsWriting)
    (raised : exchange.raised = some failure) : Reports [exchange] (.error failure : Except Failure α) where
  writing := List.forall_mem_singleton.mpr writing
  raised := List.forall_mem_singleton.mpr fun other found => by rw [Option.some.inj (raised.symm.trans found)]
  others := by
    rintro _ ⟨⟩
    exact .inl ⟨exchange, List.mem_singleton_self _, raised⟩

/-- **A statement and what follows it.** Its answer raises nothing and leads to a body that reports, or raises a failure
and ends the body with that. -/
theorem reporting_executing {statement : Statement} {next : Table → Dialogue (Except Failure α)}
    (writing : statement.writes = true)
    (each : ∀ table, (Exchange.raised ⟨.execute statement, .ok table⟩ = none ∧ (next table).Reporting) ∨
      ∃ failure, Exchange.raised ⟨.execute statement, .ok table⟩ = some failure ∧ next table = .done (.error failure)) :
    (Dialogue.executing statement next).Reporting := by
  intro exchanges result leads
  obtain ⟨failure | table, more, rfl, rest⟩ := leads.of_ask
  · obtain ⟨rfl, rfl⟩ := Leads.of_done rest
    exact reports_raised ⟨statement, rfl, writing⟩ rfl
  · obtain ⟨silent, reporting⟩ | ⟨failure, raised, ends⟩ := each table
    · exact (reporting more result rest).cons ⟨statement, rfl, writing⟩ silent
    · dsimp only at rest
      rw [ends] at rest
      obtain ⟨rfl, rfl⟩ := rest.of_done
      exact reports_raised ⟨statement, rfl, writing⟩ raised

/-- A statement whose answer raises nothing, and what is made of the answer. -/
theorem reporting_answer {statement : Statement} {g : Table → Except Failure α} (writing : statement.writes = true)
    (silent : ∀ table, Exchange.raised ⟨.execute statement, .ok table⟩ = none) (plain : ∀ table, Plain (g table)) :
    (Dialogue.executing statement fun table => .done (g table)).Reporting :=
  reporting_executing writing fun table => .inl ⟨silent table, reporting_done (plain table)⟩

theorem raised_tryLock (key1 key2 : Int) (table : Table) :
    Exchange.raised ⟨.execute (.tryLock key1 key2), .ok table⟩ =
      match table.one with
      | .ok _ => none
      | .error fault => some (.fault fault) := rfl

theorem reporting_lockDialogue {keys : Int × Int} {next : Dialogue (Except Failure (Option Int))}
    (reporting : next.Reporting) : (lockDialogue keys next).Reporting := by
  refine reporting_executing rfl fun table => ?_
  rw [raised_tryLock]
  cases only : table.one with
  | error fault =>
    have faulty : lockOutcome table = .error (.fault fault) := by
      unfold lockOutcome
      rw [only]
      rfl
    rw [faulty]
    exact .inr ⟨.fault fault, rfl, rfl⟩
  | ok row =>
    have plain : Plain (lockOutcome table) := by
      unfold lockOutcome
      rw [only]
      exact plain_bind (plain_ok row) fun row => plain_bind (plain_cell _) fun cell => plain_ok _
    refine .inl ⟨rfl, ?_⟩
    cases locked : lockOutcome table with
    | error failure => exact reporting_done (plain_error (plain failure locked))
    | ok taken =>
      cases taken with
      | true => exact reporting
      | false => exact reporting_done (plain_ok none)

theorem plain_insertOutcome (table : Table) : Plain (insertOutcome table) := by
  unfold insertOutcome
  cases table.first? with
  | none => exact plain_ok none
  | some row => exact plain_bind (plain_cell _) fun cell => plain_map (plain_cell _)

/-- **Taking a job into the queue reports what it meets.** -/
theorem reporting_enqueueDialogue (scope : String) (config : JobConfig) : (enqueueDialogue scope config).Reporting := by
  refine reporting_lockDialogue ?_
  unfold insertDialogue
  cases config.text? with
  | none => exact reporting_done (plain_error rfl)
  | some text => exact reporting_answer rfl (fun _ => rfl) plain_insertOutcome

/-- **Replacing a configuration reports what it meets.** -/
theorem reporting_updateDialogue (job : Int) (config : JobConfig) : (updateDialogue job config).Reporting := by
  unfold updateDialogue
  cases config.text? with
  | none => exact reporting_done (plain_error rfl)
  | some text =>
    refine reporting_answer rfl (fun _ => rfl) fun table => ?_
    split
    · exact plain_error rfl
    · exact plain_ok ()

/-- A statement that writes and whose answer does not matter reports what it meets. -/
theorem reporting_discard {statement : Statement} (writing : statement.writes = true)
    (silent : ∀ table, Exchange.raised ⟨.execute statement, .ok table⟩ = none) :
    (discard (Dialogue.engine.execute statement)).run.Reporting := by
  rw [run_discard]
  exact reporting_answer writing silent fun _ => plain_ok ()

/-! ## Sessions -/

/-- A failure of the library's own is passed on by a store. -/
theorem stored_plain {failure : Failure} (plain : failure.isPlain = true) : stored message failure = failure := by
  cases failure with
  | fault fault => exact nomatch plain
  | _ => rfl

/-- A failure that is passed on persistently is not the library's own. -/
theorem not_plain_of_stored {failure : Failure} {text : String} {cause : Option Cause}
    (turned : stored message failure = .persistence text cause) : failure.isPlain ≠ true := by
  intro plain
  rw [stored_plain plain] at turned
  rw [turned] at plain
  exact nomatch plain

/-- **An exchange without consequences** raises nothing and finds nothing invalid. -/
structure Exchange.Silent (exchange : Exchange) : Prop where
  /-- It raises nothing. -/
  raised : exchange.raised = none
  /-- It finds no state invalid. -/
  finds : ∀ problems, ¬exchange.FindsInvalid problems

/-- **Exchanges without consequences do not matter** to what a call fails with. -/
theorem Surfaces.among {others : List Exchange} (surfaces : Surfaces message exchanges outcome)
    (inside : ∀ exchange ∈ exchanges, exchange ∈ others)
    (silent : ∀ exchange ∈ others, exchange ∈ exchanges ∨ exchange.Silent) : Surfaces message others outcome where
  raised exchange there failure raised := by
    obtain member | quiet := silent exchange there
    · exact surfaces.raised exchange member failure raised
    · exact nomatch quiet.raised.symm.trans raised
  invalid exchange there problems finds := by
    obtain member | quiet := silent exchange there
    · exact surfaces.invalid exchange member problems finds
    · exact absurd finds (quiet.finds problems)
  persistent text cause failed := by
    refine (surfaces.persistent text cause failed).imp ?_ ?_
    · rintro ⟨exchange, member, found⟩
      exact ⟨exchange, inside exchange member, found⟩
    · rintro ⟨exchange, member, found⟩
      exact ⟨exchange, inside exchange member, found⟩

/-- An outcome of the library's own needs no exchange. -/
theorem surfaces_plain (plain : Plain outcome) : Surfaces message [] outcome where
  raised := List.forall_mem_nil _
  invalid := List.forall_mem_nil _
  persistent _ _ failed := nomatch plain _ failed

/-- A failed operation is what the call fails with. -/
theorem surfaces_failed (operation : Operation) (failure : Failure) :
    Surfaces message [⟨operation, .error failure⟩] (.error (stored message failure) : Except Failure α) where
  raised := by
    refine List.forall_mem_singleton.mpr ?_
    rintro _ ⟨⟩
    rfl
  invalid := by
    refine List.forall_mem_singleton.mpr fun problems finds => ?_
    cases operation with
    | execute statement => cases statement <;> exact nomatch finds
    | start _ | finish _ => exact nomatch finds
  persistent text cause failed := .inl ⟨_, List.mem_singleton_self _, failure, rfl, Except.error.inj failed⟩

theorem silent_start (kind : SessionKind) : Exchange.Silent ⟨.start kind, .ok ()⟩ :=
  ⟨rfl, nofun⟩

theorem silent_finish (ending : SessionEnd) : Exchange.Silent ⟨.finish ending, .ok ()⟩ :=
  ⟨rfl, nofun⟩

/-- A statement that writes finds no state invalid. -/
theorem Exchange.IsWriting.not_findsInvalid {exchange : Exchange} (writing : exchange.IsWriting)
    (problems : List Problem) : ¬exchange.FindsInvalid problems := by
  obtain ⟨operation, answer⟩ := exchange
  obtain ⟨statement, rfl, writes⟩ := writing
  intro finds
  cases statement with
  | selectState connection => exact nomatch writes
  | _ => exact nomatch finds

/-- **What a body reports is what the call fails with**, once faults are persistence failures. -/
theorem Reports.surfaces {result : Except Failure α} (reports : Reports exchanges result) :
    Surfaces message exchanges (result.mapError (stored message)) where
  raised exchange inside failure raised := by
    rw [reports.raised exchange inside failure raised]
    rfl
  invalid exchange inside problems finds :=
    absurd finds ((reports.writing exchange inside).not_findsInvalid problems)
  persistent text cause failed := by
    obtain failure | a := result
    · have turned : stored message failure = .persistence text cause := Except.error.inj failed
      obtain ⟨exchange, inside, raised⟩ | plain := reports.others failure rfl
      · exact .inl ⟨exchange, inside, failure, raised, turned⟩
      · exact absurd plain (not_plain_of_stored turned)
    · exact nomatch failed

/-- A body that succeeds has met nothing. -/
theorem Reports.silent {a : α} (reports : Reports exchanges (.ok a)) : ∀ exchange ∈ exchanges, exchange.Silent := by
  intro exchange inside
  refine ⟨?_, (reports.writing exchange inside).not_findsInvalid⟩
  cases raised : exchange.raised with
  | none => rfl
  | some failure => exact nomatch reports.raised exchange inside failure raised

/-- The exchanges of a session that are not those inside it. -/
theorem mem_session {statements : List Exchange} {first last exchange : Exchange} :
    exchange ∈ first :: statements ++ [last] ↔ exchange = first ∨ exchange ∈ statements ∨ exchange = last := by
  rw [List.cons_append, List.mem_cons, List.mem_append, List.mem_singleton]

/-- **A session that ends without a failure** comes to what happens inside it. -/
theorem Surfaces.session {statements : List Exchange} {kind : SessionKind} {ending : SessionEnd}
    (surfaces : Surfaces message statements outcome) :
    Surfaces message (⟨.start kind, .ok ()⟩ :: statements ++ [⟨.finish ending, .ok ()⟩]) outcome := by
  refine surfaces.among (fun exchange inside => mem_session.mpr (.inr (.inl inside))) fun exchange there => ?_
  obtain rfl | inside | rfl := mem_session.mp there
  · exact .inr (silent_start kind)
  · exact .inl inside
  · exact .inr (silent_finish ending)

theorem not_endsCleanly (ending : SessionEnd) (noCommit : ending ≠ .commit) (failure : Failure) :
    ¬Exchange.EndsCleanly ⟨.finish ending, .error failure⟩ :=
  fun clean => nomatch clean ending rfl noCommit

/-- **A transaction**, exchange by exchange. -/
theorem transacts_of_leads {body : Dialogue (Except Failure α)} (reporting : body.Reporting)
    (leads : (transaction message body).Leads exchanges (.done outcome))
    (clean : ∀ exchange ∈ exchanges, exchange.EndsCleanly) :
    Transacts exchanges outcome ∧ Surfaces message exchanges outcome ∧ exchanges ≠ [] := by
  obtain ⟨failure | _, more, rfl, rest⟩ := leads.of_ask
  · obtain ⟨rfl, rfl⟩ := Leads.of_done rest
    exact ⟨.unopened, surfaces_failed _ failure, List.cons_ne_nil _ _⟩
  obtain ⟨result, statements, final, inside, last, rfl⟩ := Dialogue.Leads.of_andThen rest
  have reports := reporting statements result inside
  have surfaces : Surfaces message statements _ := reports.surfaces
  refine (and_assoc.mp ⟨?_, List.cons_ne_nil _ _⟩)
  -- The body decides which end is asked for, and the answer to that decides the outcome.
  obtain failure | a := result
  · obtain ⟨other | _, more, rfl, ended⟩ := last.of_ask
    · exact absurd (clean _ (by simp)) (not_endsCleanly .rollback nofun other)
    · obtain ⟨rfl, rfl⟩ := Leads.of_done ended
      exact ⟨.rolledBack reports.writing, surfaces.session⟩
  · obtain ⟨reason | _, more, rfl, ended⟩ := last.of_ask
    · obtain ⟨rfl, rfl⟩ := Leads.of_done ended
      refine ⟨.uncommitted reports.writing, ?_⟩
      refine (surfaces_failed (.finish .commit) reason).among ?_ fun exchange there => ?_
      · exact List.forall_mem_singleton.mpr (mem_session.mpr (.inr (.inr rfl)))
      · obtain rfl | member | rfl := mem_session.mp there
        · exact .inr (silent_start .writing)
        · exact .inr (reports.silent exchange member)
        · exact .inl (List.mem_singleton_self _)
    · obtain ⟨rfl, rfl⟩ := Leads.of_done ended
      exact ⟨.committed reports.writing, surfaces.session⟩

/-! ## Calls that read -/

/-- **Reading a table**, and making something of it when the session is over. -/
def readingTable (message : String) (statement : Statement) (g : Table → Except Failure α) :
    Dialogue (Except Failure α) :=
  (readingSession message (.ask (.execute statement) .done)).andThen fun
    | .ok table => .done (g table)
    | .error failure => .done (.error failure)

/-- **A call that reads**, exchange by exchange. -/
theorem surfaces_of_leads {statement : Statement} {g : Table → Except Failure α}
    (answered : ∀ table, Surfaces message [⟨.execute statement, .ok table⟩] (g table))
    (leads : (readingTable message statement g).Leads exchanges (.done outcome))
    (clean : ∀ exchange ∈ exchanges, exchange.EndsCleanly) :
    Surfaces message exchanges outcome ∧ exchanges ≠ [] := by
  obtain ⟨read, first, second, session, decoding, rfl⟩ := Dialogue.Leads.of_andThen leads
  obtain ⟨failure | _, more, rfl, rest⟩ := session.of_ask
  · obtain ⟨rfl, rfl⟩ := Leads.of_done rest
    obtain ⟨rfl, rfl⟩ := Leads.of_done decoding
    exact ⟨surfaces_failed _ failure, List.cons_ne_nil _ _⟩
  obtain ⟨answer, more, rfl, closing⟩ := rest.of_ask
  obtain ⟨other | _, more, rfl, ended⟩ := closing.of_ask
  · exact absurd (clean _ (by simp)) (not_endsCleanly .close nofun other)
  obtain ⟨rfl, rfl⟩ := Leads.of_done ended
  refine ⟨?_, List.cons_ne_nil _ _⟩
  obtain failure | table := answer
  · obtain ⟨rfl, rfl⟩ := Leads.of_done decoding
    exact (surfaces_failed (.execute statement) failure).session
  · obtain ⟨rfl, rfl⟩ := Leads.of_done decoding
    exact (answered table).session

/-- An exchange without consequences, and what is made of it. -/
theorem surfaces_answered {exchange : Exchange} (silent : exchange.Silent) (plain : Plain outcome) :
    Surfaces message [exchange] outcome :=
  (surfaces_plain plain).among (List.forall_mem_nil _) (List.forall_mem_singleton.mpr (.inr silent))

/-- The state in what the statement that reads one answers. -/
def stateOfTable (table : Table) : Except Failure (Option SavedState) :=
  match table.first? with
  | none => .ok none
  | some row => (row.cell "state").mapError .cell >>= fun cell => stateIn (some cell)

/-- **A stored state that is invalid** is what a call fails with, and nothing else is found. -/
theorem surfaces_stateOfTable (connection : Uuid) (table : Table) :
    Surfaces message [⟨.execute (.selectState connection), .ok table⟩] (stateOfTable table) := by
  unfold stateOfTable
  cases first : table.first? with
  | none =>
    refine surfaces_answered ⟨rfl, ?_⟩ (plain_ok none)
    rintro problems ⟨row, cell, found, -⟩
    exact nomatch first.symm.trans found
  | some row =>
    dsimp only
    cases held : row.cell "state" with
    | error problem =>
      refine surfaces_answered ⟨rfl, ?_⟩ (plain_error rfl)
      rintro problems ⟨other, cell, found, there, -⟩
      obtain rfl := Option.some.inj (first.symm.trans found)
      exact nomatch held.symm.trans there
    | ok cell =>
      -- Problems that are found are those of this cell.
      have only {problems : List Problem}
          (finds : Exchange.FindsInvalid problems ⟨.execute (.selectState connection), .ok table⟩) :
          cell.isNull = false ∧ checkState cell = .invalid problems := by
        obtain ⟨other, another, found, there, present, checked⟩ := finds
        obtain rfl := Option.some.inj (first.symm.trans found)
        obtain rfl := Except.ok.inj (held.symm.trans there)
        exact ⟨present, checked⟩
      show Surfaces message _ (stateIn (some cell))
      unfold stateIn
      dsimp only
      cases present : cell.isNull with
      | true =>
        refine surfaces_answered ⟨rfl, fun problems finds => ?_⟩ (plain_ok none)
        exact nomatch present.symm.trans (only finds).1
      | false =>
        cases checked : checkState cell with
        | valid state =>
          refine surfaces_answered ⟨rfl, fun problems finds => ?_⟩ (plain_ok (some state))
          exact nomatch checked.symm.trans (only finds).2
        | invalid problems =>
          refine ⟨List.forall_mem_singleton.mpr nofun, List.forall_mem_singleton.mpr fun others finds => ?_, ?_⟩
          · obtain rfl := Checked.invalid.inj (checked.symm.trans (only finds).2)
            rfl
          · rintro _ _ ⟨⟩
            exact .inr ⟨_, List.mem_singleton_self _, problems, ⟨row, cell, first, held, present, checked⟩, rfl, rfl⟩

/-! ## Every call -/

/-- **How a call goes**, given what it has exchanged with the engine and what it has come to. -/
structure StoreCall.Goes (call : StoreCall α) (exchanges : List Exchange) (outcome : Except Failure α) : Prop where
  /-- A call that writes transacts. -/
  transacts : call.writes = true → Transacts exchanges outcome
  /-- Only a call with nothing to do asks for nothing. -/
  idle : exchanges = [] ↔ call.isIdle = true
  /-- What it fails with is what has been raised and found. -/
  surfaces : Surfaces call.message exchanges outcome

theorem goes_transaction {call : StoreCall α} {body : Dialogue (Except Failure α)} (busy : call.isIdle = false)
    (same : call.dialogue = transaction call.message body) (reporting : body.Reporting)
    (leads : call.dialogue.Leads exchanges (.done outcome)) (clean : ∀ exchange ∈ exchanges, exchange.EndsCleanly) :
    call.Goes exchanges outcome := by
  rw [same] at leads
  obtain ⟨transacts, surfaces, asks⟩ := transacts_of_leads reporting leads clean
  refine ⟨fun _ => transacts, ⟨fun empty => absurd empty asks, fun idle => ?_⟩, surfaces⟩
  exact nomatch busy.symm.trans idle

theorem goes_readingTable {call : StoreCall α} {statement : Statement} {g : Table → Except Failure α}
    (reads : call.writes = false) (busy : call.isIdle = false)
    (same : call.dialogue = readingTable call.message statement g)
    (answered : ∀ table, Surfaces call.message [⟨.execute statement, .ok table⟩] (g table))
    (leads : call.dialogue.Leads exchanges (.done outcome)) (clean : ∀ exchange ∈ exchanges, exchange.EndsCleanly) :
    call.Goes exchanges outcome := by
  rw [same] at leads
  obtain ⟨surfaces, asks⟩ := surfaces_of_leads answered leads clean
  refine ⟨fun writes => ?_, ⟨fun empty => absurd empty asks, fun idle => ?_⟩, surfaces⟩
  · exact nomatch reads.symm.trans writes
  · exact nomatch busy.symm.trans idle

/-- A call with nothing to do ends at once. -/
theorem goes_idle {call : StoreCall α} {result : Except Failure α} (idle : call.isIdle = true)
    (same : call.dialogue = .done result) (plain : Plain result)
    (leads : call.dialogue.Leads exchanges (.done outcome)) : call.Goes exchanges outcome := by
  rw [same] at leads
  obtain ⟨rfl, rfl⟩ := leads.of_done
  exact ⟨fun _ => .untouched _, ⟨fun _ => idle, fun _ => rfl⟩, surfaces_plain plain⟩

/-- A table that is read, as a dialogue. -/
theorem run_readingTable {message : String} {statement : Statement} {f : Table → Attempt Dialogue α}
    {g : Table → Except Failure α} (made : ∀ table, (f table).run = .done (g table)) :
    (storing message (Dialogue.engine.read (Dialogue.engine.execute statement)) >>= f).run =
      readingTable message statement g := by
  rw [run_bind, storing_read]
  unfold readingTable
  refine congrArg (readingSession message (Dialogue.engine.execute statement).run).andThen ?_
  funext outcome
  obtain failure | table := outcome
  · rfl
  · exact made table

/-- The rows of a table, as they are decoded after a session. -/
theorem run_rows {β : Type} (decode : Row → Except CellProblem β) (table : Table) :
    (reading (table.toRows.mapM decode) : Attempt Dialogue (List β)).run =
      .done ((table.toRows.mapM decode).mapError .cell) := by
  unfold reading
  cases table.toRows.mapM decode <;> rfl

theorem dialogue_getState (connection : Uuid) :
    (StoreCall.getState connection).dialogue =
      readingTable "failed to read connection state" (.selectState connection) stateOfTable := by
  refine run_readingTable fun table => ?_
  unfold stateOfTable
  cases table.first? with
  | none => rfl
  | some row =>
    dsimp only
    cases row.cell "state" with
    | error problem => rfl
    | ok cell => exact run_stateOfCell cell

theorem dialogue_listRequests (connection : Uuid) :
    (StoreCall.listRequests connection).dialogue =
      readingTable "failed to list stream refreshes" (.listRequests connection) fun table =>
        (table.toRows.mapM listedRequest).mapError .cell :=
  run_readingTable (run_rows listedRequest)

theorem dialogue_listGenerations (connection : Uuid) :
    (StoreCall.listGenerations connection).dialogue =
      readingTable "failed to read stream generations" (.latestGenerations connection) fun table =>
        (table.toRows.mapM listedGeneration).mapError .cell :=
  run_readingTable (run_rows listedGeneration)

/-- Something made of what a call has read, as a dialogue. -/
theorem readingTable_map {β : Type} {message : String} {statement : Statement} {g : Table → Except Failure α}
    {m : Attempt Dialogue α} (f : α → β) (reads : m.run = readingTable message statement g) :
    (m >>= fun a => pure (f a)).run = readingTable message statement fun table => f <$> g table := by
  rw [run_bind, reads]
  unfold readingTable
  rw [andThen_assoc]
  refine congrArg (readingSession message _).andThen ?_
  funext outcome
  obtain failure | table := outcome
  · rfl
  · dsimp only [Dialogue.andThen]
    cases g table <;> rfl

theorem dialogue_currentGenerations (connection : Uuid) :
    (StoreCall.currentGenerations connection).dialogue =
      readingTable "failed to read stream generations" (.latestGenerations connection) fun table =>
        generationsOf <$> (table.toRows.mapM listedGeneration).mapError .cell :=
  readingTable_map generationsOf (dialogue_listGenerations connection)

/-- Recording generations opens no session when there are none. -/
theorem dialogue_insertGenerations (connection : Uuid) (job : Int) (generations : List (StreamId × Int)) :
    (StoreCall.insertGenerations connection job generations).dialogue =
      if generations.isEmpty then .done (.ok ())
      else transaction "failed to insert stream generations" (discard (Dialogue.engine.execute (.insertGenerations
        (generations.map fun entry => ⟨connection, entry.1, entry.2, job⟩)))).run := by
  show (Sql.insertGenerations Dialogue.engine connection job generations).run = _
  unfold Sql.insertGenerations
  by_cases none : generations.isEmpty = true
  · rw [if_pos none, if_pos none]
    rfl
  · rw [if_neg none, if_neg none]
    exact storing_transact _

/-- **Every call is all or nothing, and fails with what has gone wrong.** -/
theorem StoreCall.goes_of_leads (call : StoreCall α) (leads : call.dialogue.Leads exchanges (.done outcome))
    (clean : ∀ exchange ∈ exchanges, exchange.EndsCleanly) : call.Goes exchanges outcome := by
  cases call with
  | enqueue scope config =>
    have dialogue := dialogue_enqueue scope config
    by_cases blank : (Text.trim scope).isEmpty = true
    · rw [if_pos blank] at dialogue
      exact goes_idle blank dialogue (plain_error rfl) leads
    · rw [if_neg blank] at dialogue
      exact goes_transaction (Bool.eq_false_iff.mpr blank) dialogue (reporting_enqueueDialogue _ config) leads
        clean
  | updateConfig job config =>
    exact goes_transaction rfl (run_updateConfig job config) (reporting_updateDialogue job config) leads clean
  | getState connection =>
    exact goes_readingTable rfl rfl (dialogue_getState connection) (surfaces_stateOfTable connection) leads clean
  | putState connection state =>
    refine goes_transaction rfl (storing_transact _) ?_ leads clean
    cases state.text? with
    | none => exact reporting_done (plain_error rfl)
    | some text => exact reporting_discard rfl fun _ => rfl
  | listRequests connection =>
    exact goes_readingTable rfl rfl (dialogue_listRequests connection)
      (fun _ => surfaces_answered ⟨rfl, fun _ => False.elim⟩ (plain_cell _)) leads clean
  | deleteRequest connection name space =>
    exact goes_transaction rfl (storing_transact _) (reporting_discard rfl fun _ => rfl) leads clean
  | listGenerations connection =>
    exact goes_readingTable rfl rfl (dialogue_listGenerations connection)
      (fun _ => surfaces_answered ⟨rfl, fun _ => False.elim⟩ (plain_cell _)) leads clean
  | currentGenerations connection =>
    exact goes_readingTable rfl rfl (dialogue_currentGenerations connection)
      (fun _ => surfaces_answered ⟨rfl, fun _ => False.elim⟩ (plain_map (plain_cell _))) leads clean
  | insertGenerations connection job generations =>
    have dialogue := dialogue_insertGenerations connection job generations
    by_cases none : generations.isEmpty = true
    · rw [if_pos none] at dialogue
      exact goes_idle none dialogue (plain_ok ()) leads
    · rw [if_neg none] at dialogue
      exact goes_transaction (Bool.eq_false_iff.mpr none) dialogue (reporting_discard rfl fun _ => rfl) leads clean

end Runs

namespace FailedDeletion

/-- The deletion of a request. -/
def call : StoreCall Unit := .deleteRequest default "users" (some "public")

/-- The fault that the engine reports. -/
def fault : Fault := .engine "IntegrityError"

/-- Its statement meets the fault, and the transaction is rolled back. -/
def exchanges : List Exchange :=
  [⟨.start .writing, .ok ()⟩, ⟨.execute (.deleteRequest default ⟨"users", some "public"⟩), .error (.fault fault)⟩,
    ⟨.finish .rollback, .ok ()⟩]

/-- The failure of the deletion. -/
def failure : Failure := .persistence "failed to delete stream refresh" (some (.fault fault))

theorem leads : call.dialogue.Leads exchanges (.done (.error failure)) := by
  have same : call.dialogue = transaction "failed to delete stream refresh" _ := storing_transact _
  rw [same, run_discard]
  exact .ask (.ask (.ask (.here _)))

theorem clean : ∀ exchange ∈ exchanges, exchange.EndsCleanly := by
  unfold exchanges Exchange.EndsCleanly
  simp [Exchange.raised]

/-- The deletion is rolled back, and fails persistently with the fault as its cause. -/
theorem goes : call.dialogue.Leads exchanges (.done (.error failure)) ∧
    (∀ exchange ∈ exchanges, exchange.EndsCleanly) ∧ call.Goes exchanges (.error failure) :=
  ⟨leads, clean, call.goes_of_leads leads clean⟩

end FailedDeletion

end Sql

end ConnectionJobs
