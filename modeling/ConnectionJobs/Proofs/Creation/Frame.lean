import ConnectionJobs.Proofs.Creation.Reach
import ConnectionJobs.Proofs.Creation.Stamping
import ConnectionJobs.Proofs.Store.Atomicity
import ConnectionJobs.Proofs.Store.Tables

/-!
# A creation stays with its connection

Requests carry the identifier of a connection, and nothing forces it to be the one that a refresh is made for. A creation
never looks at it: all that it does to the stores it does under the connection it was called for, or to the job that the
queue has just numbered for it. So whatever is in the tables, and whatever fails, the rows of all other connections are
the same before and after.

A creation runs here with all its own components, and each of its calls on a store is the dialogue of that call with a
database of four tables. Three things are put together: the calls a creation makes (`Reaches`), the statements that such
a call executes (`Sql.within_of_follows`), and what these statements do to the tables (`Tables.Executes.frame`). The number
of a job ties them to each other: the queue answers one that no job had before, so the jobs with that number are the
connection's own.
-/

namespace ConnectionJobs

/-! ## The calls of a creation -/

/-- The connection that a call names. -/
def Call.connection? : Call → Option Uuid
  | switch _ _ | text _ _ | defaults _ _ _ | enqueue _ _ | updateConfig _ _ => none
  | resolve connection _ _ _ => some connection.connectionId
  | eligibility _ connection _ _ => some connection
  | bump connection _ _ => some connection
  | stamp _ connection _ _ => some connection
  | currentGenerations connection => some connection
  | insertGenerations connection _ _ => some connection
  | readState connection => some connection
  | writeState connection _ => some connection
  | clearCursors connection _ _ => some connection
  | deleteRequest connection _ _ => some connection

/-- **Some steps stay with a connection.** -/
structure StaysWith (connection : Uuid) (steps : List Step) : Prop where
  /-- A job is enqueued under the scope of the connection. -/
  scope : ∀ scope config, .enqueue scope config ∈ calls steps → scope = connection.text
  /-- A call that names a connection names this one. -/
  bound : ∀ call ∈ calls steps, ∀ other, call.connection? = some other → other = connection
  /-- The configuration of a job is replaced only when the queue has answered its number before. -/
  own : ∀ before after job config answer, steps = before ++ .called (.updateConfig job config) answer :: after →
    ∃ scope config, .called (.enqueue scope config) (.ok (some job)) ∈ before

section Staying

variable {connection : Uuid} {call : Call}

/-- A question about the configuration names no connection. -/
theorem connection?_of_isConfiguration (h : call.isConfiguration = true) : call.connection? = none := by
  cases call with
  | switch _ _ => rfl
  | text _ _ => rfl
  | defaults _ _ _ => rfl
  | _ => exact nomatch h

/-- What follows the answer of the queue names the connection if it names one. -/
theorem Call.Follows.connection?_eq {answer : Except Failure (Option Int)} {other : Uuid}
    (follows : call.Follows connection answer) (named : call.connection? = some other) : other = connection := by
  cases call with
  | switch _ _ => exact nomatch named
  | updateConfig _ _ => exact nomatch named
  | currentGenerations _ => exact (Option.some.inj named).symm.trans follows
  | insertGenerations _ _ _ => exact (Option.some.inj named).symm.trans follows.1
  | readState _ => exact (Option.some.inj named).symm.trans follows
  | writeState _ _ => exact (Option.some.inj named).symm.trans follows
  | deleteRequest _ _ _ => exact (Option.some.inj named).symm.trans follows
  | _ => exact follows.elim

/-- **A creation asks about the configuration, turns to the queue, and follows its answer.** -/
theorem Reaches.split {creation : CreationCall} {steps : List Step} (reaches : Reaches creation steps) :
    (∀ call ∈ calls steps, call.isConfiguration = true) ∨
      ∃ opening config answer rest, (∀ call ∈ calls opening, call.isConfiguration = true) ∧
        (∀ call ∈ calls rest, call.Follows creation.connection.connectionId answer) ∧
        steps = opening ++ .called (.enqueue creation.connection.connectionId.text config) answer :: rest := by
  cases reaches with
  | opening questions => exact .inl questions
  | @queue s t u resources answer switches resolved rest =>
    refine .inr ⟨s ++ t, creation.config resources, answer, u, ?_, rest, rfl⟩
    rw [calls_append]
    refine List.forall_mem_append.mpr ⟨fun call hm => ?_, questions_of_resolution resolved⟩
    obtain ⟨flag, context, rfl⟩ := switches call hm
    rfl

/-- Steps that only ask about the configuration stay with any connection. -/
theorem staysWith_of_questions {steps : List Step} (questions : ∀ call ∈ calls steps, call.isConfiguration = true) :
    StaysWith connection steps where
  scope _ _ asked := nomatch questions _ asked
  bound call asked other named := nomatch (connection?_of_isConfiguration (questions call asked)).symm.trans named
  own before after job config answer same := by
    subst same
    exact nomatch questions (.updateConfig job config) (mem_calls.mpr ⟨_, List.mem_append_right _ List.mem_cons_self⟩)

/-- **A creation stays with its connection.** -/
theorem Reaches.staysWith {creation : CreationCall} {steps : List Step} (reaches : Reaches creation steps) :
    StaysWith creation.connection.connectionId steps := by
  obtain questions | ⟨opening, config, answer, rest, questions, follows, rfl⟩ := reaches.split
  · exact staysWith_of_questions questions
  have before : StaysWith creation.connection.connectionId opening := staysWith_of_questions questions
  refine ⟨fun scope other asked => ?_, fun call asked other named => ?_, ?_⟩
  · rw [calls_append, calls_called, List.mem_append, List.mem_cons] at asked
    obtain asked | here | asked := asked
    · exact before.scope scope other asked
    · exact (Call.enqueue.inj here).1
    · exact (follows _ asked).elim
  · rw [calls_append, calls_called, List.mem_append, List.mem_cons] at asked
    obtain asked | rfl | asked := asked
    · exact before.bound call asked other named
    · exact nomatch named
    · exact (follows call asked).connection?_eq named
  · intro first last job patched result same
    -- The configuration is replaced after the queue has answered, and that answer has the number of the job.
    have unasked : .called (.updateConfig job patched) result ∉ opening := fun hm =>
      nomatch questions _ (mem_calls.mpr ⟨_, hm⟩)
    obtain ⟨between, rfl, tail⟩ := exists_of_append_eq same unasked
    obtain _ | ⟨step, between⟩ := between
    · exact nomatch (List.cons.inj tail).1
    · rw [List.cons_append, List.cons.injEq] at tail
      obtain ⟨rfl, rfl⟩ := tail
      have own : answer = .ok (some job) :=
        follows (.updateConfig job patched) (mem_calls.mpr ⟨_, List.mem_append_right _ List.mem_cons_self⟩)
      subst own
      exact ⟨_, config, List.mem_append_right _ List.mem_cons_self⟩

end Staying

/-! ## The statements of a call -/

/-- The call on a store that a call is, if it is one. -/
def Call.stored? : (call : Call) → Option (Sql.StoreCall call.Answer)
  | enqueue scope config => some (.enqueue scope config)
  | updateConfig job config => some (.updateConfig job config)
  | currentGenerations connection => some (.currentGenerations connection)
  | insertGenerations connection job generations => some (.insertGenerations connection job generations)
  | readState connection => some (.getState connection)
  | writeState connection state => some (.putState connection state)
  | deleteRequest connection name space => some (.deleteRequest connection name space)
  | switch _ _ | text _ _ | defaults _ _ _ | eligibility _ _ _ _ | resolve _ _ _ _ | bump _ _ _ | stamp _ _ _ _
  | clearCursors _ _ _ => none

/-- A question about the configuration is not for a store. -/
theorem stored?_of_isConfiguration {call : Call} (h : call.isConfiguration = true) : call.stored? = none := by
  cases call with
  | switch _ _ => rfl
  | text _ _ => rfl
  | defaults _ _ _ => rfl
  | _ => exact nomatch h

namespace Sql

section Within

variable {α : Type} {connection : Uuid} {own : Int → Prop} {message : String} {p : Operation → Prop}

/-- What a dialogue is led along is what it asks for. -/
theorem Dialogue.Every.of_leads {dialogue rest : Dialogue α} {exchanges : List Exchange} (every : dialogue.Every p)
    (leads : dialogue.Leads exchanges rest) : ∀ exchange ∈ exchanges, p exchange.operation := by
  induction leads with
  | here _ => exact List.forall_mem_nil _
  | ask _ ih =>
    cases every with
    | ask here others => exact List.forall_mem_cons.mpr ⟨here, ih (others _)⟩

/-- Reading a table asks for one statement, in a session that is closed. -/
theorem every_readingTable {statement : Statement} {g : Table → Except Failure α} (start : p (.start .reading))
    (here : p (.execute statement)) (close : p (.finish .close)) : (readingTable message statement g).Every p := by
  refine Dialogue.Every.andThen ?_ fun read => ?_
  · refine .ask start fun opened => ?_
    cases opened with
    | error failure => exact .done _
    | ok _ =>
      refine .ask here fun answer => .ask close fun closed => ?_
      cases closed <;> exact .done _
  · cases read <;> exact .done _

/-- A transaction of one statement whose answer does not matter is within what the statement is. -/
theorem within_discard {statement : Statement} (within : statement.Within connection own) :
    (transaction message (discard (Dialogue.engine.execute statement)).run).Every (Operation.Within connection own) := by
  rw [run_discard]
  exact every_transaction (every_executing within fun _ => .done _) trivial fun _ => trivial

/-- Inserting a job under the scope of a connection is within the connection. -/
theorem within_insertDialogue (config : JobConfig) :
    (insertDialogue connection.text config).Every (Operation.Within connection own) := by
  unfold insertDialogue
  split
  · exact .done _
  · refine every_executing ?_ fun _ => .done _
    exact rfl

/-- **Taking a job into the queue under the scope of a connection** is within the connection. -/
theorem within_enqueue (config : JobConfig) :
    (StoreCall.enqueue connection.text config).dialogue.Every (Operation.Within connection own) := by
  have dialogue := dialogue_enqueue connection.text config
  rw [Uuid.trim_text] at dialogue
  change Dialogue.Every _ (QueueCall.enqueue connection.text config).dialogue
  rw [dialogue]
  by_cases blank : connection.text.isEmpty = true
  · rw [if_pos blank]
    exact .done _
  rw [if_neg blank, enqueueDialogue, lockDialogue]
  refine every_transaction (every_executing trivial fun table => ?_) trivial fun _ => trivial
  obtain failure | taken := lockOutcome table
  · exact .done _
  · cases taken with
    | false => exact .done _
    | true => exact within_insertDialogue config

/-- **What follows the answer of the queue is within the connection** and the job in the answer. -/
theorem within_of_follows {call : Call} {answer : Except Failure (Option Int)} {stored : StoreCall call.Answer}
    (follows : call.Follows connection answer) (same : call.stored? = some stored) :
    stored.dialogue.Every (Operation.Within connection fun job => answer = .ok (some job)) := by
  cases call with
  | updateConfig job config =>
    cases same
    change Dialogue.Every _ ((jobQueue Dialogue.engine).updateConfig job config).run
    rw [run_updateConfig]
    refine every_transaction ?_ trivial fun _ => trivial
    unfold updateDialogue
    split
    · exact .done _
    · exact every_executing follows fun _ => .done _
  | currentGenerations other =>
    cases same
    rw [dialogue_currentGenerations]
    exact every_readingTable trivial follows trivial
  | insertGenerations other job generations =>
    cases same
    obtain ⟨rfl, -⟩ := follows
    rw [dialogue_insertGenerations]
    split
    · exact .done _
    · refine within_discard fun entry mem => ?_
      obtain ⟨_, -, rfl⟩ := List.mem_map.mp mem
      rfl
  | readState other =>
    cases same
    rw [dialogue_getState]
    exact every_readingTable trivial follows trivial
  | writeState other state =>
    cases same
    change Dialogue.Every _ (putState Dialogue.engine other state).run
    unfold putState
    rw [storing_transact]
    cases state.text? with
    | none => exact every_transaction (.done _) trivial fun _ => trivial
    | some text => exact within_discard follows
  | deleteRequest other name space =>
    cases same
    change Dialogue.Every _ (deleteRequest Dialogue.engine other name space).run
    unfold deleteRequest
    rw [storing_transact]
    exact within_discard follows
  | switch _ _ => exact nomatch same
  | _ => exact follows.elim

end Within

/-! ## The number that the queue answers -/

section Numbering

variable {α : Type} {connection : Uuid} {message : String} {exchanges : List Exchange} {before after : Contents}

/-- **A transaction that answers has been committed**, and its body has answered the same. -/
theorem committed_of_transaction {body : Dialogue (Except Failure α)} {a : α}
    (leads : (transaction message body).Leads exchanges (.done (.ok a))) (changed : Changed before exchanges after) :
    ∃ statements middle, body.Leads statements (.done (.ok a)) ∧
      Changed ⟨before.committed, before.committed⟩ statements middle ∧ after = ⟨middle.working, middle.working⟩ := by
  obtain ⟨failure | _, more, rfl, rest⟩ := leads.of_ask
  · exact nomatch (Dialogue.Leads.of_done rest).2
  obtain ⟨result, statements, final, inside, last, rfl⟩ := Dialogue.Leads.of_andThen rest
  cases changed with
  | cons first others =>
    cases first
    obtain ⟨middle, changed, ended⟩ := others.of_append
    obtain failure | b := result
    · obtain ⟨other | _, more, rfl, concluded⟩ := last.of_ask
      · exact nomatch (Dialogue.Leads.of_done concluded).2
      · exact nomatch (Dialogue.Leads.of_done concluded).2
    · obtain ⟨other | _, more, rfl, concluded⟩ := last.of_ask
      · exact nomatch (Dialogue.Leads.of_done concluded).2
      · obtain ⟨rfl, same⟩ := Dialogue.Leads.of_done concluded
        cases same
        refine ⟨statements, middle, inside, changed, ?_⟩
        cases ended with
        | cons commit nothing =>
          cases nothing
          cases commit with
          | committed => rfl
          | dropped unsaid => exact absurd rfl (unsaid rfl)

/-- **The number of an inserted job is new**, so that the jobs with this number are the connection's. -/
theorem owned_of_insertDialogue {config : JobConfig} {job : Int}
    (leads : (insertDialogue connection.text config).Leads exchanges (.done (.ok (some job))))
    (changed : Changed before exchanges after) : after.working.Owned connection (· = job) := by
  unfold insertDialogue at leads
  split at leads
  · exact nomatch (Dialogue.Leads.of_done leads).2
  obtain ⟨failure | table, more, rfl, rest⟩ := leads.of_ask
  · exact nomatch (Dialogue.Leads.of_done rest).2
  obtain ⟨rfl, said⟩ := Dialogue.Leads.of_done rest
  cases changed with
  | cons first nothing =>
    cases nothing
    cases first with
    | executed executes =>
      cases executes with
      | read reads => exact nomatch reads
      | occupied _ _ =>
        rw [insertOutcome_idTable] at said
        exact nomatch said
      | inserted _ fresh =>
        rw [insertOutcome_idTable] at said
        cases said
        intro row mem numbered
        obtain old | new := List.mem_append.mp mem
        · exact absurd numbered (fresh row old)
        · rw [List.mem_singleton.mp new]

/-- Only a lock that is taken leads to an insertion. -/
theorem owned_of_enqueueDialogue {config : JobConfig} {job : Int}
    (leads : (enqueueDialogue connection.text config).Leads exchanges (.done (.ok (some job))))
    (changed : Changed before exchanges after) : after.working.Owned connection (· = job) := by
  unfold enqueueDialogue lockDialogue at leads
  obtain ⟨failure | table, more, rfl, rest⟩ := leads.of_ask
  · exact nomatch (Dialogue.Leads.of_done rest).2
  dsimp only at rest
  cases changed with
  | cons first others =>
    generalize lockOutcome table = lock at rest
    obtain failure | taken := lock
    · exact nomatch (Dialogue.Leads.of_done rest).2
    · cases taken with
      | false => exact nomatch (Dialogue.Leads.of_done rest).2
      | true => exact owned_of_insertDialogue rest others

/-- **The jobs with the number that the queue answers are the connection's.** -/
theorem owned_of_enqueue {config : JobConfig} {answer : Except Failure (Option Int)}
    (leads : (StoreCall.enqueue connection.text config).dialogue.Leads exchanges (.done answer))
    (changed : Changed before exchanges after) :
    after.committed.Owned connection (fun job => answer = .ok (some job)) ∧
      after.working.Owned connection fun job => answer = .ok (some job) := by
  obtain failure | _ | job := answer
  · exact ⟨fun _ _ none => (nomatch none), fun _ _ none => (nomatch none)⟩
  · exact ⟨fun _ _ none => (nomatch none), fun _ _ none => (nomatch none)⟩
  have dialogue := dialogue_enqueue connection.text config
  rw [Uuid.trim_text] at dialogue
  change (QueueCall.enqueue connection.text config).dialogue.Leads _ _ at leads
  rw [dialogue] at leads
  by_cases blank : connection.text.isEmpty = true
  · rw [if_pos blank] at leads
    exact nomatch (Dialogue.Leads.of_done leads).2
  rw [if_neg blank] at leads
  obtain ⟨statements, middle, inside, made, rfl⟩ := committed_of_transaction leads changed
  have owned := owned_of_enqueueDialogue inside made
  have both : middle.working.Owned connection fun number => Except.ok (some job) = (.ok (some number) : Except Failure _) :=
    fun row mem numbered => owned row mem (Option.some.inj (Except.ok.inj numbered)).symm
  exact ⟨both, both⟩

end Numbering

end Sql

/-! ## Whole creations -/

open Sql (Contents Changed Tables)

/-- **What steps make of a database** that takes the calls on the stores: each is the dialogue of the call, and it has
ended in the outcome of the step. -/
inductive Stored : Contents → List Step → Contents → Prop
  /-- Nothing happens. -/
  | nil (contents : Contents) : Stored contents [] contents
  /-- A report changes nothing. -/
  | reported {before after : Contents} {event : Log.Event} {steps : List Step} (rest : Stored before steps after) :
      Stored before (.reported event :: steps) after
  /-- A call that is not on a store changes nothing. -/
  | outside {before after : Contents} {call : Call} {answer : Except Failure call.Answer} {steps : List Step}
      (outside : call.stored? = none) (rest : Stored before steps after) :
      Stored before (.called call answer :: steps) after
  /-- A call on a store has a dialogue with the database. -/
  | inside {before middle after : Contents} {call : Call} {answer : Except Failure call.Answer} {steps : List Step}
      {stored : Sql.StoreCall call.Answer} {exchanges : List Sql.Exchange} (same : call.stored? = some stored)
      (leads : stored.dialogue.Leads exchanges (.done answer)) (changed : Changed before exchanges middle)
      (rest : Stored middle steps after) : Stored before (.called call answer :: steps) after

section Frame

variable {connection : Uuid} {start : Tables} {before after : Contents} {s t steps : List Step}
  {answer : Except Failure (Option Int)}

/-- What steps make of it in two parts. -/
theorem Stored.of_append (stored : Stored before (s ++ t) after) :
    ∃ middle, Stored before s middle ∧ Stored middle t after := by
  induction s generalizing before with
  | nil => exact ⟨before, .nil before, stored⟩
  | cons step rest ih =>
    cases stored with
    | reported others =>
      obtain ⟨middle, left, right⟩ := ih others
      exact ⟨middle, .reported left, right⟩
    | outside outside others =>
      obtain ⟨middle, left, right⟩ := ih others
      exact ⟨middle, .outside outside left, right⟩
    | inside same leads changed others =>
      obtain ⟨middle, left, right⟩ := ih others
      exact ⟨middle, .inside same leads changed left, right⟩

/-- Questions about the configuration change nothing. -/
theorem Stored.of_questions (stored : Stored before steps after)
    (questions : ∀ call ∈ calls steps, call.isConfiguration = true) : after = before := by
  induction stored with
  | nil _ => rfl
  | reported _ ih => exact ih questions
  | outside _ _ ih => exact ih (List.forall_mem_cons.mp questions).2
  | inside same _ _ _ _ =>
    exact nomatch (stored?_of_isConfiguration (List.forall_mem_cons.mp questions).1).symm.trans same

/-- **What follows the answer of the queue leaves all others as they are.** -/
theorem Stored.framed (stored : Stored before steps after) (follows : ∀ call ∈ calls steps, call.Follows connection answer)
    (framed : before.Framed connection (fun job => answer = .ok (some job)) start) :
    after.Framed connection (fun job => answer = .ok (some job)) start := by
  induction stored with
  | nil _ => exact framed
  | reported _ ih => exact ih follows framed
  | outside _ _ ih => exact ih (List.forall_mem_cons.mp follows).2 framed
  | inside same leads changed _ ih =>
    obtain ⟨here, others⟩ := List.forall_mem_cons.mp follows
    exact ih others (changed.framed ((Sql.within_of_follows here same).of_leads leads) framed)

/-- **A creation on one connection never touches another.** It runs with its own components over a database of four
tables, whose contents may be any, and any operation on the database may fail. The creation enqueues under the scope of
its connection, reads and writes under its identifier, whatever connection a request names, and replaces the
configuration of the one job that the queue has just numbered. Jobs of other scopes, and generations, states and requests
of other connections, are the same after it as before. -/
theorem sameElsewhere_of_runs {creation : CreationCall} {outcome : Except Failure (Option Int)} {tables : Tables}
    (runs : Runs (creation.attempt Program.surroundings.collaborators) steps outcome)
    (stored : Stored ⟨tables, tables⟩ steps after) :
    StaysWith creation.connection.connectionId steps ∧
      tables.SameElsewhere creation.connection.connectionId after.committed := by
  have reaches := reaches_of_runs runs
  refine ⟨reaches.staysWith, ?_⟩
  obtain questions | ⟨opening, config, answer, rest, questions, follows, rfl⟩ := reaches.split
  · rw [stored.of_questions questions]
    exact .refl _ _
  obtain ⟨middle, first, second⟩ := stored.of_append
  obtain rfl := first.of_questions questions
  cases second with
  | outside outside _ => exact nomatch outside
  | inside same leads changed others =>
    cases same
    -- Before the queue answers, the connection has no job that it could change.
    have none : Contents.Framed creation.connection.connectionId (fun _ => False) tables ⟨tables, tables⟩ :=
      ⟨.refl _ _, .refl _ _, fun _ _ none => none.elim, fun _ _ none => none.elim⟩
    have framed := changed.framed ((Sql.within_enqueue config).of_leads leads) none
    obtain ⟨owned, ownedWorking⟩ := Sql.owned_of_enqueue leads changed
    exact (others.framed follows ⟨framed.committed, framed.working, owned, ownedWorking⟩).committed

end Frame

/-! ## A request of another connection -/

namespace StrayRequest

open Sql

/-- Another connection. -/
def other : Uuid := .ofNat 1

/-- A request that names it. -/
def request : RefreshRequest := ⟨other, "users", none⟩

/-- The configuration of a refresh for this request, made for a connection that it does not name. -/
def config : RefreshConfig := Services.refreshConfig default [request] MistypedSwitch.bundle

/-- The other connection has an active job, a generation, a saved state and a request; the connection has a request. -/
def tables : Tables where
  jobs := [⟨1, .sync, other.text, "pending", "{}"⟩]
  generations := [⟨other, request.stream, 4, 1⟩]
  states := Function.update (fun _ => none) other (some "{}")
  requests := [request, ⟨default, "users", none⟩]

/-- The steps of the refresh. -/
def steps : List Step :=
  .called (activationCall default) (.ok true) :: MistypedSwitch.resolving ++
    Services.enqueueing default (.refresh config) (some 7) ++
    [.called (.currentGenerations default) (.ok []),
      .called (.insertGenerations default 7 [(request.stream, 1)]) (.ok ()),
      .called (.currentGenerations default) (.ok []),
      .called (.updateConfig 7 (.refresh config)) (.ok ()),
      .called (.readState default) (.ok none),
      .called (.deleteRequest default "users" none) (.ok ())]

theorem runs_steps :
    Runs ((CreationCall.refresh default [request]).attempt Program.surroundings.collaborators) steps (.ok (some 7)) := by
  change Program.Leads _ _ _
  exact .call (.call (.call (.call (.call (.call (.call (.call (.call (.call (.call (.call (.call (.call
    (.call (.report (.call (.call (.call (.call (.call (.call (.here _))))))))))))))))))))))

/-- What a statement exchanges with the database when nothing fails, in a session of some kind. -/
def session (kind : SessionKind) (ending : SessionEnd) (statement : Statement) (table : Table) : List Exchange :=
  [⟨.start kind, .ok ()⟩, ⟨.execute statement, .ok table⟩, ⟨.finish ending, .ok ()⟩]

/-- A transaction of one statement that does something to the tables. -/
theorem changed_writing {before after : Tables} {statement : Statement} {table : Table}
    (executes : before.Executes statement table after) :
    Changed ⟨before, before⟩ (session .writing .commit statement table) ⟨after, after⟩ :=
  .cons .started (.cons (.executed executes) (.cons .committed (.nil _)))

/-- A session that reads. -/
theorem changed_reading (tables : Tables) {statement : Statement} (reads : statement.writes = false) (table : Table) :
    Changed ⟨tables, tables⟩ (session .reading .close statement table) ⟨tables, tables⟩ :=
  .cons .started (.cons (.executed (.read reads)) (.cons (.dropped nofun) (.nil _)))

/-- A transaction of one statement answers what is made of its table. -/
theorem leads_writing {α : Type} {message : String} {statement : Statement} {table : Table} {a : α}
    {next : Table → Dialogue (Except Failure α)} (answers : next table = .done (.ok a)) :
    (transaction message (.executing statement next)).Leads (session .writing .commit statement table) (.done (.ok a)) := by
  refine .ask (.ask ?_)
  show ((next table).andThen (conclude message)).Leads _ _
  rw [answers]
  exact .ask (.here _)

theorem leads_discard {message : String} {statement : Statement} {table : Table} :
    (transaction message (discard (Dialogue.engine.execute statement)).run).Leads
      (session .writing .commit statement table) (.done (.ok ())) := by
  rw [run_discard]
  exact leads_writing rfl

theorem leads_reading {α : Type} {message : String} {statement : Statement} {table : Table}
    {g : Table → Except Failure α} :
    (readingTable message statement g).Leads (session .reading .close statement table) (.done (g table)) :=
  .ask (.ask (.ask (.here _)))

/-- The text of the configuration. -/
theorem text_config : (JobConfig.refresh config).text? = some (JobConfig.refresh config).toJson.write := by
  unfold JobConfig.text?
  exact if_pos (by decide)

/-- The exchanges in which the job is enqueued under the number seven. -/
def enqueuing (keys : Int × Int) (text : String) : List Exchange :=
  [⟨.start .writing, .ok ()⟩, ⟨.execute (.tryLock keys.1 keys.2), .ok (lockTable true)⟩,
    ⟨.execute (.insertJob .refresh (default : Uuid).text text), .ok (idTable (some 7))⟩, ⟨.finish .commit, .ok ()⟩]

theorem leads_enqueuing :
    (StoreCall.enqueue (default : Uuid).text (.refresh config)).dialogue.Leads
      (enqueuing (lockKeys (default : Uuid).text) (JobConfig.refresh config).toJson.write) (.done (.ok (some 7))) := by
  have dialogue := dialogue_enqueue (default : Uuid).text (.refresh config)
  rw [Uuid.trim_text, if_neg (by decide), enqueueDialogue, insertDialogue, text_config] at dialogue
  change (QueueCall.enqueue (default : Uuid).text (.refresh config)).dialogue.Leads _ _
  rw [dialogue]
  generalize lockKeys (default : Uuid).text = keys
  generalize (JobConfig.refresh config).toJson.write = text
  exact .ask (.ask (.ask (.ask (.here _))))

/-- The tables with the job. -/
def enqueued (text : String) : Tables :=
  { tables with jobs := tables.jobs ++ [⟨7, .refresh, (default : Uuid).text, "pending", text⟩] }

theorem changed_enqueuing (keys : Int × Int) (text : String) :
    Changed ⟨tables, tables⟩ (enqueuing keys text) ⟨enqueued text, enqueued text⟩ := by
  have inserted : tables.Executes (.insertJob .refresh (default : Uuid).text text) (idTable (some 7)) (enqueued text) :=
    .inserted (List.forall_mem_singleton.mpr (by decide)) (List.forall_mem_singleton.mpr (by decide))
  exact .cons .started (.cons (.executed .locked) (.cons (.executed inserted) (.cons .committed (.nil _))))

/-- The tables after the refresh: its generation is recorded, and the request of the connection is gone. -/
def refreshed (text : String) : Tables where
  jobs := Write.apply (enqueued text).jobs (.setConfig 7 text)
  generations := tables.generations ++ [⟨default, request.stream, 1, 7⟩]
  states := tables.states
  requests := tables.requests.filter fun row => !(row.connectionId = default ∧ row.stream = ⟨"users", none⟩)

/-- **The database takes the steps.** -/
theorem stored_steps : ∃ text, Stored ⟨tables, tables⟩ steps ⟨refreshed text, refreshed text⟩ := by
  have current : (StoreCall.currentGenerations default).dialogue.Leads
      (session .reading .close (.latestGenerations default) ⟨[], []⟩) (.done (.ok [])) := by
    rw [dialogue_currentGenerations]
    exact leads_reading
  have insert : (StoreCall.insertGenerations default 7 [(request.stream, 1)]).dialogue.Leads
      (session .writing .commit (.insertGenerations [⟨default, request.stream, 1, 7⟩]) ⟨[], []⟩) (.done (.ok ())) := by
    rw [dialogue_insertGenerations]
    exact leads_discard
  have update : (StoreCall.updateConfig 7 (.refresh config)).dialogue.Leads
      (session .writing .commit (.updateConfig (JobConfig.refresh config).toJson.write 7) (idTable (some 7)))
      (.done (.ok ())) := by
    change Dialogue.Leads ((jobQueue Dialogue.engine).updateConfig 7 (.refresh config)).run _ _
    rw [run_updateConfig, updateDialogue, text_config]
    exact leads_writing rfl
  have read : (StoreCall.getState default).dialogue.Leads (session .reading .close (.selectState default) ⟨[], []⟩)
      (.done (.ok none)) := by
    rw [dialogue_getState]
    exact leads_reading
  have delete : (StoreCall.deleteRequest default "users" none).dialogue.Leads
      (session .writing .commit (.deleteRequest default ⟨"users", none⟩) ⟨[], []⟩) (.done (.ok ())) := by
    change Dialogue.Leads (deleteRequest Dialogue.engine default "users" none).run _ _
    rw [deleteRequest, storing_transact]
    exact leads_discard
  have enqueue := leads_enqueuing
  refine ⟨(JobConfig.refresh config).toJson.write, ?_⟩
  generalize (JobConfig.refresh config).toJson.write = text at *
  unfold steps MistypedSwitch.resolving
  refine .outside rfl (.outside rfl (.outside rfl (.outside rfl (.outside rfl (.outside rfl (.outside rfl (.outside rfl
    (.outside rfl (.outside rfl (.outside rfl (.outside rfl (.outside rfl (.outside rfl ?_)))))))))))))
  refine .inside rfl enqueue (changed_enqueuing _ text) (.reported ?_)
  refine .inside rfl current (changed_reading _ rfl _) ?_
  refine .inside rfl insert (changed_writing .recorded) ?_
  refine .inside rfl current (changed_reading _ rfl _) ?_
  refine .inside rfl update (changed_writing .updated) ?_
  refine .inside rfl read (changed_reading _ rfl _) ?_
  exact .inside rfl delete (changed_writing .deleted) (.nil _)

/-- The other connection has after this refresh what it had before. -/
theorem sameElsewhere_steps :
    Runs ((CreationCall.refresh default [request]).attempt Program.surroundings.collaborators) steps (.ok (some 7)) ∧
      ∃ text, Stored ⟨tables, tables⟩ steps ⟨refreshed text, refreshed text⟩ ∧
        StaysWith default steps ∧ tables.SameElsewhere default (refreshed text) := by
  obtain ⟨text, stored⟩ := stored_steps
  exact ⟨runs_steps, text, stored, sameElsewhere_of_runs runs_steps stored⟩

end StrayRequest

end ConnectionJobs
