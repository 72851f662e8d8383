import ConnectionJobs.Proofs.Queue.Dialogue

/-!
# What the stores of a cleanup answer

The cleanup of a refresh reads and writes a saved state and deletes requests, each a session of its own with the
database. Here the database holds anything at all as the state of a connection, and each of its operations can fail
with any fault of the engine. A call on a store is then a dialogue that *yields* one of a few outcomes: the fault as a
persistence failure of the store, or what the cell and the document ask for.

That is where the stores differ. Reading turns everything that can be wrong with a cell into a persistence failure, and
deleting has nothing else to fail with. Writing has: a document that nests too deeply is refused before any statement,
and that refusal is no fault, so it stays what it is.
-/

namespace ConnectionJobs.Sql

/-! ## The database -/

/-- The answer of the statement that reads a state: the cell of the row there is, if there is one. -/
def stateTable (content : Option Cell) : Table := ⟨["state"], content.toList.map fun cell => [cell]⟩

/-- **An exchange with a database that holds a state**: any operation may meet a fault, and a state that is read is
the one that is held. -/
inductive Exchange.Meets (content : Option Cell) : Exchange → Prop
  /-- The engine reports a fault. -/
  | faulted {operation : Operation} {fault : Fault} : Meets content ⟨operation, .error (.fault fault)⟩
  /-- A session is opened. -/
  | started {kind : SessionKind} : Meets content ⟨.start kind, .ok ()⟩
  /-- The state of a connection is read. -/
  | selected {connection : Uuid} : Meets content ⟨.execute (.selectState connection), .ok (stateTable content)⟩
  /-- Any other statement is executed. -/
  | executed {statement : Statement} {table : Table} (other : ∀ connection, statement ≠ .selectState connection) :
      Meets content ⟨.execute statement, .ok table⟩
  /-- A session is ended. -/
  | finished {ending : SessionEnd} : Meets content ⟨.finish ending, .ok ()⟩

/-- **A dialogue yields a value** when it can end in it, talking to such a database. -/
def Dialogue.Yields {α : Type} (content : Option Cell) (dialogue : Dialogue α) (value : α) : Prop :=
  ∃ exchanges, dialogue.Leads exchanges (.done value) ∧ ∀ exchange ∈ exchanges, exchange.Meets content

section Yields

open Dialogue (Yields)

variable {α β : Type} {content : Option Cell} {message : String}

theorem yields_done {value other : α} : Yields content (.done value) other ↔ other = value := by
  constructor
  · rintro ⟨exchanges, leads, -⟩
    exact (Dialogue.done.inj (Dialogue.leads_done.mp leads).2)
  · rintro rfl
    exact ⟨[], .here _, fun _ h => absurd h List.not_mem_nil⟩

theorem yields_ask {operation : Operation} {next : Except Failure operation.Answer → Dialogue α} {value : α} :
    Yields content (.ask operation next) value ↔
      ∃ outcome, Exchange.Meets content ⟨operation, outcome⟩ ∧ Yields content (next outcome) value := by
  constructor
  · rintro ⟨exchanges, leads, meets⟩
    obtain ⟨-, waits⟩ | ⟨outcome, more, rfl, rest⟩ := Dialogue.leads_ask.mp leads
    · exact nomatch waits
    · obtain ⟨first, others⟩ := List.forall_mem_cons.mp meets
      exact ⟨outcome, first, more, rest, others⟩
  · rintro ⟨outcome, first, exchanges, leads, meets⟩
    exact ⟨_, .ask leads, List.forall_mem_cons.mpr ⟨first, meets⟩⟩

/-- **One dialogue after another** yields what the second yields from a value of the first. -/
theorem yields_andThen {p : Dialogue α} {f : α → Dialogue β} {value : β} :
    Yields content (p.andThen f) value ↔ ∃ a, Yields content p a ∧ Yields content (f a) value := by
  induction p with
  | done a => exact ⟨fun h => ⟨a, yields_done.mpr rfl, h⟩, fun ⟨_, first, h⟩ => yields_done.mp first ▸ h⟩
  | ask operation next ih =>
    rw [Dialogue.andThen, yields_ask]
    constructor
    · rintro ⟨outcome, meets, rest⟩
      obtain ⟨a, first, second⟩ := (ih outcome).mp rest
      exact ⟨a, yields_ask.mpr ⟨outcome, meets, first⟩, second⟩
    · rintro ⟨a, first, second⟩
      obtain ⟨outcome, meets, rest⟩ := yields_ask.mp first
      exact ⟨outcome, meets, (ih outcome).mpr ⟨a, rest, second⟩⟩

/-- A statement meets a fault, or has an answer to go on with. -/
theorem yields_executing {statement : Statement} {next : Table → Dialogue (Except Failure α)}
    {outcome : Except Failure α} :
    Yields content (.executing statement next) outcome ↔ (∃ fault, outcome = .error (.fault fault)) ∨
      ∃ table, Exchange.Meets content ⟨.execute statement, .ok table⟩ ∧ Yields content (next table) outcome := by
  refine yields_ask.trans ⟨?_, ?_⟩
  · rintro ⟨failure | table, meets, rest⟩
    · cases meets
      exact .inl ⟨_, yields_done.mp rest⟩
    · exact .inr ⟨table, meets, rest⟩
  · rintro (⟨fault, rfl⟩ | ⟨table, meets, rest⟩)
    · exact ⟨_, .faulted, yields_done.mpr rfl⟩
    · exact ⟨.ok table, meets, rest⟩

/-! ## Sessions -/

/-- **The failure of a store** that has met a fault. -/
def lost (message : String) (fault : Fault) : Failure := .persistence message (some (.fault fault))

/-- **What a session comes to**, given what its body does: a fault can take its place, and its own faults are failures
of the store. -/
def Concludes (message : String) (result outcome : Except Failure α) : Prop :=
  (∃ fault, outcome = .error (lost message fault)) ∨ outcome = result.mapError (stored message)

/-- The end of a session, whatever it is and whatever the session comes to. -/
theorem yields_finish {ending : SessionEnd} {next : Except Failure Unit → Dialogue (Except Failure α)}
    {result outcome : Except Failure α} (ended : next (.ok ()) = .done (result.mapError (stored message)))
    (failed : ∀ failure, next (.error failure) = .done (.error (stored message failure))) :
    Yields content (.ask (.finish ending) next) outcome ↔ Concludes message result outcome := by
  refine yields_ask.trans ⟨?_, ?_⟩
  · rintro ⟨answer, meets, rest⟩
    cases meets with
    | faulted =>
      rw [failed, yields_done] at rest
      exact .inl ⟨_, rest⟩
    | finished =>
      rw [ended, yields_done] at rest
      exact .inr rest
  · rintro (⟨fault, rfl⟩ | rfl)
    · exact ⟨.error (.fault fault), .faulted, by rw [failed]; exact yields_done.mpr rfl⟩
    · exact ⟨.ok (), .finished, by rw [ended]; exact yields_done.mpr rfl⟩

/-- **A body settles on a result**: that is what it yields, unless it meets a fault. -/
structure Settles (content : Option Cell) (body : Dialogue (Except Failure α)) (result : Except Failure α) : Prop where
  /-- It can yield the result. -/
  yields : Yields content body result
  /-- It yields nothing else but faults. -/
  only : ∀ other, Yields content body other → (∃ fault, other = .error (.fault fault)) ∨ other = result

/-- **A session** is opened, has a body that settles on a result, and ends. -/
theorem yields_session {kind : SessionKind} {next : Except Failure Unit → Dialogue (Except Failure α)}
    {body : Dialogue (Except Failure α)} {ending : Except Failure α → Dialogue (Except Failure α)}
    {result outcome : Except Failure α} (settles : Settles content body result)
    (opened : next (.ok ()) = body.andThen ending)
    (failed : ∀ failure, next (.error failure) = .done (.error (stored message failure)))
    (ends : ∀ result, Yields content (ending result) outcome ↔ Concludes message result outcome) :
    Yields content (.ask (.start kind) next) outcome ↔ Concludes message result outcome := by
  refine yields_ask.trans ⟨?_, fun concludes => ?_⟩
  · rintro ⟨answer, meets, rest⟩
    cases meets with
    | faulted =>
      rw [failed, yields_done] at rest
      exact .inl ⟨_, rest⟩
    | started =>
      rw [opened, yields_andThen] at rest
      obtain ⟨other, first, last⟩ := rest
      obtain ⟨fault, rfl⟩ | rfl := settles.only other first
      · obtain concluded | same := (ends _).mp last
        · exact .inl concluded
        · exact .inl ⟨fault, same⟩
      · exact (ends _).mp last
  · refine ⟨.ok (), .started, ?_⟩
    rw [opened, yields_andThen]
    exact ⟨result, settles.yields, (ends result).mpr concludes⟩

/-- **What a transaction yields.** -/
theorem yields_transaction {body : Dialogue (Except Failure α)} {result outcome : Except Failure α}
    (settles : Settles content body result) :
    Yields content (transaction message body) outcome ↔ Concludes message result outcome := by
  refine yields_session settles rfl (fun _ => rfl) fun result => ?_
  cases result with
  | ok a => exact yields_finish rfl fun _ => rfl
  | error failure => exact yields_finish rfl fun _ => rfl

/-- **A reading session whose faults are persistence failures**: it is closed whatever its body does. -/
def readingSession (message : String) (body : Dialogue (Except Failure α)) : Dialogue (Except Failure α) :=
  .ask (.start .reading) fun
    | .ok () => body.andThen fun result => .ask (.finish .close) fun
      | .ok () => .done (result.mapError (stored message))
      | .error failure => .done (.error (stored message failure))
    | .error failure => .done (.error (stored message failure))

/-- **A reading session of a store**, as a dialogue. -/
theorem storing_read (body : Attempt Dialogue α) :
    (storing message (Dialogue.engine.read body)).run = readingSession message body.run := by
  refine congrArg (Dialogue.ask (.start .reading)) ?_
  funext opened
  cases opened with
  | error failure => cases failure <;> rfl
  | ok _ =>
    refine (andThen_assoc _ _ _).trans ((andThen_assoc _ _ _).trans ?_)
    refine (andThen_assoc _ _ _).trans ?_
    refine congrArg body.run.andThen ?_
    funext result
    refine congrArg (Dialogue.ask (.finish .close)) ?_
    funext closed
    obtain failure | _ := closed
    · cases failure <;> rfl
    · obtain failure | a := result
      · cases failure <;> rfl
      · rfl

/-- **What a reading session yields.** -/
theorem yields_readingSession {body : Dialogue (Except Failure α)} {result outcome : Except Failure α}
    (settles : Settles content body result) :
    Yields content (readingSession message body) outcome ↔ Concludes message result outcome :=
  yields_session settles rfl (fun _ => rfl) fun _ => yields_finish rfl fun _ => rfl

/-- A body that asks for nothing settles on its result. -/
theorem settles_done (result : Except Failure α) : Settles content (.done result) result :=
  ⟨yields_done.mpr rfl, fun _ h => .inr (yields_done.mp h)⟩

/-- A statement settles on what is made of its only answer. -/
theorem settles_executing {statement : Statement} {next : Table → Dialogue (Except Failure α)}
    {result : Except Failure α} {table : Table} (answer : Exchange.Meets content ⟨.execute statement, .ok table⟩)
    (next_done : ∀ table, Exchange.Meets content ⟨.execute statement, .ok table⟩ → next table = .done result) :
    Settles content (.executing statement next) result where
  yields := yields_executing.mpr (.inr ⟨table, answer, by rw [next_done table answer]; exact yields_done.mpr rfl⟩)
  only other h := by
    refine (yields_executing.mp h).imp_right ?_
    rintro ⟨table, meets, rest⟩
    rw [next_done table meets, yields_done] at rest
    exact rest

end Yields

/-! ## The stores -/

section Stores

open Dialogue (Yields)

variable {content : Option Cell} {connection : Uuid}

/-- The statement that reads a state settles on the row there is. -/
theorem settles_selectState :
    Settles content (Dialogue.engine.execute (.selectState connection)).run (.ok (stateTable content)) := by
  have run : (Dialogue.engine.execute (.selectState connection)).run =
      .executing (.selectState connection) fun table => .done (.ok table) := by
    refine congrArg (Dialogue.ask (.execute (.selectState connection))) ?_
    funext answer
    cases answer <;> rfl
  rw [run]
  refine settles_executing .selected fun table meets => ?_
  cases meets with
  | selected => rfl
  | executed other => exact absurd rfl (other connection)

/-- A statement whose answer does not matter. -/
theorem run_discard (statement : Statement) :
    (discard (Dialogue.engine.execute statement)).run = .executing statement fun _ => .done (.ok ()) := by
  refine congrArg (Dialogue.ask (.execute statement)) ?_
  funext answer
  cases answer <;> rfl

theorem settles_discard {statement : Statement} (other : ∀ connection, statement ≠ .selectState connection) :
    Settles content (discard (Dialogue.engine.execute statement)).run (.ok ()) := by
  rw [run_discard]
  have answer : Exchange.Meets content ⟨.execute statement, .ok (default : Table)⟩ := .executed other
  exact settles_executing answer fun _ _ => rfl

section SavedStates

variable [Json.Release]

/-- **The state in what is held**: none in no cell and in an empty one, and else what the cell is checked to be. -/
def stateIn : Option Cell → Except Failure (Option SavedState)
  | none => .ok none
  | some cell =>
    if cell.isNull then .ok none
    else
      match checkState cell with
      | .valid state => .ok (some state)
      | .invalid problems => .error (.persistence "stored connection state is invalid" (some (.invalid problems)))

/-- A state that is held is what its cell is checked to be. -/
theorem checkState_of_stateIn {cell : Cell} {state : SavedState} (h : stateIn (some cell) = .ok (some state)) :
    checkState cell = .valid state := by
  rw [stateIn] at h
  split at h
  · exact nomatch h
  · split at h
    · rename_i checked
      cases h
      exact checked
    · exact nomatch h

/-- What is made of the cell there is. -/
theorem run_stateOfCell (cell : Cell) :
    (if cell.isNull then pure none else some <$> stateOfCell cell : Attempt Dialogue (Option SavedState)).run =
      .done (stateIn (some cell)) := by
  rw [stateIn, stateOfCell]
  split
  · rfl
  · cases checkState cell <;> rfl

/-- What is made of the row there is. -/
theorem run_stateOfTable :
    (match (stateTable content).first? with
      | none => pure none
      | some row => do
        let cell ← reading (row.cell "state")
        if cell.isNull then return none
        some <$> stateOfCell cell : Attempt Dialogue (Option SavedState)).run = .done (stateIn content) := by
  cases content with
  | none => rfl
  | some cell => exact run_stateOfCell cell

/-- **Reading a state** fails persistently, or answers the state that is held. -/
theorem yields_getState {outcome : Except Failure (Option SavedState)} :
    Yields content ((stateStore Dialogue.engine).get connection).run outcome ↔
      (∃ fault, outcome = .error (lost "failed to read connection state" fault)) ∨ outcome = stateIn content := by
  show Yields content (getState Dialogue.engine connection).run outcome ↔ _
  unfold getState
  rw [run_bind, storing_read, yields_andThen]
  constructor
  · rintro ⟨read, first, second⟩
    obtain ⟨fault, rfl⟩ | rfl := (yields_readingSession settles_selectState).mp first
    · exact .inl ⟨fault, yields_done.mp second⟩
    · have settled : Yields content (.done (stateIn content)) outcome := by
        rw [← run_stateOfTable]
        exact second
      exact .inr (yields_done.mp settled)
  · rintro (⟨fault, rfl⟩ | rfl)
    · exact ⟨_, (yields_readingSession settles_selectState).mpr (.inl ⟨fault, rfl⟩), yields_done.mpr rfl⟩
    · refine ⟨_, (yields_readingSession settles_selectState).mpr (.inr rfl), ?_⟩
      have settled : Yields content (.done (stateIn content)) (stateIn content) := yields_done.mpr rfl
      rw [← run_stateOfTable] at settled
      exact settled

/-- **Writing a state** fails persistently, or does what the state allows: one that nests too deeply is refused. -/
theorem yields_putState {state : SavedState} {outcome : Except Failure Unit} :
    Yields content ((stateStore Dialogue.engine).put connection state).run outcome ↔
      (∃ fault, outcome = .error (lost "failed to write connection state" fault)) ∨
        outcome = if state.isWritable then .ok () else .error .documentTooDeep := by
  show Yields content (putState Dialogue.engine connection state).run outcome ↔ _
  unfold putState SavedState.text?
  rw [storing_transact]
  by_cases writable : state.isWritable = true
  · rw [if_pos writable, if_pos writable]
    exact yields_transaction (settles_discard (by simp))
  · rw [if_neg writable, if_neg writable]
    exact yields_transaction (settles_done (.error .documentTooDeep))

end SavedStates

/-- **Deleting a request** fails persistently, or succeeds. -/
theorem yields_deleteRequest {name : String} {space : Option String} {outcome : Except Failure Unit} :
    Yields content ((requestStore Dialogue.engine).delete connection name space).run outcome ↔
      (∃ fault, outcome = .error (lost "failed to delete stream refresh" fault)) ∨ outcome = .ok () := by
  show Yields content (deleteRequest Dialogue.engine connection name space).run outcome ↔ _
  unfold deleteRequest
  rw [storing_transact]
  exact yields_transaction (settles_discard (by simp))

end Stores

end ConnectionJobs.Sql
