import ConnectionJobs.Sql.Stores

/-!
# Calls on the queue as dialogues

A call on the queue is a conversation with the database: it asks for an operation, waits for what comes back, and
asks for the next one. Between any two operations of a call the database may answer other calls. To say what calls
do *whatever* the others do, a call is run over an engine that answers nothing by itself: it is then a
**dialogue**, a tree with one branch for every answer.

Putting a job into the queue is such a dialogue of three operations, `enqueueDialogue`: the lock of the trimmed
scope is tried, the job is inserted, and the transaction ends.
-/

namespace ConnectionJobs.Sql

/-- **An operation** of the database. -/
inductive Operation where
  /-- A session is opened. -/
  | start (kind : SessionKind)
  /-- A statement is executed in the open session. -/
  | execute (statement : Statement)
  /-- The open session is ended. -/
  | finish (ending : SessionEnd)

/-- What an operation answers when it does not fail. -/
@[reducible] def Operation.Answer : Operation → Type
  | start _ => Unit
  | execute _ => Table
  | finish _ => Unit

/-- **An exchange**: an operation, and what came of it. -/
structure Exchange where
  /-- The operation. -/
  operation : Operation
  /-- What came of it. -/
  outcome : Except Failure operation.Answer

/-- **A dialogue** with the database that ends in a value. -/
inductive Dialogue (α : Type) : Type where
  /-- The dialogue is over. -/
  | done (value : α)
  /-- Ask for an operation, and go on with what comes of it. -/
  | ask (operation : Operation) (next : Except Failure operation.Answer → Dialogue α)

namespace Dialogue

variable {α β : Type}

/-- One dialogue after another. -/
def andThen : Dialogue α → (α → Dialogue β) → Dialogue β
  | done value, next => next value
  | ask operation rest, next => .ask operation fun outcome => (rest outcome).andThen next

instance : Monad Dialogue where
  pure := done
  bind := andThen

/-- Ask for one operation. -/
def perform (operation : Operation) : Attempt Dialogue operation.Answer := ExceptT.mk (.ask operation .done)

/-- **The engine that answers nothing by itself.** -/
def engine : Engine Dialogue where
  start kind := perform (.start kind)
  execute statement := perform (.execute statement)
  finish ending := perform (.finish ending)

/-- **A dialogue leads along exchanges** to what is left of it then. -/
inductive Leads : Dialogue α → List Exchange → Dialogue α → Prop
  /-- Nothing has been asked yet. -/
  | here (dialogue : Dialogue α) : Leads dialogue [] dialogue
  /-- An operation has been asked for, and something came of it. -/
  | ask {operation : Operation} {next : Except Failure operation.Answer → Dialogue α}
      {outcome : Except Failure operation.Answer} {rest : Dialogue α} {exchanges : List Exchange} :
      Leads (next outcome) exchanges rest → Leads (.ask operation next) (⟨operation, outcome⟩ :: exchanges) rest

theorem Leads.append {p q r : Dialogue α} {s t : List Exchange} (hp : p.Leads s q) (hq : q.Leads t r) :
    p.Leads (s ++ t) r := by
  induction hp with
  | here _ => exact hq
  | ask _ ih => exact .ask (ih hq)

/-- A dialogue that is over leads nowhere. -/
theorem leads_done {value : α} {rest : Dialogue α} {exchanges : List Exchange} :
    (done value).Leads exchanges rest ↔ exchanges = [] ∧ rest = done value := by
  constructor
  · rintro ⟨⟩
    exact ⟨rfl, rfl⟩
  · rintro ⟨rfl, rfl⟩
    exact .here _

/-- Where a dialogue that asks for an operation leads. -/
theorem leads_ask {operation : Operation} {next : Except Failure operation.Answer → Dialogue α}
    {rest : Dialogue α} {exchanges : List Exchange} :
    (ask operation next).Leads exchanges rest ↔
      (exchanges = [] ∧ rest = ask operation next) ∨
        ∃ outcome more, exchanges = ⟨operation, outcome⟩ :: more ∧ (next outcome).Leads more rest := by
  constructor
  · rintro (_ | h)
    · exact .inl ⟨rfl, rfl⟩
    · exact .inr ⟨_, _, rfl, h⟩
  · rintro (⟨rfl, rfl⟩ | ⟨outcome, more, rfl, h⟩)
    · exact .here _
    · exact .ask h

/-- What is over has ended in its value. -/
theorem Leads.of_done {a value : α} {exchanges : List Exchange} (leads : (done a).Leads exchanges (.done value)) :
    exchanges = [] ∧ value = a :=
  (leads_done.mp leads).imp_right Dialogue.done.inj

/-- A dialogue that has ended has had an answer to what it asked for. -/
theorem Leads.of_ask {operation : Operation} {next : Except Failure operation.Answer → Dialogue α} {value : α}
    {exchanges : List Exchange} (leads : (Dialogue.ask operation next).Leads exchanges (.done value)) :
    ∃ outcome more, exchanges = ⟨operation, outcome⟩ :: more ∧ (next outcome).Leads more (.done value) :=
  (leads_ask.mp leads).resolve_left fun waits => nomatch waits.2

/-- A dialogue that ends after another one leads through the end of that. -/
theorem Leads.of_andThen {p : Dialogue α} {f : α → Dialogue β} {value : β} {exchanges : List Exchange}
    (leads : (p.andThen f).Leads exchanges (.done value)) :
    ∃ a s t, p.Leads s (.done a) ∧ (f a).Leads t (.done value) ∧ exchanges = s ++ t := by
  induction p generalizing exchanges with
  | done a => exact ⟨a, [], exchanges, .here _, leads, rfl⟩
  | ask operation next ih =>
    obtain ⟨outcome, more, rfl, rest⟩ := leads.of_ask
    obtain ⟨a, s, t, first, second, rfl⟩ := ih outcome rest
    exact ⟨a, _ :: s, t, .ask first, second, rfl⟩

end Dialogue

/-- **A call** on the queue. -/
inductive QueueCall where
  /-- Put a job into the queue. -/
  | enqueue (scope : String) (config : JobConfig)
  /-- Replace the configuration of a job. -/
  | updateConfig (job : Int) (config : JobConfig)

/-- **The dialogue of a call**, which ends in the number of the job it has made, if any, or in a failure. -/
def QueueCall.dialogue : QueueCall → Dialogue (Except Failure (Option Int))
  | enqueue scope config => ((jobQueue Dialogue.engine).enqueue scope config).run
  | updateConfig job config =>
    ((jobQueue Dialogue.engine).updateConfig job config).run.andThen fun outcome =>
      .done (outcome.map fun _ => none)

/-! ## The dialogues, operation by operation -/

/-- What becomes of a failure inside a transaction of the queue: a fault is a persistence failure. -/
def stored (message : String) : Failure → Failure
  | .fault fault => .persistence message (some (.fault fault))
  | other => other

section Trees

variable {α : Type} {message : String}

/-- **The end of a transaction**: it is committed when its body has succeeded, and rolled back when it has failed. -/
def conclude (message : String) : Except Failure α → Dialogue (Except Failure α)
  | .ok a => .ask (.finish .commit) fun
    | .ok () => .done (.ok a)
    | .error failure => .done (.error (stored message failure))
  | .error failure => .ask (.finish .rollback) fun
    | .ok () => .done (.error (stored message failure))
    | .error other => .done (.error (stored message other))

/-- **A transaction whose faults are persistence failures**: it is opened, its body follows, and it ends. -/
def transaction (message : String) (body : Dialogue (Except Failure α)) : Dialogue (Except Failure α) :=
  .ask (.start .writing) fun
    | .ok () => body.andThen (conclude message)
    | .error failure => .done (.error (stored message failure))

theorem andThen_assoc {β γ : Type} (p : Dialogue α) (f : α → Dialogue β) (g : β → Dialogue γ) :
    (p.andThen f).andThen g = p.andThen fun a => (f a).andThen g := by
  induction p with
  | done value => rfl
  | ask operation rest ih =>
    simp only [Dialogue.andThen]
    congr 1
    funext outcome
    exact ih outcome

/-- **A transaction of the queue**, as a dialogue. -/
theorem storing_transact (body : Attempt Dialogue α) :
    (storing message (Dialogue.engine.transact body)).run = transaction message body.run := by
  unfold transaction
  refine congrArg (Dialogue.ask (.start .writing)) ?_
  funext outcome
  cases outcome with
  | error failure => cases failure <;> rfl
  | ok opened =>
    refine (andThen_assoc _ _ _).trans ((andThen_assoc _ _ _).trans ?_)
    refine (andThen_assoc _ _ _).trans ?_
    refine congrArg body.run.andThen ?_
    funext result
    -- What is left is the end of the transaction, for each result of the body.
    cases result with
    | ok a =>
      refine congrArg (Dialogue.ask (.finish .commit)) ?_
      funext ended
      obtain failure | _ := ended
      · cases failure <;> rfl
      · rfl
    | error failure =>
      refine congrArg (Dialogue.ask (.finish .rollback)) ?_
      funext ended
      obtain other | _ := ended
      · cases other <;> rfl
      · cases failure <;> rfl

end Trees

/-- The answer of a statement that says whether a lock has been taken. -/
def lockTable (taken : Bool) : Table := ⟨["lock_acquired"], [[.value (.boolean taken)]]⟩

/-- The answer of a statement that says which row it has written, if any. -/
def idTable (id : Option Int) : Table := ⟨["id"], id.toList.map fun n => [.value (.integer n)]⟩

/-- What the lock statement says: whether the lock has been taken. -/
def lockOutcome (table : Table) : Except Failure Bool := do
  let row ← table.one.mapError .fault
  let cell ← (row.cell "lock_acquired").mapError .cell
  return cell.isTruthy

/-- What the insertion says: the number of the job, if one has been inserted. -/
def insertOutcome (table : Table) : Except Failure (Option Int) :=
  match table.first? with
  | none => .ok none
  | some row => do
    let cell ← (row.cell "id").mapError .cell
    some <$> cell.integer.mapError .cell

@[simp] theorem lockOutcome_lockTable (taken : Bool) : lockOutcome (lockTable taken) = .ok taken := by
  cases taken <;> rfl

@[simp] theorem insertOutcome_idTable (id : Option Int) : insertOutcome (idTable id) = .ok id := by
  cases id <;> rfl

/-- Execute a statement, and go on with its table; a failure ends the dialogue. -/
def Dialogue.executing {α : Type} (statement : Statement) (next : Table → Dialogue (Except Failure α)) :
    Dialogue (Except Failure α) :=
  .ask (.execute statement) fun
    | .ok table => next table
    | .error failure => .done (.error failure)

/-- The insertion of a job, as a dialogue. -/
def insertDialogue (scope : String) (config : JobConfig) : Dialogue (Except Failure (Option Int)) :=
  match config.text? with
  | none => .done (.error .documentTooDeep)
  | some text => .executing (.insertJob config.kind scope text) fun table => .done (insertOutcome table)

/-- Try a lock, and go on when it has been taken. -/
def lockDialogue (keys : Int × Int) (next : Dialogue (Except Failure (Option Int))) :
    Dialogue (Except Failure (Option Int)) :=
  .executing (.tryLock keys.1 keys.2) fun table =>
    match lockOutcome table with
    | .ok true => next
    | .ok false => .done (.ok none)
    | .error failure => .done (.error failure)

/-- **Taking a job into the queue**, as a dialogue: the lock is tried first, and then the job is inserted. -/
def enqueueDialogue (scope : String) (config : JobConfig) : Dialogue (Except Failure (Option Int)) :=
  lockDialogue (lockKeys scope) (insertDialogue scope config)

/-- One attempt after another: the second goes on when the first has succeeded. -/
theorem run_bind {α β : Type} (m : Attempt Dialogue α) (f : α → Attempt Dialogue β) :
    (m >>= f).run = m.run.andThen fun
      | .ok a => (f a).run
      | .error failure => .done (.error failure) := by
  refine congrArg m.run.andThen ?_
  funext outcome
  cases outcome <;> rfl

theorem run_execute_bind {α : Type} (statement : Statement) (f : Table → Attempt Dialogue α) :
    (Dialogue.engine.execute statement >>= f).run = .executing statement fun table => (f table).run := by
  refine congrArg (Dialogue.ask (.execute statement)) ?_
  funext answer
  cases answer <;> rfl

/-- **Outcomes that are known already** ask for nothing, one after another. -/
theorem run_settleOutcome_bind {α β : Type} (outcome : Except Failure α) {f : α → Attempt Dialogue β}
    {g : α → Except Failure β} (h : ∀ a, (f a).run = .done (g a)) :
    (settleOutcome outcome >>= f).run = .done (outcome >>= g) := by
  cases outcome with
  | error failure => rfl
  | ok a => exact h a

theorem run_takeLock (scope : String) :
    (takeLock Dialogue.engine scope).run =
      .executing (.tryLock (lockKeys scope).1 (lockKeys scope).2) fun table => .done (lockOutcome table) := by
  unfold takeLock
  generalize lockKeys scope = keys
  obtain ⟨key1, key2⟩ := keys
  refine (run_execute_bind _ _).trans (congrArg _ ?_)
  funext table
  exact run_settleOutcome_bind _ fun row => run_settleOutcome_bind _ fun cell => rfl

theorem run_insertJob (scope : String) (config : JobConfig) :
    (insertJob Dialogue.engine scope config).run = insertDialogue scope config := by
  unfold insertJob insertDialogue configText
  cases config.text? with
  | none => rfl
  | some text =>
    refine (run_execute_bind _ _).trans (congrArg _ ?_)
    funext table
    unfold insertOutcome
    cases table.first? with
    | none => rfl
    | some row =>
      refine run_settleOutcome_bind _ fun cell => ?_
      unfold reading
      generalize cell.integer.mapError Failure.cell = number
      cases number <;> rfl

/-- **Putting a job into the queue**, operation by operation. -/
theorem dialogue_enqueue (scope : String) (config : JobConfig) :
    (QueueCall.enqueue scope config).dialogue =
      if (Text.trim scope).isEmpty then .done (.error .blankScope)
      else transaction "failed to enqueue job" (enqueueDialogue (Text.trim scope) config) := by
  unfold QueueCall.dialogue jobQueue enqueue
  simp only
  generalize Text.trim scope = trimmed
  by_cases blank : trimmed.isEmpty = true
  · rw [if_pos blank, if_pos blank]
    rfl
  · rw [if_neg blank, if_neg blank]
    refine (storing_transact _).trans (congrArg _ ?_)
    rw [run_bind, run_takeLock]
    unfold enqueueDialogue lockDialogue
    refine congrArg (Dialogue.ask _) ?_
    funext answer
    obtain failure | table := answer
    · rfl
    · simp only [Dialogue.andThen]
      obtain failure | taken := lockOutcome table
      · rfl
      · cases taken with
        | false => rfl
        | true => exact run_insertJob trimmed config

/-- **Replacing a configuration**, as a dialogue. -/
def updateDialogue (job : Int) (config : JobConfig) : Dialogue (Except Failure Unit) :=
  match config.text? with
  | none => .done (.error .documentTooDeep)
  | some text => .executing (.updateConfig text job) fun table =>
    .done (if table.first?.isNone then .error (.jobNotFound job) else .ok ())

theorem run_updateConfig (job : Int) (config : JobConfig) :
    ((jobQueue Dialogue.engine).updateConfig job config).run =
      transaction "failed to update job config" (updateDialogue job config) := by
  unfold jobQueue updateConfig
  refine (storing_transact _).trans (congrArg _ ?_)
  unfold updateDialogue configText
  cases config.text? with
  | none => rfl
  | some text =>
    refine (run_execute_bind _ _).trans (congrArg _ ?_)
    funext table
    by_cases missing : table.first?.isNone = true
    · rw [if_pos missing, if_pos missing]
      rfl
    · rw [if_neg missing, if_neg missing]
      rfl

/-- **Replacing the configuration of a job**, operation by operation. -/
theorem dialogue_updateConfig (job : Int) (config : JobConfig) :
    (QueueCall.updateConfig job config).dialogue =
      (transaction "failed to update job config" (updateDialogue job config)).andThen fun outcome =>
        .done (outcome.map fun _ => none) :=
  congrArg (fun dialogue => Dialogue.andThen dialogue _) (run_updateConfig job config)

end ConnectionJobs.Sql
