import ConnectionJobs.Ports
import ConnectionJobs.Sql.Cell
import ConnectionJobs.Sql.Statement

/-!
# Sessions

Statements are executed inside a session. A *reading* session is closed when it is done with. A *writing*
session is a transaction: it is committed when everything in it has succeeded and rolled back when anything in
it has failed, whatever the failure. The faults of the engine, and only those, become persistence failures of
the store whose session it was.
-/

namespace ConnectionJobs.Sql

/-- The two kinds of session. -/
inductive SessionKind where
  /-- A session that reads. -/
  | reading
  /-- A transaction. -/
  | writing
  deriving DecidableEq, Repr, Inhabited

/-- The ways a session ends. -/
inductive SessionEnd where
  /-- A reading session is closed. -/
  | close
  /-- A transaction is committed. -/
  | commit
  /-- A transaction is rolled back. -/
  | rollback
  deriving DecidableEq, Repr, Inhabited

/-- **The database engine.** Each of its operations may fail, with a fault or in a way of its own. -/
structure Engine (n : Type → Type) where
  /-- Open a session. -/
  start : SessionKind → Attempt n Unit
  /-- Execute a statement in the open session. -/
  execute : Statement → Attempt n Table
  /-- End the open session. -/
  finish : SessionEnd → Attempt n Unit

variable {n : Type → Type} [Monad n] {α : Type}

/-- Run an attempt and take its outcome as a value. -/
def outcomeOf (attempt : Attempt n α) : Attempt n (Except Failure α) := ExceptT.lift attempt.run

/-- An outcome as an attempt. -/
def settleOutcome : Except Failure α → Attempt n α
  | .ok a => pure a
  | .error failure => throw failure

/-- **Execute in a reading session.** The session is closed whatever happens. -/
def Engine.read (engine : Engine n) (body : Attempt n α) : Attempt n α := do
  engine.start .reading
  let outcome ← outcomeOf body
  engine.finish .close
  settleOutcome outcome

/-- **Execute in a transaction.** It is committed when the body succeeds and rolled back when it fails. -/
def Engine.transact (engine : Engine n) (body : Attempt n α) : Attempt n α := do
  engine.start .writing
  match ← outcomeOf body with
  | .ok a =>
    engine.finish .commit
    return a
  | .error failure =>
    engine.finish .rollback
    throw failure

/-- **Turn faults into persistence failures** with a message; every other failure passes. -/
def storing (message : String) (body : Attempt n α) : Attempt n α :=
  tryCatch body fun failure =>
    match failure with
    | .fault fault => throw (.persistence message (some (.fault fault)))
    | other => throw other

/-- Take a typed value out of a cell. -/
def reading (value : Except CellProblem α) : Attempt n α := settleOutcome (value.mapError .cell)

/-- Take the only row of a table. -/
def onlyRow (table : Table) : Attempt n Row := settleOutcome (table.one.mapError .fault)

end ConnectionJobs.Sql
