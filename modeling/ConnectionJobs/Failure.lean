import ConnectionJobs.Flag.Table
import ConnectionJobs.Validation.Problem
import ConnectionJobs.Uuid

/-!
# How job creation fails

Creating a job touches flags, a defaults catalog, a queue and several stores, and each can fail in its own way.
One distinction matters to the flow of a creation: a **persistence failure** says that a store could not be
read or written, and some steps may go on after one; every other failure ends the creation at once.

Below the stores is the database engine. What the engine reports is a **fault**; a store turns the faults of
its own statements into persistence failures and lets everything else through.
-/

namespace ConnectionJobs

/-- **What the database engine reports.** -/
inductive Fault where
  /-- An error of the engine, by name. -/
  | engine (name : String)
  /-- A statement that has to give one row gave none. -/
  | noRow
  /-- A statement that has to give one row gave several. -/
  | severalRows
  deriving DecidableEq, Repr, Inhabited

/-- The fault of an engine that cannot open or commit a session. -/
def Fault.operational : Fault := .engine "OperationalError"

/-- The name of a fault. -/
def Fault.name : Fault → String
  | engine name => name
  | noRow => "NoResultFound"
  | severalRows => "MultipleResultsFound"

/-- **Why a value in a row could not be taken for what it should be.** -/
inductive CellProblem where
  /-- The row has no such column. -/
  | noColumn (name : String)
  /-- The row ends before the column. -/
  | shortRow
  /-- A text does not denote an integer. -/
  | notInteger (reason : Text.NotInteger)
  /-- A value of this kind is never an integer. -/
  | neverInteger (kind : String)
  /-- A NaN is no integer. -/
  | nanInteger
  /-- An infinity is no integer. -/
  | infiniteInteger
  /-- A text is no identifier. -/
  | notIdentifier (reason : Uuid.Unreadable)
  /-- A value of this kind cannot name a stream. -/
  | unhashable (kind : String)
  deriving DecidableEq, Repr

/-- The message about an unusable cell. -/
def CellProblem.message : CellProblem → String
  | noColumn name => Text.quoted name
  | shortRow => "tuple index out of range"
  | notInteger reason => reason.message
  | neverInteger kind =>
    "int() argument must be a string, a bytes-like object or a real number, not '" ++ kind ++ "'"
  | nanInteger => "cannot convert float NaN to integer"
  | infiniteInteger => "cannot convert float infinity to integer"
  | notIdentifier .malformed => "badly formed hexadecimal UUID string"
  | notIdentifier (.notHexadecimal reason) => reason.message
  | notIdentifier .outOfRange => "int is out of range (need a 128-bit value)"
  | unhashable kind => "unhashable type: '" ++ kind ++ "'"

/-- **Why a store operation failed.** -/
inductive Cause where
  /-- The engine reported a fault. -/
  | fault (fault : Fault)
  /-- A stored document does not have the expected shape. -/
  | invalid (problems : List Problem)
  deriving DecidableEq, Repr

/-- **A failure** of job creation or of one of its stores. -/
inductive Failure where
  /-- A store could not be read or written. -/
  | persistence (message : String) (cause : Option Cause)
  /-- The engine reported a fault that no store has turned into a failure of its own. -/
  | fault (fault : Fault)
  /-- There is no such job. -/
  | jobNotFound (job : Int)
  /-- A flag is configured with a value of the wrong type. -/
  | mistypedFlag (mistyped : Flag.Mistyped)
  /-- Refreshes are not enabled for the connection. -/
  | refreshNotEligible (connection : Uuid)
  /-- The scope of a job is blank. -/
  | blankScope
  /-- A document nests too deeply to be written. -/
  | documentTooDeep
  /-- A row holds an unusable value. -/
  | cell (problem : CellProblem)
  /-- A failure of a collaborator outside this library: its kind and its message. -/
  | foreign (kind message : String)
  deriving DecidableEq, Repr

namespace Failure

/-- **The message** of a failure. -/
def message : Failure → String
  | persistence message _ => message
  | fault reported => reported.name
  | jobNotFound job => "job not found: " ++ toString job
  | mistypedFlag mistyped => mistyped.message
  | refreshNotEligible _ => "Trying to create a refresh job for a connection which doesn't support refreshes"
  | blankScope => "scope must not be blank"
  | documentTooDeep => "the document nests too deeply"
  | cell problem => problem.message
  | foreign _ message => message

/-- **A persistence failure**, which the best-effort steps of a creation survive. -/
def isPersistence : Failure → Bool
  | persistence _ _ => true
  | _ => false

end Failure

end ConnectionJobs
