import ConnectionJobs.Failure
import ConnectionJobs.Json.Basic

/-!
# Log events

Job creation reports what it does as log events: a level, the part of the library that speaks, a message, and
context that a log processor can select by. An event about a failure carries the failure.
-/

namespace ConnectionJobs.Log

/-- The levels at which this library reports. -/
inductive Level where
  /-- Ordinary progress. -/
  | info
  /-- Something was skipped that an operator should know of. -/
  | warning
  /-- Something was left unfinished. -/
  | error
  deriving DecidableEq, Repr, Inhabited

/-- The number of a level: higher is more severe. -/
def Level.number : Level → Int
  | info => 20
  | warning => 30
  | error => 40

/-- The name of a level. -/
def Level.name : Level → String
  | info => "INFO"
  | warning => "WARNING"
  | error => "ERROR"

/-- **A log event.** -/
structure Event where
  /-- How severe it is. -/
  level : Level
  /-- The logger that reports it. -/
  source : String
  /-- What happened, in the words of the library. -/
  message : String
  /-- Context to select by, under keys that start with `ctx_`. -/
  context : Members
  /-- The problems of a document the event is about. Their description, which is not in the words of the library, ends
  the message when there are any. -/
  problems : List Problem
  /-- The failure the event is about. -/
  failure : Option Failure

end ConnectionJobs.Log
