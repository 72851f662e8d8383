import ConnectionJobs.Job.Config
import ConnectionJobs.Log.Event
import ConnectionJobs.Resource.Role
import ConnectionJobs.State.Basic

/-!
# What job creation asks of its surroundings

Creating a job needs answers from outside: flags, resource defaults, a queue, and stores for generations, saved
states and refresh requests. Each of these is a record of operations over an effect `n` that the surroundings
choose, and an operation may fail. Nothing is assumed about the effect, so what is shown of a creation holds
whatever the surroundings do.
-/

namespace ConnectionJobs

/-- **An attempt**: a computation in the effect `n` that may fail. -/
abbrev Attempt (n : Type → Type) := ExceptT Failure n

/-- **A log**: where events go. -/
abbrev Log.Sink (n : Type → Type) := Log.Event → n Unit

/-- **Where flags are evaluated.** -/
structure FlagSource (n : Type → Type) where
  /-- Evaluate a switch. -/
  switch : Flag Bool → Flag.Context → Attempt n Bool
  /-- Evaluate a text. -/
  text : Flag String → Flag.Context → Attempt n String

/-- **Where resource defaults are looked up.** -/
structure DefaultsSource (n : Type → Type) where
  /-- The default quantities of a role for a source type and a variant. -/
  lookup : Role → Option String → String → Attempt n Quantities

/-- **The queue of jobs.** -/
structure JobQueue (n : Type → Type) where
  /-- Put a job into the queue under a scope, unless a job of that scope is still active. -/
  enqueue : String → JobConfig → Attempt n (Option Int)
  /-- Replace the configuration of a job. -/
  updateConfig : Int → JobConfig → Attempt n Unit

/-- **The store of generations.** -/
structure GenerationStore (n : Type → Type) where
  /-- The current generation of every stream of a connection that has one. -/
  current : Uuid → Attempt n Generations
  /-- Record the generations a job starts. -/
  insert : Uuid → Int → List (StreamId × Int) → Attempt n Unit

/-- **The store of saved states.** -/
structure StateStore (n : Type → Type) where
  /-- The saved state of a connection. -/
  get : Uuid → Attempt n (Option SavedState)
  /-- Replace the saved state of a connection. -/
  put : Uuid → SavedState → Attempt n Unit

/-- **The store of refresh requests.** -/
structure RequestStore (n : Type → Type) where
  /-- Delete the request for a stream of a connection. -/
  delete : Uuid → String → Option String → Attempt n Unit

/-- Flags answered from a table. -/
def FlagTable.source {n : Type → Type} [Monad n] (table : FlagTable) : FlagSource n where
  switch flag context := ExceptT.mk (pure ((table.evaluateSwitch flag context).mapError .mistypedFlag))
  text flag context := ExceptT.mk (pure ((table.evaluateText flag context).mapError .mistypedFlag))

end ConnectionJobs
