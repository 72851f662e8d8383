import ConnectionJobs.Ports
import ConnectionJobs.State.Strip

/-!
# Clearing the cursors of refreshed streams

After a refresh job has been made, the saved state of its connection is stripped of the refreshed streams and
written back. A legacy state cannot be stripped; it is left as it is, and that is reported.
-/

namespace ConnectionJobs

/-- The report about a legacy state that was left unchanged. -/
def legacyStateReport (connection : Uuid) : Log.Event where
  level := .warning
  source := "sync_jobs.jobs.state_refresh"
  message := "Legacy state of connection " ++ connection.text ++ " left unchanged for refresh"
  context := [("ctx_connection_id", .text connection.text)]
  problems := []
  failure := none

variable {n : Type → Type} [Monad n]

/-- **Clear the cursors** of the requested streams from a saved state, and write it back. -/
def clearCursors (log : Log.Sink n) (store : StateStore n) (connection : Uuid) (state : SavedState)
    (requests : List RefreshRequest) : Attempt n Unit :=
  match state.shape with
  | .legacy => ExceptT.lift (log (legacyStateReport connection))
  | .global | .stream => store.put connection (state.strip requests)

end ConnectionJobs
