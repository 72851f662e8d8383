import ConnectionJobs.State.Basic

/-!
# Stripping refreshed streams from a state

A refreshed stream is read again from the start, so its saved cursor has to go. Stripping removes the cursors
of the requested streams from the payload that the state's shape selects and leaves everything else. A shared
part makes sense only together with cursors, so it goes when the last cursor goes. Legacy states are opaque and
stay as they are.
-/

namespace ConnectionJobs

/-- The cursors of the streams that no request names. -/
def retainedStreams (requests : List RefreshRequest) (streams : List StreamState) : List StreamState :=
  streams.filter fun s => !(s.stream ∈ requests.map RefreshRequest.stream)

/-- **Strip a global state.** -/
def GlobalState.strip (requests : List RefreshRequest) (g : GlobalState) : GlobalState :=
  let retained := retainedStreams requests g.streams
  ⟨if retained.isEmpty then none else g.shared, retained⟩

/-- **Strip a saved state** of the cursors of the requested streams. -/
def SavedState.strip (requests : List RefreshRequest) (s : SavedState) : SavedState :=
  match s.shape with
  | .legacy => s
  | .global => { s with global := s.global.map (GlobalState.strip requests) }
  | .stream => { s with streams := retainedStreams requests s.streams }

end ConnectionJobs
