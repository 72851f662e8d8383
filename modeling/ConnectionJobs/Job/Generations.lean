import ConnectionJobs.Ports

/-!
# Generations

The data a stream holds in its destination belongs to a **generation**, and a refresh starts a new one. The
generation of each stream of a connection is recorded in a store. A refresh *bumps* the generations of the
streams it names; a job *stamps* its catalog with the generations recorded when it is made.
-/

namespace ConnectionJobs

/-- The streams that requests name, each once, in the order in which they are first named. -/
def requestedStreams (requests : List RefreshRequest) : List StreamId :=
  (requests.map RefreshRequest.stream).foldl (fun seen s => if s ∈ seen then seen else seen ++ [s]) []

/-- **The generations a refresh starts**: one more than the current one, for every stream requested. -/
def nextGenerations (generations : Generations) (streams : List StreamId) : List (StreamId × Int) :=
  streams.map fun s => (s, generations.current s + 1)

variable {n : Type → Type} [Monad n]

/-- **Stamp a catalog** with the generations recorded for its connection. -/
def stampCatalog (store : GenerationStore n) (catalog : Catalog) (connection : Uuid) (job : Int)
    (refreshed : List RefreshRequest) : Attempt n Catalog := do
  let generations ← store.current connection
  return catalog.stamp generations job (refreshed.map RefreshRequest.stream)

/-- **Bump the generations** of the requested streams. Without requests the store is left alone. -/
def bumpGenerations (store : GenerationStore n) (connection : Uuid) (job : Int)
    (requests : List RefreshRequest) : Attempt n Unit := do
  let streams := requestedStreams requests
  if streams.isEmpty then return
  let generations ← store.current connection
  store.insert connection job (nextGenerations generations streams)

end ConnectionJobs
