import ConnectionJobs.Keyed

/-!
# Catalogs

A connection carries a **catalog**: the streams it moves, each with the way it is read from the source and
written to the destination. Two transforms prepare a catalog for a job. A *reset* makes chosen streams be
overwritten by an empty source. *Stamping* records on every stream the generation of its data and the job that
wrote it. Both keep the streams, their number and their order; neither looks at anything but a stream's identity and modes.
-/

namespace ConnectionJobs

/-- How a stream is read from its source. -/
inductive SyncMode where
  /-- Everything, every time. -/
  | fullRefresh
  /-- What is new since the saved cursor. -/
  | incremental
  deriving DecidableEq, Repr, Inhabited

namespace SyncMode

/-- The name of a mode in documents. -/
def name : SyncMode → String
  | fullRefresh => "full_refresh"
  | incremental => "incremental"

/-- The mode with a given name. -/
def ofName? : String → Option SyncMode
  | "full_refresh" => some fullRefresh
  | "incremental" => some incremental
  | _ => none

@[simp] theorem ofName?_name (mode : SyncMode) : ofName? mode.name = some mode := by cases mode <;> rfl

end SyncMode

/-- How a stream is written to its destination. -/
inductive DestinationMode where
  /-- New records after the old ones. -/
  | append
  /-- New records in place of all old ones. -/
  | overwrite
  /-- New records after the old ones, one kept per key. -/
  | appendDedup
  /-- New records in place of all old ones, one kept per key. -/
  | overwriteDedup
  deriving DecidableEq, Repr, Inhabited

namespace DestinationMode

/-- The name of a mode in documents. -/
def name : DestinationMode → String
  | append => "append"
  | overwrite => "overwrite"
  | appendDedup => "append_dedup"
  | overwriteDedup => "overwrite_dedup"

/-- The mode with a given name. -/
def ofName? : String → Option DestinationMode
  | "append" => some append
  | "overwrite" => some overwrite
  | "append_dedup" => some appendDedup
  | "overwrite_dedup" => some overwriteDedup
  | _ => none

@[simp] theorem ofName?_name (mode : DestinationMode) : ofName? mode.name = some mode := by cases mode <;> rfl

/-- **A truncating mode** replaces the data a stream wrote before. -/
def truncates : DestinationMode → Bool
  | overwrite | overwriteDedup => true
  | append | appendDedup => false

end DestinationMode

/-- **The identity of a stream**: its name, and the namespace it lives in, if any. A stream without namespace
is a different stream from any that has one. -/
structure StreamId where
  /-- The name of the stream. -/
  name : String
  /-- The namespace of the stream. -/
  space : Option String
  deriving DecidableEq, Repr, Inhabited

/-- **A configured stream.** -/
structure ConfiguredStream where
  /-- The identity of the stream. -/
  stream : StreamId
  /-- How it is read. -/
  syncMode : SyncMode
  /-- How it is written. -/
  destinationMode : DestinationMode
  /-- The path of the cursor field of incremental reads. -/
  cursorField : List String
  /-- The paths of the key fields of the modes that keep one record per key. -/
  primaryKey : List (List String)
  /-- The generation of the data the job writes. -/
  generation : Option Int
  /-- The oldest generation the destination keeps. -/
  minimumGeneration : Option Int
  /-- The job that stamped the generation. -/
  syncId : Option Int
  deriving DecidableEq, Repr, Inhabited

/-- **A catalog**: configured streams in order. -/
structure Catalog where
  /-- The streams. -/
  streams : List ConfiguredStream
  deriving DecidableEq, Repr, Inhabited

/-- **The generations of streams**: the current generation of each stream that has one. -/
abbrev Generations := Keyed StreamId Int

/-- The current generation of a stream, zero when none is recorded. -/
def Generations.current (generations : Generations) (stream : StreamId) : Int :=
  (Keyed.find? stream generations).getD 0

namespace ConfiguredStream

/-- The stream is emptied and rewritten by a reset. -/
def cleared (s : ConfiguredStream) : ConfiguredStream :=
  { s with syncMode := .fullRefresh, destinationMode := .overwrite }

/-- **The job drops older generations** of the stream: the stream is refreshed by it, or is read in full and
written over what was there. -/
def dropsOlder (refreshed : List StreamId) (s : ConfiguredStream) : Bool :=
  s.stream ∈ refreshed || (s.syncMode == .fullRefresh && s.destinationMode.truncates)

/-- **A stamped stream** carries its current generation, the oldest generation to keep and the job. -/
def stamped (generations : Generations) (job : Int) (refreshed : List StreamId) (s : ConfiguredStream) :
    ConfiguredStream :=
  let current := generations.current s.stream
  { s with
    generation := some current
    minimumGeneration := some (if s.dropsOlder refreshed then current else 0)
    syncId := some job }

end ConfiguredStream

namespace Catalog

/-- The identities of the streams, in catalog order. -/
def streamIds (c : Catalog) : List StreamId := c.streams.map (·.stream)

/-- **Reset** the chosen streams. Streams that are not in the catalog are ignored. -/
def reset (c : Catalog) (chosen : List StreamId) : Catalog :=
  ⟨c.streams.map fun s => if s.stream ∈ chosen then s.cleared else s⟩

/-- **Stamp** every stream with its current generation and the job it is written by. -/
def stamp (c : Catalog) (generations : Generations) (job : Int) (refreshed : List StreamId) : Catalog :=
  ⟨c.streams.map (·.stamped generations job refreshed)⟩

@[simp] theorem streams_reset (c : Catalog) (chosen : List StreamId) :
    (c.reset chosen).streams = c.streams.map fun s => if s.stream ∈ chosen then s.cleared else s := rfl

@[simp] theorem streams_stamp (c : Catalog) (generations : Generations) (job : Int) (refreshed : List StreamId) :
    (c.stamp generations job refreshed).streams = c.streams.map (·.stamped generations job refreshed) := rfl

end Catalog

end ConnectionJobs
