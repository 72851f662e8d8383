import ConnectionJobs.Connection

/-!
# Saved states

Between jobs a connection saves its **state**: how far each stream has been read. A state has one of three
shapes. A *stream* state is a list of cursors, one per stream. A *global* state adds a part shared by all
streams. A *legacy* state is one opaque value. What a connector saves in a cursor is its own business.
-/

namespace ConnectionJobs

/-- The shape of a saved state. -/
inductive StateShape where
  /-- One opaque value. -/
  | legacy
  /-- Cursors with a shared part. -/
  | global
  /-- Cursors. -/
  | stream
  deriving DecidableEq, Repr, Inhabited

namespace StateShape

/-- The name of a shape in documents. -/
def name : StateShape → String
  | legacy => "legacy"
  | global => "global"
  | stream => "stream"

/-- The shape with a given name. -/
def ofName? : String → Option StateShape
  | "legacy" => some legacy
  | "global" => some global
  | "stream" => some stream
  | _ => none

@[simp] theorem ofName?_name (shape : StateShape) : ofName? shape.name = some shape := by cases shape <;> rfl

end StateShape

/-- **The cursor of one stream.** -/
structure StreamState where
  /-- The name of the stream. -/
  streamName : String
  /-- The namespace of the stream. -/
  streamNamespace : Option String
  /-- How far the stream has been read; opaque here. -/
  state : Option Members
  deriving Inhabited

/-- The stream a cursor belongs to. -/
def StreamState.stream (s : StreamState) : StreamId := ⟨s.streamName, s.streamNamespace⟩

/-- **A global state**: cursors, and a part shared by all streams. -/
structure GlobalState where
  /-- The shared part; opaque here. -/
  shared : Option Members
  /-- The cursors. -/
  streams : List StreamState
  deriving Inhabited

/-- **A saved state.** The shape selects which of the three payloads counts; the others are carried along. -/
structure SavedState where
  /-- The shape. -/
  shape : StateShape
  /-- The payload of a legacy state. -/
  legacy : Option Members
  /-- The payload of a global state. -/
  global : Option GlobalState
  /-- The payload of a stream state. -/
  streams : List StreamState
  deriving Inhabited

end ConnectionJobs
