import ConnectionJobs.State.Basic
import ConnectionJobs.Job.Encoding
import ConnectionJobs.Job.Decoding

/-!
# Saved states as documents

A saved state is stored as a JSON document. The database may hand it back as text or as a decoded value, and
both are read alike. An opaque payload that nests too deeply makes the state impossible to write.
-/

namespace ConnectionJobs

open Json (optional)

/-- A cursor in a document. -/
def StreamState.toJson (s : StreamState) : Json :=
  .object
    [("stream_name", .text s.streamName),
     ("stream_namespace", textOrNull s.streamNamespace),
     ("state", optional Json.object s.state)]

/-- A global state in a document. -/
def GlobalState.toJson (g : GlobalState) : Json :=
  .object
    [("shared_state", optional Json.object g.shared),
     ("stream_states", .array (g.streams.map StreamState.toJson))]

/-- **A saved state as a document.** -/
def SavedState.toJson (s : SavedState) : Json :=
  .object
    [("state_type", .text s.shape.name),
     ("legacy_state", optional Json.object s.legacy),
     ("global_state", optional GlobalState.toJson s.global),
     ("stream_states", .array (s.streams.map StreamState.toJson))]

/-- The values of an opaque payload nest at most `limit` deep. -/
def payloadFits (limit : Nat) : Option Members → Bool
  | some ms => Json.depthOfMembers ms ≤ limit
  | none => true

/-- The cursors can be written. -/
def streamsFit (streams : List StreamState) : Bool :=
  streams.all fun s => payloadFits (writableDepth - 1) s.state

/-- **A writable state**: no opaque payload of it nests too deeply. -/
def SavedState.isWritable (s : SavedState) : Bool :=
  payloadFits writableDepth s.legacy &&
    (match s.global with
      | some g => payloadFits writableDepth g.shared && streamsFit g.streams
      | none => true) &&
    streamsFit s.streams

/-- **The text of a saved state**, `none` when it nests too deeply to be written. -/
def SavedState.text? (s : SavedState) : Option String :=
  if s.isWritable then some s.toJson.write else none

namespace Decoder

/-- A cursor. -/
def streamState : Decoder StreamState :=
  record fun ms =>
    StreamState.mk
      <$> required "stream_name" text ms
      <*> omissible "stream_namespace" text ms
      <*> omissible "state" members ms

/-- A global state. -/
def globalState : Decoder GlobalState :=
  record fun ms =>
    GlobalState.mk
      <$> omissible "shared_state" members ms
      <*> withDefault "stream_states" [] (items streamState) ms

/-- **A saved state.** -/
def savedState : Decoder SavedState :=
  record fun ms =>
    SavedState.mk
      <$> required "state_type" (oneOf StateShape.ofName?) ms
      <*> omissible "legacy_state" members ms
      <*> omissible "global_state" globalState ms
      <*> withDefault "stream_states" [] (items streamState) ms

end Decoder

end ConnectionJobs
