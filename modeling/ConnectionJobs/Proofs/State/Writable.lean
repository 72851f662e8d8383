import ConnectionJobs.Proofs.Json.Grammar
import ConnectionJobs.Proofs.Validation.Decoder
import ConnectionJobs.State.Document
import ConnectionJobs.State.Strip

/-!
# States that can be written back

A saved state that nests too deeply cannot be written. Reading a text bounds how deep a document nests, decoding takes
the opaque payloads of a state out of the document as they stand there, and stripping only drops payloads. The bound
of the reader is the smaller one, so **what is read from a text can always be written back**. A document that a driver
hands over decoded has passed no reader, and nothing bounds it.
-/

namespace ConnectionJobs

/-- A value that nests within a limit. -/
def Json.Nests (limit : Nat) (v : Json) : Prop := v.depth ≤ limit

/-- The values of some members nest within a limit. -/
def Decoder.Shallow (limit : Nat) (ms : Members) : Prop := Json.depthOfMembers ms ≤ limit

/-- What is inside a value that nests within a limit nests within it, too. -/
theorem Json.inside_nests (limit : Nat) : Decoder.Inside (Nests limit) (Nests limit) where
  items within := heightOfItems_le.mp (Nat.le_of_succ_le within)
  values within := heightOfMembers_le.mp (Nat.le_of_succ_le within)

/-! ## Payloads -/

open Decoder (Makes Each Shallow makes_record makes_members makes_items makes_withDefault makes_omissible)
open Checked (gives_map gives_ap)
open Json (Nests inside_nests)

variable {limit : Nat}

theorem makes_payload : Makes (Nests limit) Decoder.members (Shallow limit) :=
  makes_members.imp fun _ within => Nat.le_of_succ_le within

/-- A payload that nests within a limit fits into as many levels. -/
theorem payloadFits_of_shallow {payload : Option Members} (h : ∀ ms, payload = some ms → Shallow limit ms)
    {levels : Nat} (room : limit ≤ levels) : payloadFits levels payload = true := by
  cases payload with
  | none => rfl
  | some ms => exact decide_eq_true ((h ms rfl).trans room)

/-- A cursor whose payload nests within a limit. -/
def StreamState.Shallow (limit : Nat) (s : StreamState) : Prop := ∀ ms, s.state = some ms → Decoder.Shallow limit ms

/-- A global state whose payloads nest within a limit. -/
structure GlobalState.Shallow (limit : Nat) (g : GlobalState) : Prop where
  /-- The shared part does. -/
  shared : ∀ ms, g.shared = some ms → Decoder.Shallow limit ms
  /-- The cursors do. -/
  streams : ∀ s ∈ g.streams, s.Shallow limit

/-- A saved state whose payloads nest within a limit. -/
structure SavedState.Shallow (limit : Nat) (s : SavedState) : Prop where
  /-- The payload of a legacy state does. -/
  legacy : ∀ ms, s.legacy = some ms → Decoder.Shallow limit ms
  /-- The payload of a global state does. -/
  global : ∀ g, s.global = some g → g.Shallow limit
  /-- The payload of a stream state does. -/
  streams : ∀ c ∈ s.streams, c.Shallow limit

theorem makes_streamState : Makes (Nests limit) Decoder.streamState (StreamState.Shallow limit) := by
  refine makes_record (inside_nests limit) fun ms shallow s given => ?_
  obtain ⟨_, state, named, stateGiven, rfl⟩ := gives_ap.mp given
  obtain ⟨_, _, nameOnly, -, rfl⟩ := gives_ap.mp named
  obtain ⟨_, -, rfl⟩ := gives_map.mp nameOnly
  exact makes_omissible shallow makes_payload stateGiven

/-- A list of cursors, which may be absent. -/
theorem shallow_cursors {ms : Members} {streams : List StreamState} (shallow : Each (Nests limit) ms)
    (given : (Decoder.withDefault "stream_states" [] (Decoder.items Decoder.streamState) ms).Gives streams) :
    ∀ s ∈ streams, s.Shallow limit :=
  makes_withDefault shallow (makes_items (inside_nests limit) makes_streamState) (fun _ h => absurd h List.not_mem_nil) given

theorem makes_globalState : Makes (Nests limit) Decoder.globalState (GlobalState.Shallow limit) := by
  refine makes_record (inside_nests limit) fun ms shallow g given => ?_
  obtain ⟨_, streams, first, streamsGiven, rfl⟩ := gives_ap.mp given
  obtain ⟨shared, sharedGiven, rfl⟩ := gives_map.mp first
  exact ⟨makes_omissible shallow makes_payload sharedGiven, shallow_cursors shallow streamsGiven⟩

/-- **Decoding takes payloads out as they stand in the document.** -/
theorem makes_savedState : Makes (Nests limit) Decoder.savedState (SavedState.Shallow limit) := by
  refine makes_record (inside_nests limit) fun ms shallow s given => ?_
  obtain ⟨_, streams, three, streamsGiven, rfl⟩ := gives_ap.mp given
  obtain ⟨_, payload, two, globalGiven, rfl⟩ := gives_ap.mp three
  obtain ⟨_, legacy, one, legacyGiven, rfl⟩ := gives_ap.mp two
  obtain ⟨_, -, rfl⟩ := gives_map.mp one
  exact ⟨makes_omissible shallow makes_payload legacyGiven, makes_omissible shallow makes_globalState globalGiven,
    shallow_cursors shallow streamsGiven⟩

/-! ## States -/

variable {state : SavedState} {requests : List RefreshRequest}

theorem streamsFit_of_shallow {streams : List StreamState} (h : ∀ s ∈ streams, s.Shallow limit)
    (room : limit ≤ writableDepth - 1) : streamsFit streams = true :=
  List.all_eq_true.mpr fun s hs => payloadFits_of_shallow (h s hs) room

/-- **A writable state**, payload by payload. -/
theorem SavedState.isWritable_iff :
    state.isWritable = true ↔ payloadFits writableDepth state.legacy = true ∧
      (∀ g, state.global = some g → payloadFits writableDepth g.shared = true ∧ streamsFit g.streams = true) ∧
      streamsFit state.streams = true := by
  obtain ⟨shape, legacy, payload, streams⟩ := state
  cases payload <;> simp [SavedState.isWritable, and_assoc]

/-- A state whose payloads nest within a limit that can be written is writable. -/
theorem SavedState.Shallow.isWritable (h : state.Shallow limit) (room : limit ≤ writableDepth - 1) :
    state.isWritable = true := by
  have more : limit ≤ writableDepth := room.trans (Nat.sub_le _ _)
  have cursors := streamsFit_of_shallow h.streams room
  refine isWritable_iff.mpr ⟨payloadFits_of_shallow h.legacy more, fun g payload => ?_, cursors⟩
  have shallow := h.global g payload
  exact ⟨payloadFits_of_shallow shallow.shared more, streamsFit_of_shallow shallow.streams room⟩

theorem streamsFit_retained {streams : List StreamState} (h : streamsFit streams = true) :
    streamsFit (retainedStreams requests streams) = true :=
  List.all_eq_true.mpr fun s hs => List.all_eq_true.mp h s (List.mem_of_mem_filter hs)

theorem GlobalState.fits_strip {g : GlobalState}
    (h : payloadFits writableDepth g.shared = true ∧ streamsFit g.streams = true) :
    payloadFits writableDepth (g.strip requests).shared = true ∧ streamsFit (g.strip requests).streams = true := by
  refine ⟨?_, streamsFit_retained h.2⟩
  dsimp only [GlobalState.strip]
  split
  · rfl
  · exact h.1

/-- **Stripping keeps a state writable**, since it only drops payloads. -/
theorem SavedState.isWritable_strip (h : state.isWritable = true) : (state.strip requests).isWritable = true := by
  obtain ⟨legacy, payload, streams⟩ := isWritable_iff.mp h
  refine isWritable_iff.mpr ?_
  unfold SavedState.strip
  split
  · exact ⟨legacy, payload, streams⟩
  · refine ⟨legacy, fun g stripped => ?_, streams⟩
    obtain ⟨whole, found, rfl⟩ := Option.map_eq_some_iff.mp stripped
    exact GlobalState.fits_strip (payload whole found)
  · exact ⟨legacy, payload, streamsFit_retained streams⟩

/-- **A state that is read from a text can be written back**: the reader refuses documents long before a writer does. -/
theorem isWritable_of_decodeText {s : String} (h : decodeText Decoder.savedState s = .valid state) :
    state.isWritable = true := by
  unfold decodeText at h
  split at h
  · rename_i json read
    exact (makes_savedState json (Json.readable_of_readDocument? read).shallow state h).isWritable (by decide)
  · exact nomatch h

end ConnectionJobs
