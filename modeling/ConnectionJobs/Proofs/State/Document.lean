import ConnectionJobs.Proofs.Job.Decoding
import ConnectionJobs.Proofs.Json.Document
import ConnectionJobs.Proofs.State.Writable

/-!
# Saved states and their documents

Every part of a saved state is in its document, and the decoder finds it there: a state of any shape is decoded from the
document it is encoded as, with the payloads that its shape does not select, and with payloads that are absent or empty.
What may be lost is lost in the text of the document, and only from the *payloads*, the opaque tables that connectors
save. A state with exact payloads has an exact document, and an exact document is read back as itself.
-/

namespace ConnectionJobs

namespace Decoder

open Checked (Gives)

theorem undoes_streamState : Undoes streamState StreamState.toJson := by
  rintro ⟨name, space, payload⟩
  exact Gives.ap (Gives.ap (Gives.map (required_of undoes_text rfl)) (omissibleText_of rfl)) (omissibleMembers_of rfl)

theorem cursors_of {key : String} {ms : Members} {streams : List StreamState}
    (found : Keyed.find? key ms = some (.array (streams.map StreamState.toJson))) :
    (withDefault key [] (items streamState) ms).Gives streams :=
  withDefault_of (undoes_items undoes_streamState) found

theorem undoes_globalState : Undoes globalState GlobalState.toJson := by
  rintro ⟨shared, streams⟩
  exact Gives.ap (Gives.map (omissibleMembers_of rfl)) (cursors_of rfl)

/-- **Every saved state is decoded from its document.** -/
theorem undoes_savedState : Undoes savedState SavedState.toJson := by
  rintro ⟨shape, legacy, payload, streams⟩
  refine Gives.ap (Gives.ap (Gives.ap (Gives.map (required_of (undoes_oneOf StateShape.ofName?_name) rfl)) ?_) ?_) ?_
  · exact omissibleMembers_of rfl
  · exact omissible_of undoes_globalState nofun rfl
  · exact cursors_of rfl

end Decoder

/-! ## Payloads -/

/-- The payloads of a global state. -/
def GlobalState.payloads (g : GlobalState) : List Members := g.shared.toList ++ g.streams.filterMap StreamState.state

/-- **The payloads** of a saved state, whatever its shape selects. -/
def SavedState.payloads (s : SavedState) : List Members :=
  s.legacy.toList ++ s.global.toList.flatMap GlobalState.payloads ++ s.streams.filterMap StreamState.state

section Exact

variable {streams : List StreamState} {payload : Option Members}

theorem exact_textOrNull (o : Option String) : (textOrNull o).Exact := by
  cases o with
  | none => exact Json.exact_null
  | some s => exact Json.exact_text s

theorem exact_payload (exact : ∀ ms ∈ payload.toList, (Json.object ms).Exact) :
    (Json.optional Json.object payload).Exact := by
  cases payload with
  | none => exact Json.exact_null
  | some ms => exact exact ms (Option.mem_toList.mpr rfl)

theorem StreamState.exact_toJson {s : StreamState} (exact : ∀ ms ∈ s.state.toList, (Json.object ms).Exact) :
    s.toJson.Exact := by
  refine Json.exact_object (by simp [Keyed.keys]) ?_
  simp only [List.forall_mem_cons]
  exact ⟨Json.exact_text _, exact_textOrNull _, exact_payload exact, nofun⟩

theorem exact_cursors (exact : ∀ ms ∈ streams.filterMap StreamState.state, (Json.object ms).Exact) :
    (Json.array (streams.map StreamState.toJson)).Exact := by
  refine Json.exact_array fun item inside => ?_
  obtain ⟨s, there, rfl⟩ := List.mem_map.mp inside
  exact StreamState.exact_toJson fun ms held =>
    exact ms (List.mem_filterMap.mpr ⟨s, there, Option.mem_toList.mp held⟩)

theorem GlobalState.exact_toJson {g : GlobalState} (exact : ∀ ms ∈ g.payloads, (Json.object ms).Exact) :
    g.toJson.Exact := by
  obtain ⟨shared, cursors⟩ := List.forall_mem_append.mp exact
  refine Json.exact_object (by simp [Keyed.keys]) ?_
  simp only [List.forall_mem_cons]
  exact ⟨exact_payload shared, exact_cursors cursors, nofun⟩

/-- **A state with exact payloads has an exact document.** -/
theorem SavedState.exact_toJson {s : SavedState} (exact : ∀ ms ∈ s.payloads, (Json.object ms).Exact) :
    s.toJson.Exact := by
  obtain ⟨others, cursors⟩ := List.forall_mem_append.mp exact
  obtain ⟨legacy, shared⟩ := List.forall_mem_append.mp others
  have payload : (Json.optional GlobalState.toJson s.global).Exact := by
    cases held : s.global with
    | none => exact Json.exact_null
    | some g =>
      refine GlobalState.exact_toJson fun ms inside => shared ms ?_
      rw [held]
      exact List.mem_flatMap.mpr ⟨g, List.mem_singleton.mpr rfl, inside⟩
  refine Json.exact_object (by simp [Keyed.keys]) ?_
  simp only [List.forall_mem_cons]
  exact ⟨Json.exact_text _, exact_payload legacy, payload, exact_cursors cursors, nofun⟩

end Exact

/-! ## Texts -/

namespace SavedState

variable {s : SavedState}

/-- **A state whose document nests few enough containers can be written**, the innermost of them around a value or
empty. -/
theorem text?_of_shallow (shallow : s.toJson.nesting ≤ 201) : s.text? = some s.toJson.write := by
  have low : s.toJson.depth ≤ 202 := (s.toJson.height_le_nesting 1).trans (Nat.succ_le_succ shallow)
  have writable := (makes_savedState s.toJson low s (Decoder.undoes_savedState s)).isWritable (by decide)
  rw [text?, if_pos writable]

variable [Json.Release]

/-- **A state within the limits of the reader is read back from its text.** -/
theorem readDocument?_write (exact : s.toJson.Exact) (shallow : s.toJson.depth ≤ 201) (short : s.toJson.Short) :
    Json.readDocument? s.toJson.write = some s.toJson := by
  rw [Json.readDocument?_write short shallow, Json.asRead_of_exact exact]

/-- A text that is read as the document of a state is decoded as the state. -/
theorem decodeText_of_read {t : String} (read : Json.readDocument? t = some s.toJson) :
    decodeText Decoder.savedState t = .valid s := by
  have decoded := Decoder.undoes_savedState s
  unfold decodeText
  rw [read]
  exact decoded

end SavedState

end ConnectionJobs
