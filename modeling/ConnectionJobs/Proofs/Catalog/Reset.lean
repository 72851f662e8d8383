import ConnectionJobs.Catalog
import Mathlib.Data.List.Forall2

/-!
# The streams that a reset empties

A reset is given a list of streams, from outside, and a catalog. The list may name a stream twice, name streams that the
catalog does not have, or name them in any order, and a catalog may have several streams of one identity. What is at
stake is which streams are emptied at the destination: those that the list names, all of them, and no others.

`ResetTo` says what a reset makes of one stream, and streams in order that are made so are the reset catalog
(`eq_reset_iff`). Everything about several resets follows from which streams their lists name together.
-/

namespace ConnectionJobs

/-- **A list names a stream**: it has an entry with its name and with its namespace. A stream without namespace is named
by an entry without namespace only. -/
def Names (chosen : List StreamId) (stream : StreamId) : Prop :=
  ∃ entry ∈ chosen, entry.name = stream.name ∧ entry.space = stream.space

/-- **What a reset makes of a stream**: it gives a named stream the modes that empty it, and changes nothing else. -/
structure ConfiguredStream.ResetTo (chosen : List StreamId) (s t : ConfiguredStream) : Prop where
  /-- Nothing but the modes can be different. -/
  kept : t = { s with syncMode := t.syncMode, destinationMode := t.destinationMode }
  /-- A named stream is read in full and overwritten. -/
  named : Names chosen s.stream → t.syncMode = .fullRefresh ∧ t.destinationMode = .overwrite
  /-- Any other stream keeps its modes. -/
  unnamed : ¬Names chosen s.stream → t.syncMode = s.syncMode ∧ t.destinationMode = s.destinationMode

section Names

variable {chosen other : List StreamId} {stream : StreamId}

theorem names_iff_mem : Names chosen stream ↔ stream ∈ chosen := by
  constructor
  · rintro ⟨⟨name, space⟩, inside, rfl, rfl⟩
    exact inside
  · exact fun inside => ⟨stream, inside, rfl, rfl⟩

theorem names_append : Names (chosen ++ other) stream ↔ Names chosen stream ∨ Names other stream := by
  rw [names_iff_mem, names_iff_mem, names_iff_mem, List.mem_append]

instance : Decidable (Names chosen stream) := decidable_of_iff _ names_iff_mem.symm

end Names

namespace ConfiguredStream

variable {chosen : List StreamId} {s t : ConfiguredStream}

@[simp] theorem stream_cleared (s : ConfiguredStream) : s.cleared.stream = s.stream := rfl

@[simp] theorem cleared_cleared (s : ConfiguredStream) : s.cleared.cleared = s.cleared := rfl

/-- **A stream is reset** to what is made of it by hand. -/
theorem resetTo_iff : s.ResetTo chosen t ↔ t = if Names chosen s.stream then s.cleared else s := by
  constructor
  · rintro ⟨kept, named, unnamed⟩
    split_ifs with h
    · rw [kept, (named h).1, (named h).2]
      rfl
    · rw [kept, (unnamed h).1, (unnamed h).2]
  · rintro rfl
    split_ifs with h
    · exact ⟨rfl, fun _ => ⟨rfl, rfl⟩, fun unnamed => absurd h unnamed⟩
    · exact ⟨rfl, fun named => absurd named h, fun _ => ⟨rfl, rfl⟩⟩

end ConfiguredStream

namespace Catalog

variable {c d : Catalog} {chosen other : List StreamId}

theorem streams_injective : Function.Injective streams := by
  rintro ⟨streams⟩ ⟨_⟩ rfl
  rfl

theorem streams_reset_eq (c : Catalog) (chosen : List StreamId) :
    (c.reset chosen).streams = c.streams.map fun s => if Names chosen s.stream then s.cleared else s := by
  simp only [streams_reset, names_iff_mem]

/-- **The reset catalog has the streams of the catalog, in their order, each as a reset makes it.** -/
theorem eq_reset_iff : d = c.reset chosen ↔ List.Forall₂ (ConfiguredStream.ResetTo chosen) c.streams d.streams := by
  have each : ConfiguredStream.ResetTo chosen = fun s t => (if Names chosen s.stream then s.cleared else s) = t := by
    funext s t
    exact propext (ConfiguredStream.resetTo_iff.trans eq_comm)
  rw [each, ← streams_injective.eq_iff, streams_reset_eq, eq_comm, ← List.forall₂_map_left_iff, List.forall₂_eq_eq_eq]

/-- **Two resets are one** of all the streams that they name. -/
theorem reset_reset (c : Catalog) (chosen other : List StreamId) :
    (c.reset chosen).reset other = c.reset (chosen ++ other) := by
  refine streams_injective ?_
  simp only [streams_reset_eq, List.map_map]
  refine List.map_congr_left fun s _ => ?_
  by_cases first : Names chosen s.stream <;> by_cases second : Names other s.stream <;>
    simp [names_append, first, second]

/-- **Resets differ exactly on the streams that one of them empties.** They are the same when every stream of the catalog
is named by both lists or by neither, or has the modes of an emptied stream already. -/
theorem reset_eq_reset_iff :
    c.reset chosen = c.reset other ↔
      ∀ s ∈ c.streams, (Names chosen s.stream ↔ Names other s.stream) ∨ s.cleared = s := by
  rw [← streams_injective.eq_iff, streams_reset_eq, streams_reset_eq, List.map_inj_left]
  refine forall₂_congr fun s _ => ?_
  by_cases first : Names chosen s.stream <;> by_cases second : Names other s.stream <;>
    simp [first, second, eq_comm]

theorem streamIds_reset (c : Catalog) (chosen : List StreamId) : (c.reset chosen).streamIds = c.streamIds := by
  rw [streamIds, streamIds, streams_reset_eq, List.map_map]
  refine List.map_congr_left fun s _ => ?_
  show (if Names chosen s.stream then s.cleared else s).stream = s.stream
  split_ifs
  · exact s.stream_cleared
  · rfl

/-- **A reset empties the streams that its list names, and nothing else.** It keeps the streams, their order and all of
a stream but its modes, which change for the named streams. Resets add up, in either order, and a reset done again
changes nothing. Lists that name the same streams of the catalog reset it alike, however they are ordered and whatever
else they name, and only these do, but for streams that are emptied anyway. -/
theorem reset_laws (c : Catalog) (chosen other : List StreamId) :
    (c.reset chosen).reset other = c.reset (chosen ++ other) ∧
      (c.reset other).reset chosen = c.reset (chosen ++ other) ∧
      (c.reset chosen).reset chosen = c.reset chosen ∧
      (c.reset chosen = c.reset other ↔
        ∀ s ∈ c.streams, (Names chosen s.stream ↔ Names other s.stream) ∨ s.cleared = s) ∧
      (c.reset chosen).streamIds = c.streamIds ∧
      ∀ d : Catalog, d = c.reset chosen ↔
        List.Forall₂ (ConfiguredStream.ResetTo chosen) c.streams d.streams := by
  refine ⟨reset_reset c chosen other, ?_, ?_, reset_eq_reset_iff, streamIds_reset c chosen, fun _ => eq_reset_iff⟩
  · rw [reset_reset]
    refine reset_eq_reset_iff.mpr fun s _ => .inl ?_
    rw [names_append, names_append, or_comm]
  · rw [reset_reset]
    refine reset_eq_reset_iff.mpr fun s _ => .inl ?_
    rw [names_append, or_self]

namespace ThreeUsers

/-- A stream of that name in a namespace. -/
def users (space : Option String) (mode : DestinationMode) : ConfiguredStream :=
  { (default : ConfiguredStream) with stream := ⟨"users", space⟩, syncMode := .incremental, destinationMode := mode }

/-- A catalog with a stream without namespace, and two that share a namespace. -/
def catalog : Catalog := ⟨[users none .append, users (some "public") .append, users (some "public") .appendDedup]⟩

/-- Both streams of the namespace are emptied and the third is left alone, also when the list names the namespace twice,
or a stream that is not there. -/
theorem reset_public :
    catalog.reset [⟨"users", some "public"⟩, ⟨"ghosts", none⟩] =
        catalog.reset [⟨"users", some "public"⟩, ⟨"users", some "public"⟩] ∧
      (catalog.reset [⟨"users", some "public"⟩, ⟨"ghosts", none⟩]).streams =
        [users none .append, (users (some "public") .append).cleared, (users (some "public") .appendDedup).cleared] :=
  ⟨(reset_laws catalog _ _).2.2.2.1.mpr (by decide), by decide⟩

end ThreeUsers

end Catalog

end ConnectionJobs
