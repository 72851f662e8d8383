import ConnectionJobs.Proofs.Catalog.Reset
import ConnectionJobs.Proofs.Keyed

/-!
# The generations that a stamp records

A destination keeps the data of a stream from its minimum generation on, and drops what is older. So the minimum decides
what is lost, and it must be raised for two kinds of streams only: those that the job refreshes, and those that it reads
in full and writes over what was there. Every other stream keeps all generations, which is what a minimum of zero says.

A stamp reads the modes that a reset writes, so the two transforms do not simply commute. They do when the stamp is told
that the streams to be reset are refreshed (`stamp_reset`), since a reset gives a stream just the modes whose older
generations are dropped.
-/

namespace ConnectionJobs

/-- **A job truncates a stream**: it refreshes the stream, or it reads the stream in full and overwrites it. -/
def ConfiguredStream.Truncated (refreshed : List StreamId) (s : ConfiguredStream) : Prop :=
  Names refreshed s.stream ∨
    s.syncMode = .fullRefresh ∧ (s.destinationMode = .overwrite ∨ s.destinationMode = .overwriteDedup)

/-- **What a stamp makes of a stream**: it records the generation of the stream, the oldest generation to keep and the
job, and changes nothing else. -/
structure ConfiguredStream.StampedTo (generations : Generations) (job : Int) (refreshed : List StreamId)
    (s t : ConfiguredStream) : Prop where
  /-- Nothing but the three stamps can be different. -/
  kept : t = { s with
    generation := t.generation, minimumGeneration := t.minimumGeneration, syncId := t.syncId }
  /-- The generation is the current one, which is zero for a stream without any. -/
  generation : t.generation = some ((Keyed.find? s.stream generations).getD 0)
  /-- The job is the one that stamps. -/
  syncId : t.syncId = some job
  /-- Older generations of a truncated stream are dropped. -/
  truncated : s.Truncated refreshed → t.minimumGeneration = t.generation
  /-- All generations of any other stream are kept. -/
  untruncated : ¬s.Truncated refreshed → t.minimumGeneration = some 0

/-- **The stamps of a stream are in order**: the minimum is not negative and at most the generation, it is one of zero
and the generation, and it is zero unless the stream is truncated. -/
def ConfiguredStream.InOrder (refreshed : List StreamId) (t : ConfiguredStream) : Prop :=
  ∃ generation minimum, t.generation = some generation ∧ t.minimumGeneration = some minimum ∧
    0 ≤ minimum ∧ minimum ≤ generation ∧ (minimum = 0 ∨ minimum = generation) ∧
    (minimum ≠ 0 → t.Truncated refreshed)

namespace ConfiguredStream

variable {generations : Generations} {job : Int} {refreshed : List StreamId} {s t : ConfiguredStream}

instance : Decidable (s.Truncated refreshed) := inferInstanceAs (Decidable (_ ∨ _ ∧ (_ ∨ _)))

theorem truncates_iff (mode : DestinationMode) :
    mode.truncates = true ↔ mode = .overwrite ∨ mode = .overwriteDedup := by
  cases mode <;> decide

theorem dropsOlder_iff : s.dropsOlder refreshed = true ↔ s.Truncated refreshed := by
  unfold dropsOlder Truncated
  rw [Bool.or_eq_true, decide_eq_true_eq, Bool.and_eq_true, beq_iff_eq, truncates_iff, names_iff_mem]

/-- **A stream is stamped** with its generation, and with that or zero for a minimum. -/
theorem stamped_eq (generations : Generations) (job : Int) (refreshed : List StreamId) (s : ConfiguredStream) :
    s.stamped generations job refreshed = { s with
      generation := some (generations.current s.stream)
      minimumGeneration := some (if s.Truncated refreshed then generations.current s.stream else 0)
      syncId := some job } := by
  unfold stamped
  simp only [dropsOlder_iff]

theorem stampedTo_iff : s.StampedTo generations job refreshed t ↔ s.stamped generations job refreshed = t := by
  rw [stamped_eq]
  constructor
  · rintro ⟨kept, generation, syncId, truncated, untruncated⟩
    rw [kept, generation, syncId]
    split_ifs with h
    · rw [truncated h, generation]
      rfl
    · rw [untruncated h]
      rfl
  · rintro rfl
    exact ⟨rfl, rfl, rfl, fun h => by rw [if_pos h], fun h => by rw [if_neg h]⟩

/-- What is stamped is truncated as it was. -/
theorem truncated_stamped (other : List StreamId) :
    (s.stamped generations job refreshed).Truncated other ↔ s.Truncated other := Iff.rfl

/-- **A later stamp replaces an earlier one.** -/
theorem stamped_stamped (later : Generations) (laterJob : Int) (other : List StreamId) :
    (s.stamped generations job refreshed).stamped later laterJob other = s.stamped later laterJob other := by
  rw [stamped_eq, stamped_eq later laterJob other s]
  rfl

/-- Only whether a stream is truncated matters of the streams that are refreshed. -/
theorem stamped_congr {other : List StreamId} (same : s.Truncated refreshed ↔ s.Truncated other) :
    s.stamped generations job refreshed = s.stamped generations job other := by
  rw [stamped_eq, stamped_eq]
  simp only [same]

/-- A cleared stream is truncated whether it is refreshed or not, so it can as well be stamped as refreshed first. -/
theorem stamped_cleared {other : List StreamId} (named : Names other s.stream) :
    s.cleared.stamped generations job refreshed = (s.stamped generations job other).cleared := by
  have cleared : s.cleared.Truncated refreshed := .inr ⟨rfl, .inl rfl⟩
  have truncated : s.Truncated other := .inl named
  rw [stamped_eq, stamped_eq, if_pos cleared, if_pos truncated]
  rfl

theorem inOrder_stamped (current : 0 ≤ generations.current s.stream) :
    (s.stamped generations job refreshed).InOrder refreshed := by
  refine ⟨_, _, rfl, rfl, ?_⟩
  simp only [dropsOlder_iff, truncated_stamped]
  split_ifs with h
  · exact ⟨current, Int.le_refl _, .inr rfl, fun _ => h⟩
  · exact ⟨Int.le_refl _, current, .inl rfl, fun nonzero => absurd rfl nonzero⟩

end ConfiguredStream

/-- A map of generations that are not negative has no negative generation for any stream. -/
theorem Generations.current_nonneg {generations : Generations} (nonneg : ∀ entry ∈ generations, 0 ≤ entry.2)
    (stream : StreamId) : 0 ≤ generations.current stream := by
  unfold current
  cases found : Keyed.find? stream generations with
  | none => exact Int.le_refl _
  | some generation =>
    obtain ⟨entry, inside, rfl⟩ := Keyed.exists_mem_of_find? found
    exact nonneg entry inside

namespace Catalog

variable {c d : Catalog} {generations : Generations} {job : Int} {refreshed : List StreamId}

/-- **The stamped catalog has the streams of the catalog, in their order, each as a stamp makes it.** -/
theorem eq_stamp_iff : d = c.stamp generations job refreshed ↔
    List.Forall₂ (ConfiguredStream.StampedTo generations job refreshed) c.streams d.streams := by
  have each : ConfiguredStream.StampedTo generations job refreshed =
      fun s t => s.stamped generations job refreshed = t := by
    funext s t
    exact propext ConfiguredStream.stampedTo_iff
  rw [each, ← streams_injective.eq_iff, streams_stamp, eq_comm, ← List.forall₂_map_left_iff, List.forall₂_eq_eq_eq]

/-- **Stamping again replaces the stamps.** -/
theorem stamp_stamp (c : Catalog) (generations later : Generations) (job laterJob : Int)
    (refreshed other : List StreamId) :
    (c.stamp generations job refreshed).stamp later laterJob other = c.stamp later laterJob other := by
  refine streams_injective ?_
  simp only [streams_stamp, List.map_map]
  exact List.map_congr_left fun s _ => s.stamped_stamped later laterJob other

/-- **A stamp of a reset catalog is a reset of the catalog stamped as if the reset streams were refreshed.** -/
theorem stamp_reset (c : Catalog) (chosen : List StreamId) (generations : Generations) (job : Int)
    (refreshed : List StreamId) :
    (c.reset chosen).stamp generations job refreshed = (c.stamp generations job (refreshed ++ chosen)).reset chosen := by
  refine streams_injective ?_
  simp only [streams_stamp, streams_reset_eq, List.map_map]
  refine List.map_congr_left fun s _ => ?_
  show ConfiguredStream.stamped _ _ _ (if Names chosen s.stream then _ else _) =
    if Names chosen s.stream then _ else _
  by_cases named : Names chosen s.stream
  · rw [if_pos named, if_pos named]
    exact ConfiguredStream.stamped_cleared (names_append.mpr (.inr named))
  · rw [if_neg named, if_neg named]
    refine ConfiguredStream.stamped_congr (or_congr_left ?_)
    rw [names_append, or_iff_left named]

/-- **A stamp records the current generation of every stream and raises the minimum where data is rewritten.** It keeps
the streams, their order and all of a stream but its three stamps. When no generation in the map is negative, every
minimum lies between zero and the generation, is one of the two, and is zero unless the stream is refreshed or
overwritten by a full read. Stamps replace earlier stamps, and commute with a reset whose streams count as refreshed. -/
theorem stamp_laws (c : Catalog) (generations : Generations) (job : Int) (refreshed : List StreamId) :
    (∀ d : Catalog, d = c.stamp generations job refreshed ↔
        List.Forall₂ (ConfiguredStream.StampedTo generations job refreshed) c.streams d.streams) ∧
      ((∀ entry ∈ generations, 0 ≤ entry.2) →
        ∀ t ∈ (c.stamp generations job refreshed).streams, t.InOrder refreshed) ∧
      (∀ later laterJob other,
        (c.stamp generations job refreshed).stamp later laterJob other = c.stamp later laterJob other) ∧
      ∀ chosen, (c.reset chosen).stamp generations job refreshed =
        (c.stamp generations job (refreshed ++ chosen)).reset chosen := by
  refine ⟨fun _ => eq_stamp_iff, fun nonneg t inside => ?_, fun later laterJob other => stamp_stamp c _ _ _ _ _ _,
    fun chosen => stamp_reset c chosen generations job refreshed⟩
  obtain ⟨s, -, rfl⟩ := List.mem_map.mp inside
  exact ConfiguredStream.inOrder_stamped (Generations.current_nonneg nonneg s.stream)

namespace FourthGeneration

/-- A refresh of the streams of one namespace, two of which the destination has in the fourth generation. -/
def stamped : Catalog :=
  ThreeUsers.catalog.stamp [(⟨"users", some "public"⟩, 4)] 9 [⟨"users", some "public"⟩]

/-- The stamps are in order: older generations of the refreshed streams are dropped, and the appended stream, which has
no generation, keeps what is there. -/
theorem inOrder_refreshed :
    (∀ t ∈ stamped.streams, t.InOrder [⟨"users", some "public"⟩]) ∧
      stamped.streams.map (fun t => (t.generation, t.minimumGeneration, t.syncId)) =
        [(some 0, some 0, some 9), (some 4, some 4, some 9), (some 4, some 4, some 9)] :=
  ⟨(stamp_laws ThreeUsers.catalog _ 9 _).2.1 (by decide), by decide⟩

end FourthGeneration

end Catalog

end ConnectionJobs
