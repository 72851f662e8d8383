import ConnectionJobs.Proofs.Job.Decoding
import ConnectionJobs.Proofs.Json.LongNumber
import Mathlib.Data.List.Nodup

/-!
# Configurations that are stored and read back

A configuration is written as a document, stored, and read back by the worker that runs the job. This file says which
configurations survive. What is read back is the configuration itself, but for its *payloads*, the opaque tables that
come with webhooks and operations; they come back as every JSON value does. So a configuration comes back unchanged
when its payloads do.

It does not always come back. The writer and the reader draw their limits separately: a document may be written when it
is at most 255 levels deep, and is read when it is at most 201 levels deep and its integers have at most 4300 digits, of
which a minus sign may be one. In between are configurations that are stored and that no worker can read.
-/

namespace ConnectionJobs

/-! ## Payloads -/

/-- What a payload is read back as. -/
def payloadAsRead (payload : Members) : Members := Keyed.settle (Json.asReadMembers payload)

theorem payloadAsRead_of_exact {payload : Members} (exact : (Json.object payload).Exact) :
    payloadAsRead payload = payload := by
  have same := Json.asRead_of_exact exact
  rw [Json.asRead] at same
  exact Json.object.inj same

/-- The operation with its payload as it is read back. -/
def Operation.asRead (o : Operation) : Operation := { o with configuration := o.configuration.map payloadAsRead }

/-- The configuration with its payloads as they are read back. -/
def SyncConfig.asRead (c : SyncConfig) : SyncConfig :=
  { c with operations := c.operations.map Operation.asRead, webhooks := c.webhooks.map payloadAsRead }

/-- The configuration with its payloads as they are read back. -/
def RefreshConfig.asRead (c : RefreshConfig) : RefreshConfig := ⟨c.toSyncConfig.asRead, c.streamsToRefresh⟩

/-- The configuration with its payloads as they are read back. -/
def ResetConfig.asRead (c : ResetConfig) : ResetConfig := { c with operations := c.operations.map Operation.asRead }

namespace JobConfig

/-- **What a configuration is read back as.** -/
def asRead : JobConfig → JobConfig
  | sync c => sync c.asRead
  | refresh c => refresh c.asRead
  | reset c => reset c.asRead

/-- The operations of a configuration. -/
def operations : JobConfig → List Operation
  | sync c => c.operations
  | refresh c => c.operations
  | reset c => c.operations

/-- What webhooks need to know, where a configuration says so. -/
def webhooks : JobConfig → Option Members
  | sync c => c.webhooks
  | refresh c => c.webhooks
  | reset _ => none

/-- **The payloads** of a configuration. -/
def payloads (c : JobConfig) : List Members := c.operations.filterMap Operation.configuration ++ c.webhooks.toList

end JobConfig

section Payloads

variable {operations : List Operation}

theorem map_payloadAsRead {o : Option Members} (exact : ∀ payload ∈ o, (Json.object payload).Exact) :
    o.map payloadAsRead = o := by
  cases o with
  | none => rfl
  | some payload => exact congrArg some (payloadAsRead_of_exact (exact payload rfl))

theorem map_operationAsRead
    (exact : ∀ payload ∈ operations.filterMap Operation.configuration, (Json.object payload).Exact) :
    operations.map Operation.asRead = operations := by
  have each : ∀ o ∈ operations, o.asRead = o := by
    intro o inside
    have same := map_payloadAsRead (o := o.configuration) fun payload there =>
      exact payload (List.mem_filterMap.mpr ⟨o, inside, there⟩)
    unfold Operation.asRead
    rw [same]
  rw [List.map_congr_left each, List.map_id']

theorem SyncConfig.asRead_eq {c : SyncConfig} (operations : c.operations.map Operation.asRead = c.operations)
    (webhooks : c.webhooks.map payloadAsRead = c.webhooks) : c.asRead = c := by
  unfold asRead
  rw [operations, webhooks]

/-- **A configuration with exact payloads is read back as itself.** -/
theorem JobConfig.asRead_of_exact {c : JobConfig} (exact : ∀ payload ∈ c.payloads, (Json.object payload).Exact) :
    c.asRead = c := by
  have operations : c.operations.map Operation.asRead = c.operations :=
    map_operationAsRead fun payload inside => exact payload (List.mem_append_left _ inside)
  have webhooks : c.webhooks.map payloadAsRead = c.webhooks :=
    map_payloadAsRead fun payload inside => exact payload (List.mem_append_right _ (Option.mem_toList.mpr inside))
  cases c with
  | sync c => exact congrArg sync (SyncConfig.asRead_eq operations webhooks)
  | refresh c =>
    have common : c.toSyncConfig.asRead = c.toSyncConfig := SyncConfig.asRead_eq operations webhooks
    exact congrArg (fun sync => refresh ⟨sync, c.streamsToRefresh⟩) common
  | reset c =>
    show reset { c with operations := c.operations.map Operation.asRead } = reset c
    exact congrArg (fun operations => reset { c with operations := operations }) operations

end Payloads

/-! ## Documents of configurations -/

namespace Json

variable {α : Type} {encode : α → Json}

theorem asRead_object {ms : Members} (distinct : (Keyed.keys ms).Nodup) :
    (object ms).asRead = object (asReadMembers ms) := by
  rw [asRead, Keyed.settle_of_nodup (by rwa [keys_asReadMembers])]

theorem asRead_text (s : String) : (text s).asRead = text s := by rw [asRead]

theorem asRead_boolean (b : Bool) : (boolean b).asRead = boolean b := by rw [asRead]

theorem asRead_integer (n : Int) : (integer n).asRead = integer n := by rw [asRead]

theorem asRead_optional {f : α → α} (each : ∀ a, (encode a).asRead = encode (f a)) (o : Option α) :
    (optional encode o).asRead = optional encode (o.map f) := by
  cases o with
  | none => exact asRead.eq_1
  | some a => exact each a

theorem asRead_items {f : α → α} (each : ∀ a, (encode a).asRead = encode (f a)) (l : List α) :
    (array (l.map encode)).asRead = array ((l.map f).map encode) := by
  rw [asRead]
  congr 1
  induction l with
  | nil => rfl
  | cons a l ih =>
    rw [List.map_cons, asReadItems, each, ih]
    rfl

end Json

open Json (asRead_object asRead_text asRead_boolean asRead_integer asRead_optional asRead_items)

theorem asRead_textOrNull (o : Option String) : (textOrNull o).asRead = textOrNull o := by
  cases o with
  | none => exact Json.asRead.eq_1
  | some s => exact asRead_text s

theorem Quantities.asRead_toJson (q : Quantities) : q.toJson.asRead = q.toJson := by
  refine (asRead_object ?_).trans ?_
  · simp [Keyed.keys]
  · simp only [Json.asReadMembers, asRead_textOrNull]
    rfl

theorem Quantities.asRead_optional (o : Option Quantities) :
    (Json.optional toJson o).asRead = Json.optional toJson o := by
  rw [Json.asRead_optional (f := id) asRead_toJson, Option.map_id]
  rfl

theorem Bundle.asRead_toJson (b : Bundle) : b.toJson.asRead = b.toJson := by
  have key : (Json.object [("variant", .text b.key.variant), ("sub_type", textOrNull b.key.subType)]).asRead =
      .object [("variant", .text b.key.variant), ("sub_type", textOrNull b.key.subType)] := by
    refine (asRead_object ?_).trans ?_
    · simp [Keyed.keys]
    · simp only [Json.asReadMembers, asRead_text, asRead_textOrNull]
  refine (asRead_object ?_).trans ?_
  · simp [Keyed.keys]
  · simp only [Json.asReadMembers, key, Quantities.asRead_toJson, Quantities.asRead_optional]
    rfl

theorem StreamId.asRead_toJson (s : StreamId) : s.toJson.asRead = s.toJson := by
  refine (asRead_object ?_).trans ?_
  · simp [Keyed.keys]
  · simp only [Json.asReadMembers, asRead_text, asRead_textOrNull]
    rfl

theorem asRead_optionalInteger (o : Option Int) :
    (Json.optional Json.integer o).asRead = Json.optional Json.integer o := by
  rw [asRead_optional (f := id) asRead_integer, Option.map_id]
  rfl

/-- A list of values that are read back as themselves is, too. -/
theorem asRead_list {α : Type} {encode : α → Json} (each : ∀ a, (encode a).asRead = encode a) (l : List α) :
    (Json.array (l.map encode)).asRead = .array (l.map encode) := by
  rw [asRead_items (f := id) each, List.map_id]

theorem ConfiguredStream.asRead_toJson (s : ConfiguredStream) : s.toJson.asRead = s.toJson := by
  refine (asRead_object ?_).trans ?_
  · simp [Keyed.keys]
  · simp only [Json.asReadMembers, StreamId.asRead_toJson, asRead_text, asRead_list asRead_text,
      asRead_list (asRead_list asRead_text), asRead_optionalInteger]
    rfl

theorem Catalog.asRead_toJson (c : Catalog) : c.toJson.asRead = c.toJson := by
  refine (asRead_object ?_).trans ?_
  · simp [Keyed.keys]
  · simp only [Json.asReadMembers, asRead_list ConfiguredStream.asRead_toJson]
    rfl

theorem asRead_payload (o : Option Members) :
    (Json.optional Json.object o).asRead = Json.optional Json.object (o.map payloadAsRead) :=
  asRead_optional (fun payload => by rw [Json.asRead, payloadAsRead]) o

theorem Uuid.asRead_toJson (u : Uuid) : u.toJson.asRead = u.toJson := asRead_text u.text

theorem Uuid.asRead_optional (o : Option Uuid) : (Json.optional toJson o).asRead = Json.optional toJson o := by
  rw [Json.asRead_optional (f := id) asRead_toJson, Option.map_id]
  rfl

theorem Operation.asRead_toJson (o : Operation) : o.toJson.asRead = o.asRead.toJson := by
  refine (asRead_object ?_).trans ?_
  · simp [Keyed.keys]
  · simp only [Json.asReadMembers, Uuid.asRead_toJson, asRead_text, Uuid.asRead_optional, asRead_payload]
    rfl

theorem asReadMembers_append (ms rest : Members) :
    Json.asReadMembers (ms ++ rest) = Json.asReadMembers ms ++ Json.asReadMembers rest := by
  induction ms with
  | nil => rfl
  | cons member ms ih =>
    rw [List.cons_append, Json.asReadMembers, Json.asReadMembers, ih]
    rfl

theorem SyncConfig.asRead_commonMembers (c : SyncConfig) :
    Json.asReadMembers c.commonMembers = c.asRead.commonMembers := by
  unfold commonMembers
  simp only [Json.asReadMembers, asRead_text, asRead_textOrNull, asRead_items Operation.asRead_toJson,
    Catalog.asRead_toJson, Bundle.asRead_toJson, asRead_boolean, Uuid.asRead_toJson]
  rfl

theorem SyncConfig.asRead_toJson (c : SyncConfig) : c.toJson.asRead = c.asRead.toJson := by
  refine (asRead_object ?_).trans ?_
  · simp [Keyed.keys, commonMembers]
  · rw [asReadMembers_append, asRead_commonMembers]
    simp only [Json.asReadMembers, asRead_payload, asRead_text]
    rfl

theorem RefreshConfig.asRead_toJson (c : RefreshConfig) : c.toJson.asRead = c.asRead.toJson := by
  refine (asRead_object ?_).trans ?_
  · simp [Keyed.keys, SyncConfig.commonMembers]
  · rw [asReadMembers_append, SyncConfig.asRead_commonMembers]
    simp only [Json.asReadMembers, asRead_list StreamId.asRead_toJson, asRead_payload, asRead_text]
    rfl

theorem ResetConfig.asRead_toJson (c : ResetConfig) : c.toJson.asRead = c.asRead.toJson := by
  refine (asRead_object ?_).trans ?_
  · simp [Keyed.keys]
  · simp only [Json.asReadMembers, asRead_text, asRead_textOrNull, asRead_items Operation.asRead_toJson,
      Catalog.asRead_toJson, Quantities.asRead_toJson, Bundle.asRead_toJson, asRead_list StreamId.asRead_toJson,
      asRead_boolean, Uuid.asRead_toJson]
    rfl

namespace JobConfig

/-- **A document is read back as the document of what the configuration is read back as.** -/
theorem asRead_toJson (c : JobConfig) : c.toJson.asRead = c.asRead.toJson := by
  cases c with
  | sync c => exact c.asRead_toJson
  | refresh c => exact c.asRead_toJson
  | reset c => exact c.asRead_toJson

theorem kind_asRead (c : JobConfig) : c.asRead.kind = c.kind := by cases c <;> rfl

/-! ## Storing and reading back -/

variable {c : JobConfig} {t : String}

theorem text?_eq (c : JobConfig) :
    c.text? = if c.toJson.depth ≤ writableDepth then some c.toJson.write else none := rfl

theorem eq_write_of_text? (written : c.text? = some t) : t = c.toJson.write := by
  rw [text?_eq] at written
  split at written
  · exact (Option.some.inj written).symm
  · cases written

/-- A document that the reader takes is one that may be written. -/
theorem text?_of_shallow (shallow : c.toJson.depth ≤ 201) : c.text? = some c.toJson.write := by
  have writable : c.toJson.depth ≤ writableDepth := shallow.trans (by decide)
  rw [text?_eq, if_pos writable]

section Reading

variable [Json.Release]

theorem ofText_write (short : c.toJson.Short) (shallow : c.toJson.depth ≤ 201) :
    ofText c.toJson.write = .valid c.asRead := by
  have read := Json.readDocument?_write short shallow
  have decoded := Decoder.undoes_jobConfig c.asRead
  unfold ofText decodeText
  rw [read, asRead_toJson]
  exact decoded

/-- **A configuration within the limits is stored and read back unchanged.** Its payloads are tables, so no key repeats
in them, and their numbers have to be finite. -/
theorem exists_text_read_back (c : JobConfig) (exact : ∀ payload ∈ c.payloads, (Json.object payload).Exact)
    (shallow : c.toJson.depth ≤ 201) (short : c.toJson.Short) :
    ∃ t, c.text? = some t ∧ ofText t = .valid c := by
  refine ⟨c.toJson.write, text?_of_shallow shallow, ?_⟩
  rw [ofText_write short shallow, asRead_of_exact exact]

theorem unreadable_of_outside (outside : ¬(c.toJson.depth ≤ 201 ∧ c.toJson.Short)) :
    ¬∃ config, ofText c.toJson.write = .valid config := by
  rintro ⟨config, read⟩
  unfold ofText decodeText at read
  rw [Json.readDocument?_outside outside] at read
  cases read

/-- **A stored configuration can be read back** exactly when its document is within the limits of the reader. -/
theorem readable_iff (written : c.text? = some t) :
    (∃ config, ofText t = .valid config) ↔ c.toJson.depth ≤ 201 ∧ c.toJson.Short := by
  obtain rfl := eq_write_of_text? written
  constructor
  · intro readable
    by_contra outside
    exact unreadable_of_outside outside readable
  · rintro ⟨shallow, short⟩
    exact ⟨c.asRead, ofText_write short shallow⟩

end Reading

end JobConfig

/-! ## Configurations within and outside the limits -/

namespace Labelled

/-- A payload with two numbers and a text that needs escapes. -/
def payload : Members :=
  [("attempts", .integer 3), ("factor", .real (Double.ofFields false 1022 0)),
    ("note", .text "line one\nline \"two\" é")]

/-- A sync configuration with the payload. -/
def config : JobConfig := .sync { (default : SyncConfig) with webhooks := some payload }

theorem exact_payload : (Json.object payload).Exact := by
  refine Json.exact_object (by simp [Keyed.keys, payload]) ?_
  simp only [payload, List.forall_mem_cons]
  exact ⟨Json.exact_integer 3, Json.exact_real rfl, Json.exact_text _, nofun⟩

theorem within : config.toJson.depth ≤ 201 ∧ config.toJson.Short := by decide +kernel

theorem text? : config.text? = some config.toJson.write := JobConfig.text?_of_shallow within.1

/-- The configuration is read back unchanged. -/
theorem read_back : (∀ payload ∈ config.payloads, (Json.object payload).Exact) ∧ config.toJson.depth ≤ 201 ∧
    config.toJson.Short ∧ ∃ t, config.text? = some t ∧ JobConfig.ofText t = .valid config := by
  have exact : ∀ payload ∈ config.payloads, (Json.object payload).Exact := fun other inside => by
    obtain rfl : other = payload := List.mem_singleton.mp inside
    exact exact_payload
  exact ⟨exact, within.1, within.2, JobConfig.exists_text_read_back config exact within.1 within.2⟩

/-- The stored configuration is readable. -/
theorem readable : config.text? = some config.toJson.write ∧
    ∃ other, JobConfig.ofText config.toJson.write = .valid other :=
  ⟨text?, (JobConfig.readable_iff text?).mpr within⟩

end Labelled

/-- **A configuration is stored and lost**: nothing in its payloads can change, and its document nests no more than 201
containers, but it cannot be read back. -/
def JobConfig.IsLost (c : JobConfig) : Prop :=
  (∀ payload ∈ c.payloads, (Json.object payload).Exact) ∧ c.toJson.nesting ≤ 201 ∧
    ∃ t, c.text? = some t ∧ ∀ other, JobConfig.ofText t ≠ .valid other

theorem JobConfig.isLost_of_outside {c : JobConfig} (exact : ∀ payload ∈ c.payloads, (Json.object payload).Exact)
    (shallow : c.toJson.nesting ≤ 201) (outside : ¬(c.toJson.depth ≤ 201 ∧ c.toJson.Short)) : c.IsLost := by
  have low : c.toJson.depth ≤ c.toJson.nesting + 1 := c.toJson.height_le_nesting 1
  have writable : c.toJson.depth ≤ writableDepth := low.trans ((Nat.succ_le_succ shallow).trans (by decide))
  refine ⟨exact, shallow, c.toJson.write, ?_, fun other read => unreadable_of_outside outside ⟨other, read⟩⟩
  rw [text?_eq, if_pos writable]

namespace LongCount

/-- A sync configuration whose payload holds a power of ten. -/
def config (k : Nat) : JobConfig :=
  .sync { (default : SyncConfig) with webhooks := some [("count", .integer ((10 ^ k : Nat) : Int))] }

theorem exact_payload (n : Int) : (Json.object [("count", .integer n)]).Exact := by
  refine Json.exact_object (List.pairwise_singleton _ _) fun member inside => ?_
  obtain rfl := List.mem_singleton.mp inside
  exact Json.exact_integer n

theorem long {k : Nat} (h : Json.wholeDigitLimit ≤ k) : ¬(config k).toJson.Short := by
  intro short
  have payload : (Json.object [("count", .integer ((10 ^ k : Nat) : Int))]).Short :=
    Json.short_object.mp short ("webhook_operation_configs", _) (List.mem_append_right _ List.mem_cons_self)
  have count : (Json.integer ((10 ^ k : Nat) : Int)).Short :=
    Json.short_object.mp payload ("count", _) List.mem_cons_self
  exact Json.not_fitsReader_pow h (Json.short_integer.mp count)

/-- A number with more digits than the reader takes is lost, with the configuration that holds it. -/
theorem isLost : (config Json.wholeDigitLimit).IsLost := by
  refine JobConfig.isLost_of_outside (fun payload inside => ?_) (by decide +kernel) fun within =>
    long (Nat.le_refl _) within.2
  obtain rfl := List.mem_singleton.mp inside
  exact exact_payload _

end LongCount

namespace DeepPayload

/-- A sync configuration whose payload holds nested arrays. -/
def config (n : Nat) : JobConfig :=
  .sync { (default : SyncConfig) with webhooks := some [("deep", Json.nested n)] }

theorem exact_payload (n : Nat) : (Json.object [("deep", Json.nested n)]).Exact :=
  Json.exact_object (List.pairwise_singleton _ _) (List.forall_mem_singleton.mpr (Json.exact_nested n))

/-- A document that nests two hundred and one containers, the innermost of them around a value, is one level too
deep. -/
theorem isLost : (config 199).IsLost := by
  have deep : 201 < (config 199).toJson.depth := by decide +kernel
  refine JobConfig.isLost_of_outside (fun payload inside => ?_) (by decide +kernel) fun within =>
    absurd within.1 (Nat.not_le.mpr deep)
  obtain rfl := List.mem_singleton.mp inside
  exact exact_payload 199

/-- **A configuration is stored that cannot be read back**: two hundred nested arrays make a document that may be
written, and that is too deep to be read. -/
theorem exists_stored_unreadable :
    ∃ t, (config 200).text? = some t ∧ ¬∃ other, JobConfig.ofText t = .valid other := by
  have between : (config 200).toJson.depth ≤ writableDepth ∧ 201 < (config 200).toJson.depth := by decide +kernel
  have written : (config 200).text? = some (config 200).toJson.write := by
    rw [JobConfig.text?_eq, if_pos between.1]
  exact ⟨_, written, JobConfig.unreadable_of_outside fun within => absurd within.1 (Nat.not_le.mpr between.2)⟩

end DeepPayload

/-- **Both limits lose configurations**: one with a long number, and one with a deep payload. -/
theorem exists_lost : (LongCount.config Json.wholeDigitLimit).IsLost ∧ (DeepPayload.config 199).IsLost :=
  ⟨LongCount.isLost, DeepPayload.isLost⟩

end ConnectionJobs
