import ConnectionJobs.Proofs.Job.RoundTrip
import ConnectionJobs.Proofs.Json.Grammar

/-!
# The normal form of a stored configuration

A configuration can be stored by hand, or by a program that writes its documents differently: with members in another
order, with integers as texts, with identifiers in capitals, with members that nobody reads. Whatever the document was,
storing what has been read from it gives a document that is read again, and storing that one changes nothing any more.

Two things could prevent it. What is stored could be too large to be read again. But all that a decoder takes over as it
stands are *payloads*, which have been read themselves and keep their place in the document, and the integers it makes,
whatever they are made of, have few enough digits. And what is read again could be written differently. But the only
numbers that change are those that are not finite, which are written as `null` to begin with, and no keys are left to be
settled.
-/

namespace ConnectionJobs

open Decoder (Makes Each Inside makes_record makes_members makes_items makes_required makes_withDefault
  makes_omissible)
open Checked (Gives gives_map gives_ap gives_under)

/-! ## Documents that can be read -/

namespace Json

variable [Release] {limit : Nat}

theorem readable_null : null.Readable (limit + 1) := by
  refine ⟨Nat.le_add_left 1 limit, fun members part => ?_, fun n part => ?_⟩ <;> cases part

theorem readable_boolean (b : Bool) : (boolean b).Readable (limit + 1) := by
  refine ⟨Nat.le_add_left 1 limit, fun members part => ?_, fun n part => ?_⟩ <;> cases part

theorem readable_text (s : String) : (text s).Readable (limit + 1) := by
  refine ⟨Nat.le_add_left 1 limit, fun members part => ?_, fun n part => ?_⟩ <;> cases part

theorem readable_integer {n : Int} (short : FitsReader Release.countsSign n) : (integer n).Readable (limit + 1) := by
  refine ⟨Nat.le_add_left 1 limit, fun members part => ?_, short_integer.mpr short⟩
  cases part

theorem readable_array {items : List Json} :
    (array items).Readable (limit + 1) ↔ ∀ item ∈ items, item.Readable limit := by
  constructor
  · intro readable item inside
    exact ⟨height_array_le.mp readable.shallow item inside,
      distinct_array.mp readable.distinct item inside, short_array.mp readable.short item inside⟩
  · intro each
    exact ⟨height_array_le.mpr fun item inside => (each item inside).shallow,
      distinct_array.mpr fun item inside => (each item inside).distinct,
      short_array.mpr fun item inside => (each item inside).short⟩

theorem readable_object {members : Members} :
    (object members).Readable (limit + 1) ↔ (Keyed.keys members).Nodup ∧ Each (Readable limit) members := by
  constructor
  · intro readable
    obtain ⟨keys, values⟩ := distinct_object.mp readable.distinct
    exact ⟨keys, fun member inside =>
      ⟨height_object_le.mp readable.shallow member inside, values member inside,
        short_object.mp readable.short member inside⟩⟩
  · rintro ⟨keys, each⟩
    exact ⟨height_object_le.mpr fun member inside => (each member inside).shallow,
      distinct_object.mpr ⟨keys, fun member inside => (each member inside).distinct⟩,
      short_object.mpr fun member inside => (each member inside).short⟩

/-- What is inside a value that can be read has a level less. -/
theorem inside_readable (limit : Nat) : Inside (Readable (limit + 1)) (Readable limit) where
  items readable := readable_array.mp readable
  values readable := (readable_object.mp readable).2

theorem readable_optional {α : Type} {encode : α → Json} {o : Option α}
    (each : ∀ a, o = some a → (encode a).Readable (limit + 1)) : (optional encode o).Readable (limit + 1) := by
  cases o with
  | none => exact readable_null
  | some a => exact each a rfl

theorem readable_list {α : Type} {encode : α → Json} {l : List α} (each : ∀ a ∈ l, (encode a).Readable limit) :
    (array (l.map encode)).Readable (limit + 1) := by
  refine readable_array.mpr fun item inside => ?_
  obtain ⟨a, there, rfl⟩ := List.mem_map.mp inside
  exact each a there

end Json

open Json (Readable readable_boolean readable_text readable_integer readable_object readable_optional readable_list
  inside_readable)

section Readings

variable [Json.Release] {limit : Nat}

theorem readable_textOrNull (o : Option String) : (textOrNull o).Readable (limit + 1) :=
  readable_optional fun s _ => readable_text s

theorem Uuid.readable_toJson (u : Uuid) : u.toJson.Readable (limit + 1) := readable_text u.text

theorem Quantities.readable_toJson (q : Quantities) : q.toJson.Readable (limit + 2) := by
  refine readable_object.mpr ⟨by simp [Keyed.keys], ?_⟩
  simp only [Each, List.forall_mem_cons]
  exact ⟨readable_textOrNull _, readable_textOrNull _, readable_textOrNull _, readable_textOrNull _,
    readable_textOrNull _, readable_textOrNull _, List.forall_mem_nil _⟩

theorem Bundle.readable_toJson (b : Bundle) : b.toJson.Readable (limit + 3) := by
  have key : (Json.object [("variant", .text b.key.variant), ("sub_type", textOrNull b.key.subType)]).Readable
      (limit + 2) := by
    refine readable_object.mpr ⟨by simp [Keyed.keys], ?_⟩
    simp only [Each, List.forall_mem_cons]
    exact ⟨readable_text _, readable_textOrNull _, List.forall_mem_nil _⟩
  have quantities (q : Quantities) : q.toJson.Readable (limit + 2) := q.readable_toJson
  have optional (o : Option Quantities) : (Json.optional Quantities.toJson o).Readable (limit + 2) :=
    readable_optional fun q _ => quantities q
  refine readable_object.mpr ⟨by simp [Keyed.keys], ?_⟩
  simp only [Each, List.forall_mem_cons]
  exact ⟨key, quantities _, quantities _, quantities _, quantities _, quantities _, quantities _, optional _,
    optional _, optional _, List.forall_mem_nil _⟩

theorem StreamId.readable_toJson (s : StreamId) : s.toJson.Readable (limit + 2) := by
  refine readable_object.mpr ⟨by simp [Keyed.keys], ?_⟩
  simp only [Each, List.forall_mem_cons]
  exact ⟨readable_text _, readable_textOrNull _, List.forall_mem_nil _⟩

/-- The integers of a stream are short enough for a reader. -/
structure ConfiguredStream.Short (s : ConfiguredStream) : Prop where
  /-- The generation is. -/
  generation : ∀ n, s.generation = some n → Json.FitsReader Json.Release.countsSign n
  /-- The minimum generation is. -/
  minimumGeneration : ∀ n, s.minimumGeneration = some n → Json.FitsReader Json.Release.countsSign n
  /-- The sync identifier is. -/
  syncId : ∀ n, s.syncId = some n → Json.FitsReader Json.Release.countsSign n

theorem ConfiguredStream.readable_toJson {s : ConfiguredStream} (short : s.Short) : s.toJson.Readable (limit + 4) := by
  have texts (l : List String) : (Json.array (l.map Json.text)).Readable (limit + 3) :=
    readable_list fun s _ => readable_text s
  have paths (l : List (List String)) :
      (Json.array (l.map fun path => .array (path.map Json.text))).Readable (limit + 3) :=
    readable_list fun path _ => readable_list fun s _ => readable_text s
  refine readable_object.mpr ⟨by simp [Keyed.keys], ?_⟩
  simp only [Each, List.forall_mem_cons]
  exact ⟨s.stream.readable_toJson, readable_text _, readable_text _, texts _, paths _,
    readable_optional fun n h => readable_integer (short.generation n h),
    readable_optional fun n h => readable_integer (short.minimumGeneration n h),
    readable_optional fun n h => readable_integer (short.syncId n h), List.forall_mem_nil _⟩

theorem Catalog.readable_toJson {c : Catalog} (short : ∀ s ∈ c.streams, s.Short) : c.toJson.Readable (limit + 6) := by
  refine readable_object.mpr ⟨by simp [Keyed.keys], ?_⟩
  simp only [Each, List.forall_mem_cons]
  exact ⟨readable_list fun s inside => ConfiguredStream.readable_toJson (short s inside), List.forall_mem_nil _⟩

/-- The payload of an operation can be read, if it has one. -/
def Operation.Readable (limit : Nat) (o : Operation) : Prop :=
  ∀ payload, o.configuration = some payload → (Json.object payload).Readable limit

theorem Operation.readable_toJson {o : Operation} (readable : o.Readable (limit + 1)) :
    o.toJson.Readable (limit + 2) := by
  refine readable_object.mpr ⟨by simp [Keyed.keys], ?_⟩
  simp only [Each, List.forall_mem_cons]
  exact ⟨o.operationId.readable_toJson, readable_text _, readable_text _,
    readable_optional fun u _ => u.readable_toJson, readable_optional readable, List.forall_mem_nil _⟩

/-- **A configuration that can be read**: its integers are short, and its payloads can be read where they stand. -/
structure JobConfig.Readable (c : JobConfig) : Prop where
  /-- The payloads of its operations stand under the object, its array of operations and an operation. -/
  operations : ∀ o ∈ c.operations, o.Readable 198
  /-- The integers of its streams are short. -/
  streams : ∀ s ∈ c.catalog.streams, s.Short
  /-- The payload for webhooks stands under the object. -/
  webhooks : ∀ payload, c.webhooks = some payload → (Json.object payload).Readable 200

theorem readable_operations {operations : List Operation} (each : ∀ o ∈ operations, o.Readable 198) :
    (Json.array (operations.map Operation.toJson)).Readable 200 :=
  readable_list fun o inside => Operation.readable_toJson (each o inside)

theorem readable_streams (streams : List StreamId) : (Json.array (streams.map StreamId.toJson)).Readable 200 :=
  readable_list fun s _ => s.readable_toJson

theorem SyncConfig.readable_commonMembers {c : SyncConfig} (operations : ∀ o ∈ c.operations, o.Readable 198)
    (streams : ∀ s ∈ c.catalog.streams, s.Short) : Each (Json.Readable 200) c.commonMembers := by
  unfold commonMembers
  simp only [Each, List.forall_mem_cons]
  exact ⟨readable_text _, readable_textOrNull _, readable_textOrNull _, readable_text _, readable_text _,
    readable_text _, readable_text _, readable_operations operations, Catalog.readable_toJson streams,
    c.resources.readable_toJson, readable_boolean _, readable_boolean _, Uuid.readable_toJson _,
    Uuid.readable_toJson _, Uuid.readable_toJson _, List.forall_mem_nil _⟩

/-- **The document of a configuration that can be read can be read.** -/
theorem JobConfig.readable_toJson {c : JobConfig} (readable : c.Readable) : c.toJson.Readable 201 := by
  obtain ⟨operations, streams, webhooks⟩ := readable
  cases c with
  | sync c =>
    have common := SyncConfig.readable_commonMembers operations streams
    refine readable_object.mpr ⟨by simp [Keyed.keys, SyncConfig.commonMembers], ?_⟩
    refine List.forall_mem_append.mpr ⟨common, ?_⟩
    simp only [List.forall_mem_cons]
    exact ⟨readable_optional webhooks, readable_text _, List.forall_mem_nil _⟩
  | refresh c =>
    have common := SyncConfig.readable_commonMembers (c := c.toSyncConfig) operations streams
    refine readable_object.mpr ⟨by simp [Keyed.keys, SyncConfig.commonMembers], ?_⟩
    refine List.forall_mem_append.mpr ⟨common, ?_⟩
    simp only [List.forall_mem_cons]
    exact ⟨readable_streams _, readable_optional webhooks, readable_text _, List.forall_mem_nil _⟩
  | reset c =>
    refine readable_object.mpr ⟨by simp [Keyed.keys], ?_⟩
    simp only [Each, List.forall_mem_cons]
    exact ⟨readable_text _, readable_textOrNull _, readable_textOrNull _, readable_text _, readable_text _,
      readable_operations operations, Catalog.readable_toJson streams, Quantities.readable_toJson _,
      c.resources.readable_toJson, readable_streams _, readable_boolean _, Uuid.readable_toJson _,
      Uuid.readable_toJson _, readable_boolean _, readable_text _, List.forall_mem_nil _⟩

/-! ## What is decoded can be read -/

namespace Decoder

/-- Digits that are taken for a number are few enough, with the sign before them. -/
theorem short_of_plainDigits {negative : Bool} {cs : List Char} {n : Nat} (given : (plainDigits negative cs).Gives n) :
    Json.wholeLength Json.Release.countsSign negative (Nat.toDigits 10 n) ≤ Json.wholeDigitLimit := by
  unfold plainDigits at given
  split at given
  · exact nomatch given
  · cases given
    exact (Json.wholeLength_le_succ _ _ _).trans (by decide)
  · exact nomatch given
  · rw [List.span_eq_takeWhile_dropWhile] at given
    dsimp only at given
    split_ifs at given with long rest
    · exact nomatch given
    · exact nomatch given
    · cases given
      have digits : ∀ c ∈ List.takeWhile isAsciiDigit cs, Json.isDigit c = true := fun c => List.mem_takeWhile_imp
      have nonempty : 0 < (List.takeWhile isAsciiDigit cs).length := List.length_pos_iff.mpr fun none => by
        rw [none] at rest
        exact rest rfl
      have fewer := (Nat.length_toDigits_le_iff (b := 10) (by decide) nonempty).mpr (Json.digitsValue_lt digits)
      exact (Nat.add_le_add_right fewer _).trans (Nat.not_lt.mp long)

theorem fitsReader_of_integerText {s : String} {n : Int} (given : (integerText s).Gives n) :
    Json.FitsReader Json.Release.countsSign n := by
  unfold integerText at given
  split at given
  · exact nomatch given
  · obtain ⟨k, plain, rfl⟩ := gives_map.mp given
    refine Json.fitsReader_of_length (fun _ => rfl) ?_
    rw [Int.natAbs_neg]
    exact short_of_plainDigits plain
  · obtain ⟨k, plain, rfl⟩ := gives_map.mp given
    exact Json.fitsReader_of_length (fun below => absurd below (Int.not_lt.mpr (Int.natCast_nonneg k)))
      (short_of_plainDigits plain)

theorem fitsReader_of_integerDouble {x : Double} {n : Int} (given : (integerDouble x).Gives n) :
    Json.FitsReader Json.Release.countsSign n := by
  unfold integerDouble at given
  split_ifs at given with infinite fraction large
  · exact nomatch given
  · exact nomatch given
  · exact nomatch given
  · cases given
    have small : x.integerPart.natAbs < 10 ^ 19 := (Nat.not_le.mp large).trans (by decide)
    exact Json.fitsReader_of_lt small (by decide) (by decide)

/-- **Whatever an integer is made of, it is short.** -/
theorem makes_integer : Makes (Json.Readable limit) integer (Json.FitsReader Json.Release.countsSign) := by
  intro json readable n given
  cases json with
  | integer m =>
    cases given
    exact Json.short_integer.mp readable.short
  | boolean b =>
    cases given
    cases b <;> exact Json.fitsReader_of_lt (k := 1) (by decide) (by decide) (by decide)
  | real x => exact fitsReader_of_integerDouble given
  | text s => exact fitsReader_of_integerText given
  | _ => exact nomatch given

theorem makes_configuredStream : Makes (Json.Readable (limit + 1)) configuredStream ConfiguredStream.Short := by
  refine makes_record (inside_readable limit) fun ms each s given => ?_
  obtain ⟨_, _, seven, syncId, rfl⟩ := gives_ap.mp given
  obtain ⟨_, _, six, minimumGeneration, rfl⟩ := gives_ap.mp seven
  obtain ⟨_, _, five, generation, rfl⟩ := gives_ap.mp six
  obtain ⟨_, _, four, -, rfl⟩ := gives_ap.mp five
  obtain ⟨_, _, three, -, rfl⟩ := gives_ap.mp four
  obtain ⟨_, _, two, -, rfl⟩ := gives_ap.mp three
  obtain ⟨_, _, one, -, rfl⟩ := gives_ap.mp two
  obtain ⟨_, -, rfl⟩ := gives_map.mp one
  exact ⟨makes_omissible each makes_integer generation, makes_omissible each makes_integer minimumGeneration,
    makes_omissible each makes_integer syncId⟩

theorem makes_catalog : Makes (Json.Readable (limit + 3)) catalog fun c => ∀ s ∈ c.streams, s.Short := by
  refine makes_record (inside_readable _) fun ms each c given => ?_
  obtain ⟨_, streams, rfl⟩ := gives_map.mp given
  have streams_of : Makes (Json.Readable (limit + 2)) (items configuredStream) fun l => ∀ s ∈ l, s.Short :=
    makes_items (inside_readable _) makes_configuredStream
  exact makes_withDefault each streams_of (fun _ h => absurd h List.not_mem_nil) streams

theorem makes_operation : Makes (Json.Readable (limit + 1)) operation (Operation.Readable limit) := by
  refine makes_record (inside_readable limit) fun ms each o given => ?_
  obtain ⟨_, _, four, configuration, rfl⟩ := gives_ap.mp given
  obtain ⟨_, _, three, -, rfl⟩ := gives_ap.mp four
  obtain ⟨_, _, two, -, rfl⟩ := gives_ap.mp three
  obtain ⟨_, _, one, -, rfl⟩ := gives_ap.mp two
  obtain ⟨_, -, rfl⟩ := gives_map.mp one
  exact makes_omissible each makes_members configuration

section Configurations

variable {ms : Members} (each : Each (Json.Readable 200) ms)
include each

theorem readable_operationSequence {operations : List Operation}
    (given : (required "operation_sequence" (items operation) ms).Gives operations) :
    ∀ o ∈ operations, o.Readable 198 :=
  makes_required each (makes_items (inside_readable 199) makes_operation) given

theorem short_configuredCatalog {c : Catalog} (given : (required "configured_catalog" catalog ms).Gives c) :
    ∀ s ∈ c.streams, s.Short :=
  makes_required each makes_catalog given

theorem readable_webhooks {webhooks : Option Members}
    (given : (omissible "webhook_operation_configs" members ms).Gives webhooks) :
    ∀ payload, webhooks = some payload → (Json.object payload).Readable 200 :=
  makes_omissible each makes_members given

/-- What a sync and a refresh configuration have in common, whatever the webhooks are. -/
theorem readable_syncFields {fields : Option Members → SyncConfig} (given : (syncFields ms).Gives fields)
    (webhooks : Option Members) : (∀ o ∈ (fields webhooks).operations, o.Readable 198) ∧
      (∀ s ∈ (fields webhooks).catalog.streams, s.Short) ∧ (fields webhooks).webhooks = webhooks := by
  obtain ⟨_, _, twelve, -, rfl⟩ := gives_ap.mp given
  obtain ⟨_, _, eleven, -, rfl⟩ := gives_ap.mp twelve
  obtain ⟨_, _, ten, -, rfl⟩ := gives_ap.mp eleven
  obtain ⟨_, _, nine, -, rfl⟩ := gives_ap.mp ten
  obtain ⟨_, _, eight, -, rfl⟩ := gives_ap.mp nine
  obtain ⟨_, _, seven, -, rfl⟩ := gives_ap.mp eight
  obtain ⟨_, _, six, catalogGiven, rfl⟩ := gives_ap.mp seven
  obtain ⟨_, _, five, operationsGiven, rfl⟩ := gives_ap.mp six
  obtain ⟨_, _, four, -, rfl⟩ := gives_ap.mp five
  obtain ⟨_, _, three, -, rfl⟩ := gives_ap.mp four
  obtain ⟨_, _, two, -, rfl⟩ := gives_ap.mp three
  obtain ⟨_, _, one, -, rfl⟩ := gives_ap.mp two
  obtain ⟨_, -, rfl⟩ := gives_map.mp one
  exact ⟨readable_operationSequence each operationsGiven, short_configuredCatalog each catalogGiven, rfl⟩

theorem readable_syncConfig {c : SyncConfig} (given : (syncConfig ms).Gives c) : (JobConfig.sync c).Readable := by
  obtain ⟨fields, webhooks, fieldsGiven, webhooksGiven, rfl⟩ := gives_ap.mp given
  obtain ⟨operations, streams, same⟩ := readable_syncFields each fieldsGiven webhooks
  exact ⟨operations, streams, fun payload held => readable_webhooks each webhooksGiven payload (same ▸ held)⟩

theorem readable_refreshConfig {c : RefreshConfig} (given : (refreshConfig ms).Gives c) :
    (JobConfig.refresh c).Readable := by
  obtain ⟨_, webhooks, two, webhooksGiven, rfl⟩ := gives_ap.mp given
  obtain ⟨_, _, one, -, rfl⟩ := gives_ap.mp two
  obtain ⟨fields, fieldsGiven, rfl⟩ := gives_map.mp one
  obtain ⟨operations, streams, same⟩ := readable_syncFields each fieldsGiven webhooks
  exact ⟨operations, streams, fun payload held => readable_webhooks each webhooksGiven payload (same ▸ held)⟩

theorem readable_resetConfig {c : ResetConfig} (given : (resetConfig ms).Gives c) :
    (JobConfig.reset c).Readable := by
  obtain ⟨_, _, twelve, -, rfl⟩ := gives_ap.mp given
  obtain ⟨_, _, eleven, -, rfl⟩ := gives_ap.mp twelve
  obtain ⟨_, _, ten, -, rfl⟩ := gives_ap.mp eleven
  obtain ⟨_, _, nine, -, rfl⟩ := gives_ap.mp ten
  obtain ⟨_, _, eight, -, rfl⟩ := gives_ap.mp nine
  obtain ⟨_, _, seven, -, rfl⟩ := gives_ap.mp eight
  obtain ⟨_, _, six, -, rfl⟩ := gives_ap.mp seven
  obtain ⟨_, _, five, catalogGiven, rfl⟩ := gives_ap.mp six
  obtain ⟨_, _, four, operationsGiven, rfl⟩ := gives_ap.mp five
  obtain ⟨_, _, three, -, rfl⟩ := gives_ap.mp four
  obtain ⟨_, _, two, -, rfl⟩ := gives_ap.mp three
  obtain ⟨_, _, one, -, rfl⟩ := gives_ap.mp two
  obtain ⟨_, -, rfl⟩ := gives_map.mp one
  exact ⟨readable_operationSequence each operationsGiven, short_configuredCatalog each catalogGiven, nofun⟩

end Configurations

/-- **A configuration that is decoded from a document that can be read can be read.** -/
theorem makes_jobConfig : Makes (Json.Readable 201) jobConfig JobConfig.Readable := by
  intro json readable c given
  cases json with
  | object ms =>
    have each : Each (Json.Readable 200) ms := (readable_object.mp readable).2
    unfold jobConfig at given
    dsimp only at given
    split at given
    · exact nomatch given
    · split at given
      · rename_i kind known
        unfold configOfKind at given
        cases kind with
        | sync =>
          obtain ⟨_, fields, rfl⟩ := gives_map.mp (gives_under.mp given)
          exact readable_syncConfig each fields
        | refresh =>
          obtain ⟨_, fields, rfl⟩ := gives_map.mp (gives_under.mp given)
          exact readable_refreshConfig each fields
        | reset =>
          obtain ⟨_, fields, rfl⟩ := gives_map.mp (gives_under.mp given)
          exact readable_resetConfig each fields
      · exact nomatch given
    · exact nomatch given
  | _ => exact nomatch given

end Decoder

/-! ## Storing what has been read -/

namespace JobConfig

variable {c : JobConfig} {p : String}

theorem readable_of_ofText (read : ofText p = .valid c) : c.Readable := by
  unfold ofText decodeText at read
  split at read
  · rename_i document found
    exact Decoder.makes_jobConfig document (Json.readable_of_readDocument? found) c read
  · exact nomatch read

/-- What is read from a stored configuration is stored as the same text. -/
theorem text?_asRead (readable : c.Readable) : c.asRead.text? = c.text? := by
  have document := readable_toJson readable
  have same : c.asRead.toJson = c.toJson.written := by
    rw [← asRead_toJson, Json.asRead_of_distinct document.distinct]
  have shallow : c.asRead.toJson.depth ≤ 201 := by
    rw [same, Json.depth, Json.height_written]
    exact document.shallow
  rw [text?_of_shallow shallow, text?_of_shallow document.shallow, same, Json.write_written]

/-- A configuration is what is decoded from the document that is read. -/
theorem ofText_of_read {v : Json} (read : Json.readDocument? p = some v) : ofText p = Decoder.jobConfig v := by
  unfold ofText decodeText
  rw [read]

/-- **Storing what has been read is a normal form.** A configuration that is read from a document, of whatever form, can
be stored. Its text is read again, as a configuration of the same kind in which only the numbers of payloads that are
not finite have changed, and that one is stored as the same text. -/
theorem normal_form (read : ofText p = .valid c) :
    ∃ t, c.text? = some t ∧ ofText t = .valid c.asRead ∧ c.asRead.kind = c.kind ∧ c.asRead.text? = some t := by
  have readable := readable_of_ofText read
  have document := readable_toJson readable
  have stored := text?_of_shallow document.shallow
  exact ⟨c.toJson.write, stored, ofText_write document.short document.shallow, kind_asRead c,
    (text?_asRead readable).trans stored⟩

end JobConfig

end Readings

namespace HandWritten

/-- Resources that leave out all that may be left out. -/
def bundle : Json :=
  .object [("heartbeat", .object []), ("destination_stderr", .object []), ("destination_stdout", .object []),
    ("destination_stdin", .object []), ("destination", .object [("cpu_limit", .text "1")]),
    ("orchestrator", .object []), ("config_key", .object [("variant", .text "default")])]

/-- A stream with a truth value, a text and a real for its integers. -/
def stream : Json :=
  .object [("generation_id", .boolean true), ("minimum_generation_id", .text " +0012.0 "),
    ("sync_id", .real (Double.ofFields false 1025 0)), ("destination_sync_mode", .text "append"),
    ("sync_mode", .text "full_refresh"), ("stream", .object [("name", .text "users")])]

/-- An operation whose payload has a key twice. -/
def operation : Json :=
  .object [("operator_type", .text "webhook"), ("name", .text "ping"),
    ("operator_configuration", .object [("retries", .integer 2), ("retries", .real (Double.ofFields false 1022 0))]),
    ("operation_id", .text "urn:uuid:6ba7b810-9dad-11d1-80b4-00c04fd430c8")]

/-- A reset configuration as nobody stores it: with a member that is unknown and one that is written twice, and with
other names of a truth value and of the identifiers. -/
def document : Json :=
  .object [("written_by", .text "hand"), ("config_type", .text "reset_connection"),
    ("is_destination_custom_connector", .text "YES"), ("prefix", .null), ("namespace_format", .null),
    ("namespace_definition", .text "source"),
    ("workspace_id", .text "\x7b6ba7b810-9dad-11d1-80b4-00c04fd430c8\x7d"),
    ("destination_definition_version_id", .text "6BA7B8109DAD11D180B400C04FD430C8"),
    ("sync_resource_requirements", bundle), ("resource_requirements", .object []),
    ("destination_protocol_version", .text "0.2.0"), ("destination_docker_image", .text "destination:1"),
    ("streams_to_reset", .array [.object [("name", .text "users")]]), ("operation_sequence", .null),
    ("configured_catalog", .object [("streams", .array [stream])]), ("operation_sequence", .array [operation])]

/-- What is read from it can be stored, and is stored the same from then on. -/
theorem settles : ∃ c, JobConfig.ofText document.write = .valid c ∧ ∃ t, c.text? = some t ∧
    JobConfig.ofText t = .valid c.asRead ∧ c.asRead.kind = c.kind ∧ c.asRead.text? = some t := by
  have within : document.depth ≤ 201 ∧ document.Short := by decide +kernel
  have accepted : (Decoder.jobConfig document.asRead).value?.isSome = true := by decide +kernel
  obtain ⟨c, made⟩ := Option.isSome_iff_exists.mp accepted
  have read : JobConfig.ofText document.write = .valid c :=
    (JobConfig.ofText_of_read (Json.readDocument?_write within.2 within.1)).trans (Gives.of_value? made)
  exact ⟨c, read, JobConfig.normal_form read⟩

end HandWritten

end ConnectionJobs
