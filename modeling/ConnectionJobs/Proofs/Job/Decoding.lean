import ConnectionJobs.Job.Decoding
import ConnectionJobs.Job.Encoding
import ConnectionJobs.Proofs.Text.Digit
import ConnectionJobs.Proofs.Validation.Decoder

/-!
# Decoders that undo encodings

Every part of a job configuration is decoded from the value it is encoded as, and this is so whatever the part is: no
field of a configuration is left out, read from the wrong member, or changed on the way.
-/

namespace ConnectionJobs

/-- The members an object holds; a value that is no object holds none. -/
def Json.heldMembers : Json → Members
  | .object ms => ms
  | _ => []

namespace Decoder

open Checked (Gives)

section Combinators

variable {α : Type} {decode : Decoder α} {encode : α → Json}

/-- **A decoder undoes an encoding.** -/
def Undoes (decode : Decoder α) (encode : α → Json) : Prop := ∀ a, (decode (encode a)).Gives a

theorem undoes_text : Undoes text Json.text := fun _ => rfl

theorem undoes_integer [Json.Release] : Undoes integer Json.integer := fun _ => rfl

theorem undoes_boolean : Undoes boolean Json.boolean := fun _ => rfl

theorem undoes_members : Undoes members Json.object := fun _ => rfl

theorem undoes_uuid : Undoes uuid Uuid.toJson := by
  intro u
  have read := Uuid.read?_text u
  unfold Uuid.toJson Gives
  generalize u.text = s at read ⊢
  rw [uuid, read]

theorem undoes_oneOf {ofText : String → Option α} {name : α → String} (known : ∀ a, ofText (name a) = some a) :
    Undoes (oneOf ofText) fun a => .text (name a) := by
  intro a
  unfold Gives
  rw [oneOf, known]

theorem undoes_nullable (undoes : Undoes decode encode) (value : ∀ a, encode a ≠ .null) :
    Undoes (nullable decode) (Json.optional encode) := by
  intro o
  cases o with
  | none => rfl
  | some a =>
    have decoded := (undoes a).map (g := some)
    have notNull := value a
    show (nullable decode (encode a)).Gives (some a)
    generalize encode a = json at decoded notNull
    cases json with
    | null => exact absurd rfl notNull
    | _ => exact decoded

theorem undoes_items (undoes : Undoes decode encode) : Undoes (items decode) fun l => .array (l.map encode) := by
  intro l
  have from_position (position : Nat) : (itemsFrom decode position (l.map encode)).Gives l := by
    induction l generalizing position with
    | nil => rfl
    | cons a l ih => exact ((undoes a).under.map).ap (ih (position + 1))
  exact from_position 0

theorem required_of {key : String} {ms : Members} {a : α} (undoes : Undoes decode encode)
    (found : Keyed.find? key ms = some (encode a)) : (required key decode ms).Gives a := by
  unfold required
  rw [found]
  exact (undoes a).under

theorem withDefault_of {key : String} {default : α} {ms : Members} {a : α} (undoes : Undoes decode encode)
    (found : Keyed.find? key ms = some (encode a)) : (withDefault key default decode ms).Gives a := by
  unfold withDefault
  rw [found]
  exact (undoes a).under

theorem omissible_of {key : String} {ms : Members} {o : Option α} (undoes : Undoes decode encode)
    (value : ∀ a, encode a ≠ .null) (found : Keyed.find? key ms = some (Json.optional encode o)) :
    (omissible key decode ms).Gives o :=
  withDefault_of (undoes_nullable undoes value) found

end Combinators

theorem omissibleText_of {key : String} {ms : Members} {o : Option String}
    (found : Keyed.find? key ms = some (textOrNull o)) : (omissible key text ms).Gives o :=
  omissible_of undoes_text nofun found

/-! ## Resources -/

theorem undoes_quantities : Undoes quantities Quantities.toJson := by
  rintro ⟨cpuRequest, cpuLimit, memoryRequest, memoryLimit, storageRequest, storageLimit⟩
  refine Gives.ap (Gives.ap (Gives.ap (Gives.ap (Gives.ap (Gives.map (omissibleText_of rfl)) ?_) ?_) ?_) ?_) ?_
  · exact omissibleText_of rfl
  · exact omissibleText_of rfl
  · exact omissibleText_of rfl
  · exact omissibleText_of rfl
  · exact omissibleText_of rfl

theorem undoes_bundleKey : Undoes bundleKey fun key =>
    .object [("variant", .text key.variant), ("sub_type", textOrNull key.subType)] := by
  rintro ⟨variant, subType⟩
  exact Gives.ap (Gives.map (required_of undoes_text rfl)) (omissibleText_of rfl)

theorem omissibleQuantities_of {key : String} {ms : Members} {o : Option Quantities}
    (found : Keyed.find? key ms = some (Json.optional Quantities.toJson o)) : (omissible key quantities ms).Gives o :=
  omissible_of undoes_quantities nofun found

theorem undoes_bundle : Undoes bundle Bundle.toJson := by
  rintro ⟨key, orchestrator, destination, destinationStdin, destinationStdout, destinationStderr, heartbeat, source,
    sourceStdout, sourceStderr⟩
  refine Gives.ap (Gives.ap (Gives.ap (Gives.ap (Gives.ap (Gives.ap (Gives.ap (Gives.ap (Gives.ap (Gives.map
    (required_of undoes_bundleKey rfl)) ?_) ?_) ?_) ?_) ?_) ?_) ?_) ?_) ?_
  · exact required_of undoes_quantities rfl
  · exact required_of undoes_quantities rfl
  · exact required_of undoes_quantities rfl
  · exact required_of undoes_quantities rfl
  · exact required_of undoes_quantities rfl
  · exact required_of undoes_quantities rfl
  · exact omissibleQuantities_of rfl
  · exact omissibleQuantities_of rfl
  · exact omissibleQuantities_of rfl

/-! ## Catalogs and operations -/

theorem undoes_streamId : Undoes streamId StreamId.toJson := by
  rintro ⟨name, space⟩
  exact Gives.ap (Gives.map (required_of undoes_text rfl)) (omissibleText_of rfl)

theorem omissibleInteger_of [Json.Release] {key : String} {ms : Members} {o : Option Int}
    (found : Keyed.find? key ms = some (Json.optional Json.integer o)) : (omissible key integer ms).Gives o :=
  omissible_of undoes_integer nofun found

theorem undoes_configuredStream [Json.Release] : Undoes configuredStream ConfiguredStream.toJson := by
  rintro ⟨stream, syncMode, destinationMode, cursorField, primaryKey, generation, minimumGeneration, syncId⟩
  refine Gives.ap (Gives.ap (Gives.ap (Gives.ap (Gives.ap (Gives.ap (Gives.ap (Gives.map
    (required_of undoes_streamId rfl)) ?_) ?_) ?_) ?_) ?_) ?_) ?_
  · exact required_of (undoes_oneOf SyncMode.ofName?_name) rfl
  · exact required_of (undoes_oneOf DestinationMode.ofName?_name) rfl
  · exact withDefault_of (undoes_items undoes_text) rfl
  · exact withDefault_of (undoes_items (undoes_items undoes_text)) rfl
  · exact omissibleInteger_of rfl
  · exact omissibleInteger_of rfl
  · exact omissibleInteger_of rfl

theorem undoes_catalog [Json.Release] : Undoes catalog Catalog.toJson := by
  rintro ⟨streams⟩
  exact Gives.map (withDefault_of (undoes_items undoes_configuredStream) rfl)

theorem omissibleMembers_of {key : String} {ms : Members} {o : Option Members}
    (found : Keyed.find? key ms = some (Json.optional Json.object o)) : (omissible key members ms).Gives o :=
  omissible_of undoes_members nofun found

theorem undoes_operation : Undoes operation Operation.toJson := by
  rintro ⟨operationId, name, operatorType, workspaceId, configuration⟩
  refine Gives.ap (Gives.ap (Gives.ap (Gives.ap (Gives.map (required_of undoes_uuid rfl)) ?_) ?_) ?_) ?_
  · exact required_of undoes_text rfl
  · exact required_of undoes_text rfl
  · exact omissible_of undoes_uuid nofun rfl
  · exact omissibleMembers_of rfl

/-! ## Configurations -/

section Configurations

variable {key : String} {ms : Members}

theorem image_of {imageKey versionKey : String} {image : ConnectorImage}
    (dockerImage : Keyed.find? imageKey ms = some (.text image.dockerImage))
    (protocolVersion : Keyed.find? versionKey ms = some (.text image.protocolVersion)) :
    (Decoder.image imageKey versionKey ms).Gives image :=
  Gives.ap (Gives.map (required_of undoes_text dockerImage)) (required_of undoes_text protocolVersion)

theorem nullableText_of {o : Option String} (found : Keyed.find? key ms = some (textOrNull o)) :
    (required key (nullable text) ms).Gives o :=
  required_of (undoes_nullable undoes_text nofun) found

theorem policy_of {policy : NamespacePolicy} (found : Keyed.find? key ms = some (.text policy.name)) :
    (required key (oneOf NamespacePolicy.ofName?) ms).Gives policy :=
  required_of (undoes_oneOf NamespacePolicy.ofName?_name) found

theorem operations_of {operations : List Operation}
    (found : Keyed.find? key ms = some (.array (operations.map Operation.toJson))) :
    (required key (items operation) ms).Gives operations :=
  required_of (undoes_items undoes_operation) found

theorem streams_of {streams : List StreamId}
    (found : Keyed.find? key ms = some (.array (streams.map StreamId.toJson))) :
    (required key (items streamId) ms).Gives streams :=
  required_of (undoes_items undoes_streamId) found

variable [Json.Release]

/-- What a sync and a refresh configuration have in common is decoded whatever members come after it. -/
theorem syncFields_of (c : SyncConfig) (rest : Members) :
    (syncFields (c.commonMembers ++ rest)).Gives fun webhooks => { c with webhooks := webhooks } := by
  obtain ⟨policy, format, streamPrefix, sourceImage, destinationImage, operations, streams, resources, customSource,
    customDestination, workspaceId, sourceVersionId, destinationVersionId, webhooks⟩ := c
  refine Gives.ap (Gives.ap (Gives.ap (Gives.ap (Gives.ap (Gives.ap (Gives.ap (Gives.ap (Gives.ap (Gives.ap (Gives.ap
    (Gives.ap (Gives.map (policy_of rfl)) ?_) ?_) ?_) ?_) ?_) ?_) ?_) ?_) ?_) ?_) ?_) ?_
  · exact nullableText_of rfl
  · exact nullableText_of rfl
  · exact image_of rfl rfl
  · exact image_of rfl rfl
  · exact operations_of rfl
  · exact required_of undoes_catalog rfl
  · exact required_of undoes_bundle rfl
  · exact required_of undoes_boolean rfl
  · exact required_of undoes_boolean rfl
  · exact required_of undoes_uuid rfl
  · exact required_of undoes_uuid rfl
  · exact required_of undoes_uuid rfl

theorem syncConfig_of (c : SyncConfig) : (syncConfig c.toJson.heldMembers).Gives c :=
  Gives.ap (syncFields_of c _) (omissibleMembers_of rfl)

theorem refreshConfig_of (c : RefreshConfig) : (refreshConfig c.toJson.heldMembers).Gives c := by
  have fields : (syncFields c.toJson.heldMembers).Gives fun webhooks => { c.toSyncConfig with webhooks := webhooks } :=
    syncFields_of c.toSyncConfig _
  exact Gives.ap (Gives.ap (Gives.map fields) (streams_of rfl)) (omissibleMembers_of rfl)

theorem resetConfig_of (c : ResetConfig) : (resetConfig c.toJson.heldMembers).Gives c := by
  obtain ⟨policy, format, streamPrefix, destinationImage, operations, streams, orchestratorQuantities, resources,
    streamsToReset, customDestination, workspaceId, destinationVersionId, customSource⟩ := c
  refine Gives.ap (Gives.ap (Gives.ap (Gives.ap (Gives.ap (Gives.ap (Gives.ap (Gives.ap (Gives.ap (Gives.ap (Gives.ap
    (Gives.ap (Gives.map (policy_of rfl)) ?_) ?_) ?_) ?_) ?_) ?_) ?_) ?_) ?_) ?_) ?_) ?_
  · exact nullableText_of rfl
  · exact nullableText_of rfl
  · exact image_of rfl rfl
  · exact operations_of rfl
  · exact required_of undoes_catalog rfl
  · exact required_of undoes_quantities rfl
  · exact required_of undoes_bundle rfl
  · exact streams_of rfl
  · exact required_of undoes_boolean rfl
  · exact required_of undoes_uuid rfl
  · exact required_of undoes_uuid rfl
  · exact withDefault_of undoes_boolean rfl

/-- The member that tells the kind sends a document to the decoder of its kind. -/
theorem jobConfig_object (kind : JobKind) (found : Keyed.find? "config_type" ms = some (.text kind.name)) :
    jobConfig (.object ms) = configOfKind kind ms := by
  unfold jobConfig
  dsimp only
  rw [found]
  dsimp only
  rw [JobKind.ofName?_name]

/-- **Every configuration is decoded from its document.** -/
theorem undoes_jobConfig : Undoes jobConfig JobConfig.toJson := by
  intro c
  cases c with
  | sync c =>
    have decoded : (configOfKind .sync c.toJson.heldMembers).Gives (.sync c) := ((syncConfig_of c).map).under
    show (jobConfig (.object c.toJson.heldMembers)).Gives (.sync c)
    rwa [jobConfig_object .sync rfl]
  | refresh c =>
    have decoded : (configOfKind .refresh c.toJson.heldMembers).Gives (.refresh c) := ((refreshConfig_of c).map).under
    show (jobConfig (.object c.toJson.heldMembers)).Gives (.refresh c)
    rwa [jobConfig_object .refresh rfl]
  | reset c =>
    have decoded : (configOfKind .reset c.toJson.heldMembers).Gives (.reset c) := ((resetConfig_of c).map).under
    show (jobConfig (.object c.toJson.heldMembers)).Gives (.reset c)
    rwa [jobConfig_object .reset rfl]

end Configurations

end Decoder

end ConnectionJobs
