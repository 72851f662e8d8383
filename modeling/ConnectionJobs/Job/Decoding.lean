import ConnectionJobs.Job.Config
import ConnectionJobs.Json.Reader
import ConnectionJobs.Validation.Scalar

/-!
# Reading job configurations

A stored configuration is read back from its document. The kind of job tells which members to expect; members
that are not expected are ignored. Every member is checked and all problems are reported, each with the kind of
job at the front of its path.
-/

namespace ConnectionJobs.Decoder

/-- Quantities, each of which may be absent or null. -/
def quantities : Decoder Quantities :=
  record fun ms =>
    Quantities.mk
      <$> omissible "cpu_request" text ms
      <*> omissible "cpu_limit" text ms
      <*> omissible "memory_request" text ms
      <*> omissible "memory_limit" text ms
      <*> omissible "ephemeral_storage_request" text ms
      <*> omissible "ephemeral_storage_limit" text ms

/-- The key of a bundle. -/
def bundleKey : Decoder BundleKey :=
  record fun ms => BundleKey.mk <$> required "variant" text ms <*> omissible "sub_type" text ms

/-- A bundle. -/
def bundle : Decoder Bundle :=
  record fun ms =>
    Bundle.mk
      <$> required "config_key" bundleKey ms
      <*> required "orchestrator" quantities ms
      <*> required "destination" quantities ms
      <*> required "destination_stdin" quantities ms
      <*> required "destination_stdout" quantities ms
      <*> required "destination_stderr" quantities ms
      <*> required "heartbeat" quantities ms
      <*> omissible "source" quantities ms
      <*> omissible "source_stdout" quantities ms
      <*> omissible "source_stderr" quantities ms

/-- A stream identity. -/
def streamId : Decoder StreamId :=
  record fun ms => StreamId.mk <$> required "name" text ms <*> omissible "namespace" text ms

section

variable [Json.Release]

/-- A configured stream. -/
def configuredStream : Decoder ConfiguredStream :=
  record fun ms =>
    ConfiguredStream.mk
      <$> required "stream" streamId ms
      <*> required "sync_mode" (oneOf SyncMode.ofName?) ms
      <*> required "destination_sync_mode" (oneOf DestinationMode.ofName?) ms
      <*> withDefault "cursor_field" [] (items text) ms
      <*> withDefault "primary_key" [] (items (items text)) ms
      <*> omissible "generation_id" integer ms
      <*> omissible "minimum_generation_id" integer ms
      <*> omissible "sync_id" integer ms

/-- A catalog. -/
def catalog : Decoder Catalog :=
  record fun ms => Catalog.mk <$> withDefault "streams" [] (items configuredStream) ms

/-- An operation. -/
def operation : Decoder Operation :=
  record fun ms =>
    Operation.mk
      <$> required "operation_id" uuid ms
      <*> required "name" text ms
      <*> required "operator_type" text ms
      <*> omissible "workspace_id" uuid ms
      <*> omissible "operator_configuration" members ms

/-- The image of one side of a connection, from its two members. -/
def image (imageKey versionKey : String) (ms : Members) : Checked ConnectorImage :=
  ConnectorImage.mk <$> required imageKey text ms <*> required versionKey text ms

/-- A sync configuration, with everything but the webhooks, which the caller decodes. -/
def syncFields (ms : Members) : Checked (Option Members → SyncConfig) :=
  SyncConfig.mk
    <$> required "namespace_definition" (oneOf NamespacePolicy.ofName?) ms
    <*> required "namespace_format" (nullable text) ms
    <*> required "prefix" (nullable text) ms
    <*> image "source_docker_image" "source_protocol_version" ms
    <*> image "destination_docker_image" "destination_protocol_version" ms
    <*> required "operation_sequence" (items operation) ms
    <*> required "configured_catalog" catalog ms
    <*> required "sync_resource_requirements" bundle ms
    <*> required "is_source_custom_connector" boolean ms
    <*> required "is_destination_custom_connector" boolean ms
    <*> required "workspace_id" uuid ms
    <*> required "source_definition_version_id" uuid ms
    <*> required "destination_definition_version_id" uuid ms

/-- A sync configuration. -/
def syncConfig (ms : Members) : Checked SyncConfig :=
  syncFields ms <*> omissible "webhook_operation_configs" members ms

/-- A refresh configuration. -/
def refreshConfig (ms : Members) : Checked RefreshConfig :=
  (fun fields streams webhooks => RefreshConfig.mk (fields webhooks) streams)
    <$> syncFields ms
    <*> required "streams_to_refresh" (items streamId) ms
    <*> omissible "webhook_operation_configs" members ms

/-- A reset configuration. -/
def resetConfig (ms : Members) : Checked ResetConfig :=
  ResetConfig.mk
    <$> required "namespace_definition" (oneOf NamespacePolicy.ofName?) ms
    <*> required "namespace_format" (nullable text) ms
    <*> required "prefix" (nullable text) ms
    <*> image "destination_docker_image" "destination_protocol_version" ms
    <*> required "operation_sequence" (items operation) ms
    <*> required "configured_catalog" catalog ms
    <*> required "resource_requirements" quantities ms
    <*> required "sync_resource_requirements" bundle ms
    <*> required "streams_to_reset" (items streamId) ms
    <*> required "is_destination_custom_connector" boolean ms
    <*> required "workspace_id" uuid ms
    <*> required "destination_definition_version_id" uuid ms
    <*> withDefault "is_source_custom_connector" false boolean ms

/-- The configuration of a job of a known kind. -/
def configOfKind (kind : JobKind) (ms : Members) : Checked JobConfig :=
  Checked.under (.key kind.name) <|
    match kind with
    | .sync => JobConfig.sync <$> syncConfig ms
    | .refresh => JobConfig.refresh <$> refreshConfig ms
    | .reset => JobConfig.reset <$> resetConfig ms

/-- **A job configuration.** The member `config_type` tells its kind. -/
def jobConfig : Decoder JobConfig
  | .object ms =>
    match Keyed.find? "config_type" ms with
    | none => .fail .unionTagNotFound
    | some (.text name) =>
      match JobKind.ofName? name with
      | some kind => configOfKind kind ms
      | none => .fail .unionTagInvalid
    | some _ => .fail .unionTagInvalid
  | _ => .fail .dictType

end

end ConnectionJobs.Decoder

namespace ConnectionJobs

variable [Json.Release]

/-- **Decode a document given as text**; a text that is no JSON document is a problem of its own. -/
def decodeText {α : Type} (decode : Decoder α) (s : String) : Checked α :=
  match Json.readDocument? s with
  | some json => decode json
  | none => .fail .jsonInvalid

/-- **Read a configuration** from its text. -/
def JobConfig.ofText (s : String) : Checked JobConfig := decodeText Decoder.jobConfig s

end ConnectionJobs
