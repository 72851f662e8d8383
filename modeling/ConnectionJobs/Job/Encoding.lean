import ConnectionJobs.Job.Config
import ConnectionJobs.Json.Writer

/-!
# Writing job configurations

A configuration is stored as a JSON document. Every field is written, absent ones as `null`, in the order in
which consumers declare them, and the kind of job comes last. A document may nest at most 255 values deep; an
opaque payload that nests deeper makes the configuration impossible to store.
-/

namespace ConnectionJobs

open Json (optional)

/-- An optional text in a document. -/
def textOrNull : Option String → Json := optional Json.text

/-- An identifier in a document. -/
def Uuid.toJson (u : Uuid) : Json := .text u.text

/-- Quantities in a document. -/
def Quantities.toJson (q : Quantities) : Json :=
  .object
    [("cpu_request", textOrNull q.cpuRequest),
     ("cpu_limit", textOrNull q.cpuLimit),
     ("memory_request", textOrNull q.memoryRequest),
     ("memory_limit", textOrNull q.memoryLimit),
     ("ephemeral_storage_request", textOrNull q.storageRequest),
     ("ephemeral_storage_limit", textOrNull q.storageLimit)]

/-- A bundle in a document. -/
def Bundle.toJson (b : Bundle) : Json :=
  .object
    [("config_key", .object [("variant", .text b.key.variant), ("sub_type", textOrNull b.key.subType)]),
     ("orchestrator", b.orchestrator.toJson),
     ("destination", b.destination.toJson),
     ("destination_stdin", b.destinationStdin.toJson),
     ("destination_stdout", b.destinationStdout.toJson),
     ("destination_stderr", b.destinationStderr.toJson),
     ("heartbeat", b.heartbeat.toJson),
     ("source", optional Quantities.toJson b.source),
     ("source_stdout", optional Quantities.toJson b.sourceStdout),
     ("source_stderr", optional Quantities.toJson b.sourceStderr)]

/-- A stream identity in a document. -/
def StreamId.toJson (s : StreamId) : Json :=
  .object [("name", .text s.name), ("namespace", textOrNull s.space)]

/-- A configured stream in a document. -/
def ConfiguredStream.toJson (s : ConfiguredStream) : Json :=
  .object
    [("stream", s.stream.toJson),
     ("sync_mode", .text s.syncMode.name),
     ("destination_sync_mode", .text s.destinationMode.name),
     ("cursor_field", .array (s.cursorField.map Json.text)),
     ("primary_key", .array (s.primaryKey.map fun path => .array (path.map Json.text))),
     ("generation_id", optional Json.integer s.generation),
     ("minimum_generation_id", optional Json.integer s.minimumGeneration),
     ("sync_id", optional Json.integer s.syncId)]

/-- A catalog in a document. -/
def Catalog.toJson (c : Catalog) : Json :=
  .object [("streams", .array (c.streams.map ConfiguredStream.toJson))]

/-- An operation in a document. -/
def Operation.toJson (o : Operation) : Json :=
  .object
    [("operation_id", o.operationId.toJson),
     ("name", .text o.name),
     ("operator_type", .text o.operatorType),
     ("workspace_id", optional Uuid.toJson o.workspaceId),
     ("operator_configuration", optional Json.object o.configuration)]

/-- The members that a sync and a refresh configuration have in common, up to the streams to refresh. -/
def SyncConfig.commonMembers (c : SyncConfig) : Members :=
  [("namespace_definition", .text c.namespacePolicy.name),
   ("namespace_format", textOrNull c.namespaceFormat),
   ("prefix", textOrNull c.streamPrefix),
   ("source_docker_image", .text c.sourceImage.dockerImage),
   ("source_protocol_version", .text c.sourceImage.protocolVersion),
   ("destination_docker_image", .text c.destinationImage.dockerImage),
   ("destination_protocol_version", .text c.destinationImage.protocolVersion),
   ("operation_sequence", .array (c.operations.map Operation.toJson)),
   ("configured_catalog", c.catalog.toJson),
   ("sync_resource_requirements", c.resources.toJson),
   ("is_source_custom_connector", .boolean c.customSource),
   ("is_destination_custom_connector", .boolean c.customDestination),
   ("workspace_id", c.workspaceId.toJson),
   ("source_definition_version_id", c.sourceVersionId.toJson),
   ("destination_definition_version_id", c.destinationVersionId.toJson)]

/-- A sync configuration as a document. -/
def SyncConfig.toJson (c : SyncConfig) : Json :=
  .object (c.commonMembers ++
    [("webhook_operation_configs", optional Json.object c.webhooks),
     ("config_type", .text JobKind.sync.name)])

/-- A refresh configuration as a document. -/
def RefreshConfig.toJson (c : RefreshConfig) : Json :=
  .object (c.toSyncConfig.commonMembers ++
    [("streams_to_refresh", .array (c.streamsToRefresh.map StreamId.toJson)),
     ("webhook_operation_configs", optional Json.object c.webhooks),
     ("config_type", .text JobKind.refresh.name)])

/-- A reset configuration as a document. -/
def ResetConfig.toJson (c : ResetConfig) : Json :=
  .object
    [("namespace_definition", .text c.namespacePolicy.name),
     ("namespace_format", textOrNull c.namespaceFormat),
     ("prefix", textOrNull c.streamPrefix),
     ("destination_docker_image", .text c.destinationImage.dockerImage),
     ("destination_protocol_version", .text c.destinationImage.protocolVersion),
     ("operation_sequence", .array (c.operations.map Operation.toJson)),
     ("configured_catalog", c.catalog.toJson),
     ("resource_requirements", c.orchestratorQuantities.toJson),
     ("sync_resource_requirements", c.resources.toJson),
     ("streams_to_reset", .array (c.streamsToReset.map StreamId.toJson)),
     ("is_destination_custom_connector", .boolean c.customDestination),
     ("workspace_id", c.workspaceId.toJson),
     ("destination_definition_version_id", c.destinationVersionId.toJson),
     ("is_source_custom_connector", .boolean c.customSource),
     ("config_type", .text JobKind.reset.name)]

/-- **A configuration as a document.** -/
def JobConfig.toJson : JobConfig → Json
  | .sync c => c.toJson
  | .refresh c => c.toJson
  | .reset c => c.toJson

/-- How deep a written document may nest. -/
def writableDepth : Nat := 255

/-- **The text of a configuration**, `none` when it nests too deeply to be written. -/
def JobConfig.text? (config : JobConfig) : Option String :=
  let document := config.toJson
  if document.depth ≤ writableDepth then some document.write else none

end ConnectionJobs
