import ConnectionJobs.Job.Decoding
import ConnectionJobs.Job.Encoding

/-!
# Connections as documents

What a job is made from can be handed over as documents: a snapshot of a connection, the definitions and images
of its connectors, and refresh requests. Such documents are written by people and tools of many kinds, so an
identifier in them may be written in any way that leaves no doubt.
-/

namespace ConnectionJobs.Decoder

/-- **An identifier**, however it is written. -/
def anyUuid : Decoder Uuid
  | .text s =>
    match Uuid.readLenient s with
    | .ok u => .valid u
    | .error _ => .fail .uuidParsing
  | _ => .fail .uuidType

/-- The quantities a definition gives for jobs of a type. -/
def jobTypeRequirements : Decoder (JobType × Quantities) :=
  record fun ms =>
    Prod.mk
      <$> required "job_type" (oneOf JobType.ofName?) ms
      <*> required "resource_requirements" quantities ms

/-- The requirements of a connector definition. -/
def definitionRequirements : Decoder DefinitionRequirements :=
  record fun ms =>
    DefinitionRequirements.mk
      <$> omissible "default" quantities ms
      <*> withDefault "job_specific" [] (items jobTypeRequirements) ms

/-- **A connector definition.** -/
def connectorDefinition : Decoder ConnectorDefinition :=
  record fun ms =>
    ConnectorDefinition.mk
      <$> required "definition_id" anyUuid ms
      <*> required "version_id" anyUuid ms
      <*> withDefault "custom" false boolean ms
      <*> omissible "resource_requirements" definitionRequirements ms
      <*> omissible "source_type" (oneOf SourceType.ofName?) ms

/-- **The image of a connector.** -/
def connectorImage : Decoder ConnectorImage := record (image "docker_image" "protocol_version")

/-- An operation of a connection. -/
def connectionOperation : Decoder Operation :=
  record fun ms =>
    Operation.mk
      <$> required "operation_id" anyUuid ms
      <*> required "name" text ms
      <*> required "operator_type" text ms
      <*> omissible "workspace_id" anyUuid ms
      <*> omissible "operator_configuration" members ms

/-- **A snapshot of a connection.** -/
def connection : Decoder Connection :=
  record fun ms =>
    Connection.mk
      <$> required "connection_id" anyUuid ms
      <*> required "workspace_id" anyUuid ms
      <*> omissible "source_id" anyUuid ms
      <*> omissible "destination_id" anyUuid ms
      <*> required "catalog" catalog ms
      <*> withDefault "namespace_definition" .source (oneOf NamespacePolicy.ofName?) ms
      <*> omissible "namespace_format" text ms
      <*> omissible "prefix" text ms
      <*> withDefault "operation_sequence" [] (items connectionOperation) ms
      <*> omissible "resource_requirements" quantities ms

/-- **A refresh request.** -/
def refreshRequest : Decoder RefreshRequest :=
  record fun ms =>
    RefreshRequest.mk
      <$> required "connection_id" anyUuid ms
      <*> required "stream_name" text ms
      <*> omissible "stream_namespace" text ms

end ConnectionJobs.Decoder

namespace ConnectionJobs

/-- A refresh request as a document. -/
def RefreshRequest.toJson (r : RefreshRequest) : Json :=
  .object
    [("connection_id", r.connectionId.toJson),
     ("stream_name", .text r.streamName),
     ("stream_namespace", textOrNull r.streamNamespace)]

end ConnectionJobs
