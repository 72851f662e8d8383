import ConnectionJobs.Catalog
import ConnectionJobs.Json.Basic
import ConnectionJobs.Resource.Quantities
import ConnectionJobs.Uuid

/-!
# Connections

A **connection** moves a catalog of streams from a source connector to a destination connector. A job is made
from a snapshot of the connection, the definitions of its connectors, and the images they are launched from.
A job that only clears a destination has no live source, and the source side says so.
-/

namespace ConnectionJobs

/-- How the namespace of a stream is chosen in the destination. -/
inductive NamespacePolicy where
  /-- The namespace the stream has in the source. -/
  | source
  /-- The default namespace of the destination. -/
  | destination
  /-- A namespace made from a format. -/
  | customFormat
  deriving DecidableEq, Repr, Inhabited

namespace NamespacePolicy

/-- The name of a policy in documents. -/
def name : NamespacePolicy → String
  | source => "source"
  | destination => "destination"
  | customFormat => "customformat"

/-- The policy with a given name. -/
def ofName? : String → Option NamespacePolicy
  | "source" => some source
  | "destination" => some destination
  | "customformat" => some customFormat
  | _ => none

@[simp] theorem ofName?_name (policy : NamespacePolicy) : ofName? policy.name = some policy := by
  cases policy <;> rfl

end NamespacePolicy

/-- The kinds of source, by which default resources are chosen. -/
inductive SourceType where
  /-- An API. -/
  | api
  /-- Files. -/
  | file
  /-- A database. -/
  | database
  /-- Anything else. -/
  | custom
  deriving DecidableEq, Repr, Inhabited

namespace SourceType

/-- The name of a source type in tables and documents. -/
def name : SourceType → String
  | api => "api"
  | file => "file"
  | database => "database"
  | custom => "custom"

/-- The source type with a given name. -/
def ofName? : String → Option SourceType
  | "api" => some api
  | "file" => some file
  | "database" => some database
  | "custom" => some custom
  | _ => none

end SourceType

/-- **A connector definition** at a version. -/
structure ConnectorDefinition where
  /-- The definition. -/
  definitionId : Uuid
  /-- The version of the definition. -/
  versionId : Uuid
  /-- The connector was built by a user. -/
  custom : Bool
  /-- The resource requirements the definition declares. -/
  requirements : Option DefinitionRequirements
  /-- The kind of source, for source definitions. -/
  sourceType : Option SourceType
  deriving DecidableEq, Repr, Inhabited

/-- **The source side of a job**: a live source, or none, with the reason for its absence. -/
inductive SourceSide where
  /-- The job reads from a source with this definition. -/
  | live (definition : ConnectorDefinition)
  /-- The job reads from no source. -/
  | absent (reason : String)
  deriving DecidableEq, Repr, Inhabited

namespace SourceSide

/-- The definition of a live source. -/
def definition? : SourceSide → Option ConnectorDefinition
  | live definition => some definition
  | absent _ => none

/-- **The source type** by which defaults are chosen; absent when no typed source takes part. -/
def subType? (side : SourceSide) : Option String :=
  side.definition?.bind fun definition => definition.sourceType.map SourceType.name

end SourceSide

/-- **The image** a connector is launched from, and the protocol it speaks. -/
structure ConnectorImage where
  /-- The name of the image. -/
  dockerImage : String
  /-- The version of the protocol. -/
  protocolVersion : String
  deriving DecidableEq, Repr, Inhabited

/-- **An operation** carried out with a sync, such as a call to a webhook. -/
structure Operation where
  /-- The operation. -/
  operationId : Uuid
  /-- Its name. -/
  name : String
  /-- The kind of operator. -/
  operatorType : String
  /-- The workspace that owns it. -/
  workspaceId : Option Uuid
  /-- What the operator needs to know; opaque here. -/
  configuration : Option Members
  deriving Inhabited

/-- **A snapshot of a connection** at the moment a job is made from it. -/
structure Connection where
  /-- The connection; also the scope of its jobs in the queue. -/
  connectionId : Uuid
  /-- The workspace that owns it. -/
  workspaceId : Uuid
  /-- The source actor. -/
  sourceId : Option Uuid
  /-- The destination actor. -/
  destinationId : Option Uuid
  /-- The catalog. -/
  catalog : Catalog
  /-- How namespaces are chosen in the destination. -/
  namespacePolicy : NamespacePolicy
  /-- The format of custom namespaces. -/
  namespaceFormat : Option String
  /-- What stream names are preceded by in the destination. -/
  streamPrefix : Option String
  /-- The operations carried out with a sync. -/
  operations : List Operation
  /-- The quantities set on the connection, which precede those of its connectors. -/
  requirements : Option Quantities
  deriving Inhabited

/-- **A refresh request**: a stream of a connection is to be read again from the start. -/
structure RefreshRequest where
  /-- The connection. -/
  connectionId : Uuid
  /-- The name of the stream. -/
  streamName : String
  /-- The namespace of the stream. -/
  streamNamespace : Option String
  deriving DecidableEq, Repr, Inhabited

namespace RefreshRequest

/-- The stream a request is about. -/
def stream (r : RefreshRequest) : StreamId := ⟨r.streamName, r.streamNamespace⟩

end RefreshRequest

end ConnectionJobs
