import ConnectionJobs.Connection
import ConnectionJobs.Resource.Bundle

/-!
# Job configurations

A job is enqueued with a **configuration**: everything a worker needs to run it, without looking anything up
again. There are three kinds of job. A sync moves data; a refresh does too, and starts chosen streams over; a
reset reads from nowhere and clears chosen streams in the destination.
-/

namespace ConnectionJobs

/-- **The configuration of a sync job.** -/
structure SyncConfig where
  /-- How namespaces are chosen in the destination. -/
  namespacePolicy : NamespacePolicy
  /-- The format of custom namespaces. -/
  namespaceFormat : Option String
  /-- What stream names are preceded by in the destination. -/
  streamPrefix : Option String
  /-- The image of the source. -/
  sourceImage : ConnectorImage
  /-- The image of the destination. -/
  destinationImage : ConnectorImage
  /-- The operations carried out with the job. -/
  operations : List Operation
  /-- The streams, as the job is to move them. -/
  catalog : Catalog
  /-- The resources of the job. -/
  resources : Bundle
  /-- The source connector was built by a user. -/
  customSource : Bool
  /-- The destination connector was built by a user. -/
  customDestination : Bool
  /-- The workspace that owns the connection. -/
  workspaceId : Uuid
  /-- The version of the source definition. -/
  sourceVersionId : Uuid
  /-- The version of the destination definition. -/
  destinationVersionId : Uuid
  /-- What webhook operations need to know; opaque here. -/
  webhooks : Option Members
  deriving Inhabited

/-- **The configuration of a refresh job**: that of a sync, and the streams it starts over. -/
structure RefreshConfig extends SyncConfig where
  /-- The streams to start over. -/
  streamsToRefresh : List StreamId
  deriving Inhabited

/-- **The configuration of a reset job.** -/
structure ResetConfig where
  /-- How namespaces are chosen in the destination. -/
  namespacePolicy : NamespacePolicy
  /-- The format of custom namespaces. -/
  namespaceFormat : Option String
  /-- What stream names are preceded by in the destination. -/
  streamPrefix : Option String
  /-- The image of the destination. -/
  destinationImage : ConnectorImage
  /-- The operations carried out with the job. -/
  operations : List Operation
  /-- The streams, with the chosen ones marked to be cleared. -/
  catalog : Catalog
  /-- The quantities of the orchestrator, for consumers that do not know bundles. -/
  orchestratorQuantities : Quantities
  /-- The resources of the job. -/
  resources : Bundle
  /-- The streams to clear. -/
  streamsToReset : List StreamId
  /-- The destination connector was built by a user. -/
  customDestination : Bool
  /-- The workspace that owns the connection. -/
  workspaceId : Uuid
  /-- The version of the destination definition. -/
  destinationVersionId : Uuid
  /-- The source connector was built by a user; a reset has none, so this is false when the job is made. -/
  customSource : Bool
  deriving Inhabited

/-- **A job configuration**, of one of the three kinds. -/
inductive JobConfig where
  /-- A sync. -/
  | sync (config : SyncConfig)
  /-- A refresh. -/
  | refresh (config : RefreshConfig)
  /-- A reset. -/
  | reset (config : ResetConfig)
  deriving Inhabited

/-- The kinds of job. -/
inductive JobKind where
  /-- A sync. -/
  | sync
  /-- A refresh. -/
  | refresh
  /-- A reset. -/
  | reset
  deriving DecidableEq, Repr, Inhabited

namespace JobKind

/-- **The name of a kind**, in documents, in the queue and in messages. -/
def name : JobKind → String
  | sync => "sync"
  | refresh => "refresh"
  | reset => "reset_connection"

/-- The kind with a given name. -/
def ofName? : String → Option JobKind
  | "sync" => some sync
  | "refresh" => some refresh
  | "reset_connection" => some reset
  | _ => none

@[simp] theorem ofName?_name (kind : JobKind) : ofName? kind.name = some kind := by cases kind <;> rfl

end JobKind

namespace JobConfig

/-- The kind of job a configuration is for. -/
def kind : JobConfig → JobKind
  | sync _ => .sync
  | refresh _ => .refresh
  | reset _ => .reset

/-- The catalog of a configuration. -/
def catalog : JobConfig → Catalog
  | sync c => c.catalog
  | refresh c => c.catalog
  | reset c => c.catalog

/-- The resources of a configuration. -/
def resources : JobConfig → Bundle
  | sync c => c.resources
  | refresh c => c.resources
  | reset c => c.resources

@[simp] theorem kind_sync (c : SyncConfig) : (sync c).kind = .sync := rfl

@[simp] theorem kind_refresh (c : RefreshConfig) : (refresh c).kind = .refresh := rfl

@[simp] theorem kind_reset (c : ResetConfig) : (reset c).kind = .reset := rfl

end JobConfig

/-- The sync configuration with another catalog. -/
def SyncConfig.withCatalog (config : SyncConfig) (catalog : Catalog) : SyncConfig :=
  { config with catalog := catalog }

/-- The refresh configuration with another catalog. -/
def RefreshConfig.withCatalog (config : RefreshConfig) (catalog : Catalog) : RefreshConfig :=
  { config with catalog := catalog }

end ConnectionJobs
