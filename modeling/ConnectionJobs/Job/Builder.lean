import ConnectionJobs.Job.Config

/-!
# Building job configurations

A configuration is put together from the snapshot of a connection, the definitions and images of its
connectors and the resources resolved for the job. Nothing is looked up and nothing can fail.
-/

namespace ConnectionJobs

/-- **The sync configuration** of a connection. The catalog is the connection's unless another is given. -/
def buildSync (connection : Connection) (source destination : ConnectorDefinition)
    (sourceImage destinationImage : ConnectorImage) (resources : Bundle) (webhooks : Option Members)
    (catalog : Option Catalog) : SyncConfig where
  namespacePolicy := connection.namespacePolicy
  namespaceFormat := connection.namespaceFormat
  streamPrefix := connection.streamPrefix
  sourceImage := sourceImage
  destinationImage := destinationImage
  operations := connection.operations
  catalog := catalog.getD connection.catalog
  resources := resources
  customSource := source.custom
  customDestination := destination.custom
  workspaceId := connection.workspaceId
  sourceVersionId := source.versionId
  destinationVersionId := destination.versionId
  webhooks := webhooks

/-- **The refresh configuration** of a connection: the sync configuration, and the streams of the requests in
request order. -/
def buildRefresh (connection : Connection) (source destination : ConnectorDefinition)
    (sourceImage destinationImage : ConnectorImage) (resources : Bundle) (requests : List RefreshRequest)
    (webhooks : Option Members) (catalog : Option Catalog) : RefreshConfig where
  toSyncConfig := buildSync connection source destination sourceImage destinationImage resources webhooks catalog
  streamsToRefresh := requests.map RefreshRequest.stream

/-- **The reset configuration** of a connection: its catalog with the chosen streams reset, and the quantities
of the orchestrator repeated for consumers that do not know bundles. -/
def buildReset (connection : Connection) (destination : ConnectorDefinition) (destinationImage : ConnectorImage)
    (resources : Bundle) (streams : List StreamId) : ResetConfig where
  namespacePolicy := connection.namespacePolicy
  namespaceFormat := connection.namespaceFormat
  streamPrefix := connection.streamPrefix
  destinationImage := destinationImage
  operations := connection.operations
  catalog := connection.catalog.reset streams
  orchestratorQuantities := resources.orchestrator
  resources := resources
  streamsToReset := streams
  customDestination := destination.custom
  workspaceId := connection.workspaceId
  destinationVersionId := destination.versionId
  customSource := false

end ConnectionJobs
