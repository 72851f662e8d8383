import ConnectionJobs.Resource.Policy
import ConnectionJobs.Resource.Defaults

/-!
# Resolving resources

Every role of a job gets its quantities by merging tiers: the runtime override, the quantities set on the
connection, those its connector's definition declares for sync jobs, and the default for the source type. The
source type keys the defaults of every role, because the throughput of a job is bounded by its source.
-/

namespace ConnectionJobs

/-- **The context** in which the resource flags of a job are evaluated. -/
def resourceContext (connection : Connection) (source : SourceSide) (destination : ConnectorDefinition) :
    Flag.Context where
  workspace := some connection.workspaceId
  connection := some connection.connectionId
  source := connection.sourceId
  sourceDefinition := source.definition?.map (·.definitionId)
  destination := connection.destinationId
  destinationDefinition := some destination.definitionId

/-- The source that takes part in a job: none for a reset. -/
def participatingSource (source : SourceSide) (isReset : Bool) : Option ConnectorDefinition :=
  if isReset then none else source.definition?

/-- **The tiers of a connector** above its default: the override, the connection's quantities, and what its
definition declares for sync jobs. -/
def connectorTiers (override : Option Quantities) (connection : Connection) (definition : ConnectorDefinition) :
    List (Option Quantities) :=
  let declared := DefinitionRequirements.tiers .sync definition.requirements
  [override, connection.requirements, declared.1, declared.2]

/-- The quantities of the three source roles. -/
structure SourceQuantities where
  /-- The source. -/
  main : Quantities
  /-- Its standard output. -/
  stdout : Quantities
  /-- Its error output. -/
  stderr : Quantities
  deriving DecidableEq, Repr

variable {n : Type → Type} [Monad n]

/-- Resolve the source roles of a job that has a source. -/
def resolveSource (defaults : DefaultsSource n) (policy : Policy) (connection : Connection)
    (subType : Option String) (definition : ConnectorDefinition) : Attempt n SourceQuantities := do
  let fallback ← defaults.lookup .source subType policy.variant
  let stdout ← defaults.lookup .sourceStdout subType policy.variant
  let stderr ← defaults.lookup .sourceStderr subType policy.variant
  return ⟨.merge (connectorTiers policy.sourceOverride connection definition ++ [some fallback]), stdout, stderr⟩

/-- **Resolve the resources of a job** under a policy. -/
def resolveWith (defaults : DefaultsSource n) (policy : Policy) (connection : Connection) (source : SourceSide)
    (destination : ConnectorDefinition) (isReset : Bool) : Attempt n Bundle := do
  let subType := source.subType?
  let orchestratorDefault ← defaults.lookup .orchestrator subType policy.variant
  let destinationDefault ← defaults.lookup .destination subType policy.variant
  let sourceRoles ←
    match participatingSource source isReset with
    | some definition => some <$> resolveSource defaults policy connection subType definition
    | none => pure none
  let destinationStdin ← defaults.lookup .destinationStdin subType policy.variant
  let destinationStdout ← defaults.lookup .destinationStdout subType policy.variant
  let destinationStderr ← defaults.lookup .destinationStderr subType policy.variant
  let heartbeat ← defaults.lookup .heartbeat subType policy.variant
  return {
    key := ⟨policy.variant, subType⟩
    orchestrator := .merge [policy.orchestratorOverride, connection.requirements, some orchestratorDefault]
    destination :=
      .merge (connectorTiers policy.destinationOverride connection destination ++ [some destinationDefault])
    destinationStdin, destinationStdout, destinationStderr, heartbeat
    source := sourceRoles.map (·.main)
    sourceStdout := sourceRoles.map (·.stdout)
    sourceStderr := sourceRoles.map (·.stderr) }

/-- **Resolve the resources of a job**: evaluate the policy once, then every role under it. -/
def resolveResources (log : Log.Sink n) (flags : FlagSource n) (defaults : DefaultsSource n)
    (connection : Connection) (source : SourceSide) (destination : ConnectorDefinition) (isReset : Bool) :
    Attempt n Bundle := do
  let context := resourceContext connection source destination
  let policy ← assemblePolicy log flags context (participatingSource source isReset).isSome
  resolveWith defaults policy connection source destination isReset

/-- Defaults answered from a catalog. -/
def DefaultsCatalog.source (catalog : DefaultsCatalog) : DefaultsSource n where
  lookup role subType variant := pure (catalog.lookup role subType variant)

end ConnectionJobs
