import ConnectionJobs.Job.Builder
import ConnectionJobs.Job.Eligibility
import ConnectionJobs.Job.Generations
import ConnectionJobs.Resource.Resolution
import ConnectionJobs.State.Refresh

/-!
# Creating jobs

A job is created by resolving its resources, building its configuration and putting it into the queue. The
queue takes no second job of a connection while one is active, and then there is nothing more to do.

Sync and refresh jobs are written in **two phases**. The generations that a job stamps on its catalog are
recorded under the job's own number, so the job is enqueued first, with the plain catalog; then its catalog is
stamped, and its stored configuration is replaced. A worker may see the job in between.

A refresh job ends with a **cleanup**: the cursors of the refreshed streams are cleared, and the requests are
deleted. The cleanup is best effort. A store that fails then is reported, and neither the job nor the rest of
the cleanup is affected.
-/

namespace ConnectionJobs

/-- **What a creation works with.** Each operation may fail and may answer anything. -/
structure Collaborators (n : Type → Type) where
  /-- Where events are reported. -/
  log : Log.Sink n
  /-- The queue of jobs. -/
  queue : JobQueue n
  /-- Resolve the resources of a job; the last argument says whether it is a reset. -/
  resolve : Connection → SourceSide → ConnectorDefinition → Bool → Attempt n Bundle
  /-- Whether refreshes are enabled, given workspace, connection, source and destination definition. -/
  isEligible : Uuid → Uuid → Uuid → Uuid → Attempt n Bool
  /-- Stamp the catalog of a connection for a job that refreshes some streams. -/
  stamp : Catalog → Uuid → Int → List RefreshRequest → Attempt n Catalog
  /-- Bump the generations of the streams a job refreshes. -/
  bump : Uuid → Int → List RefreshRequest → Attempt n Unit
  /-- The saved state of a connection. -/
  readState : Uuid → Attempt n (Option SavedState)
  /-- Clear the cursors of refreshed streams from a saved state. -/
  clearCursors : Uuid → SavedState → List RefreshRequest → Attempt n Unit
  /-- The store of refresh requests. -/
  requests : RequestStore n

/-- **What a sync or refresh job is made from.** -/
structure JobInputs where
  /-- The connection. -/
  connection : Connection
  /-- The definition of the source. -/
  source : ConnectorDefinition
  /-- The definition of the destination. -/
  destination : ConnectorDefinition
  /-- The image of the source. -/
  sourceImage : ConnectorImage
  /-- The image of the destination. -/
  destinationImage : ConnectorImage
  /-- What webhook operations need to know. -/
  webhooks : Option Members
  deriving Inhabited

/-! ## Reports -/

/-- An event of job creation. -/
def creationEvent (level : Log.Level) (message : String) (context : Members) (failure : Option Failure) :
    Log.Event where
  level := level
  source := "sync_jobs.jobs.creator"
  message := message
  context := context
  problems := []
  failure := failure

/-- The context of an event about a job. -/
def jobContext (job : Int) : Members := [("ctx_job_id", .integer job)]

/-- The context of an event about a connection. -/
def connectionContext (connection : Uuid) : Members := [("ctx_connection_id", .text connection.text)]

/-- The report about the outcome of putting a job into the queue. -/
def enqueueReport (connection : Uuid) (kind : JobKind) (outcome : Option Int) : Log.Event :=
  let message :=
    match outcome with
    | none => "No " ++ kind.name ++ " job created for connection " ++ connection.text ++
        ": a job is already running"
    | some job => "Enqueued " ++ kind.name ++ " job " ++ toString job ++ " for connection " ++ connection.text
  creationEvent .info message (connectionContext connection ++ [("ctx_config_type", .text kind.name)]) none

/-- The report that a sync job is not stamped. -/
def unstampedReport (job : Int) : Log.Event :=
  creationEvent .info ("Skipping generation stamping for sync job " ++ toString job) (jobContext job) none

/-- The report that the stamped configuration of a job could not be stored. -/
def patchReport (job : Int) : Log.Event :=
  creationEvent .error ("Failed to stamp generations on job " ++ toString job ++
    "; the job keeps its un-stamped catalog") (jobContext job) none

/-- The report that cursors could not be cleared. -/
def stateReport (connection : Uuid) (failure : Failure) : Log.Event :=
  creationEvent .warning ("Failed to clear refreshed stream state for connection " ++ connection.text)
    (connectionContext connection) (some failure)

/-- The report that a request could not be deleted. -/
def requestReport (connection : Uuid) (request : RefreshRequest) (failure : Failure) : Log.Event :=
  creationEvent .warning ("Failed to delete refresh request " ++ request.streamNamespace.getD "None" ++ "." ++
    request.streamName ++ " for connection " ++ connection.text) (connectionContext connection) (some failure)

/-! ## Steps -/

variable {n : Type → Type} [Monad n]

/-- **Handle a persistence failure** of a step; every other failure passes. -/
def onPersistenceFailure (step : Attempt n Unit) (handle : Failure → Attempt n Unit) : Attempt n Unit :=
  tryCatch step fun failure => if failure.isPersistence then handle failure else throw failure

namespace Collaborators

/-- Report an event. -/
def report (c : Collaborators n) (event : Log.Event) : Attempt n Unit := ExceptT.lift (c.log event)

/-- **Put a job into the queue** under the scope of its connection, and report the outcome. -/
def enqueue (c : Collaborators n) (connection : Uuid) (config : JobConfig) : Attempt n (Option Int) := do
  let outcome ← c.queue.enqueue connection.text config
  c.report (enqueueReport connection config.kind outcome)
  return outcome

/-- **Replace the stored configuration** of a job by its stamped version. -/
def patch (c : Collaborators n) (job : Int) (config : JobConfig) : Attempt n Unit :=
  onPersistenceFailure (c.queue.updateConfig job config) fun failure => do
    c.report (patchReport job)
    throw failure

/-- Refreshes are enabled for the connection a job is made for. -/
def isEligibleFor (c : Collaborators n) (inputs : JobInputs) : Attempt n Bool :=
  c.isEligible inputs.connection.workspaceId inputs.connection.connectionId inputs.source.definitionId
    inputs.destination.definitionId

/-- Clear the cursors of the refreshed streams from the saved state, if there is one. -/
def clearSavedCursors (c : Collaborators n) (connection : Uuid) (requests : List RefreshRequest) :
    Attempt n Unit := do
  match ← c.readState connection with
  | some state => c.clearCursors connection state requests
  | none => return

/-- Delete one request, reporting a failure. -/
def deleteRequest (c : Collaborators n) (connection : Uuid) (request : RefreshRequest) : Attempt n Unit :=
  onPersistenceFailure (c.requests.delete connection request.streamName request.streamNamespace) fun failure =>
    c.report (requestReport connection request failure)

/-- Delete requests, in order. -/
def deleteRequests (c : Collaborators n) (connection : Uuid) : List RefreshRequest → Attempt n Unit
  | [] => return
  | request :: rest => do
    c.deleteRequest connection request
    c.deleteRequests connection rest

/-- **Clean up** after a refresh job. -/
def cleanUp (c : Collaborators n) (connection : Uuid) (requests : List RefreshRequest) : Attempt n Unit := do
  onPersistenceFailure (c.clearSavedCursors connection requests) fun failure =>
    c.report (stateReport connection failure)
  c.deleteRequests connection requests

/-! ## Creation -/

/-- **Create a sync job.** The answer is its number, or nothing when the connection has an active job. -/
def createSync (c : Collaborators n) (inputs : JobInputs) : Attempt n (Option Int) := do
  let connection := inputs.connection
  let resources ← c.resolve connection (.live inputs.source) inputs.destination false
  let config := buildSync connection inputs.source inputs.destination inputs.sourceImage
    inputs.destinationImage resources inputs.webhooks none
  match ← c.enqueue connection.connectionId (.sync config) with
  | none => return none
  | some job =>
    if ← c.isEligibleFor inputs then
      let catalog ← c.stamp connection.catalog connection.connectionId job []
      c.patch job (.sync (config.withCatalog catalog))
    else
      c.report (unstampedReport job)
    return some job

/-- **Create a refresh job** for requested streams. The answer is its number, or nothing when the connection has
an active job. It fails before anything is written when refreshes are not enabled. -/
def createRefresh (c : Collaborators n) (inputs : JobInputs) (requests : List RefreshRequest) :
    Attempt n (Option Int) := do
  let connection := inputs.connection
  let connectionId := connection.connectionId
  unless ← c.isEligibleFor inputs do
    throw (.refreshNotEligible connectionId)
  let resources ← c.resolve connection (.live inputs.source) inputs.destination false
  let config := buildRefresh connection inputs.source inputs.destination inputs.sourceImage
    inputs.destinationImage resources requests inputs.webhooks none
  match ← c.enqueue connectionId (.refresh config) with
  | none => return none
  | some job =>
    c.bump connectionId job requests
    let catalog ← c.stamp connection.catalog connectionId job requests
    c.patch job (.refresh (config.withCatalog catalog))
    c.cleanUp connectionId requests
    return some job

/-- **Create a reset job** for chosen streams. The answer is its number, or nothing when the connection has an
active job. -/
def createReset (c : Collaborators n) (connection : Connection) (destination : ConnectorDefinition)
    (destinationImage : ConnectorImage) (streams : List StreamId) : Attempt n (Option Int) := do
  let resources ← c.resolve connection (.absent "reset") destination true
  c.enqueue connection.connectionId (.reset (buildReset connection destination destinationImage resources streams))

end Collaborators

/-! ## Wiring -/

/-- **The surroundings of job creation**: a log, flags, defaults, a queue and stores. -/
structure Surroundings (n : Type → Type) where
  /-- Where events are reported. -/
  log : Log.Sink n
  /-- Where flags are evaluated. -/
  flags : FlagSource n
  /-- Where resource defaults are looked up. -/
  defaults : DefaultsSource n
  /-- The queue of jobs. -/
  queue : JobQueue n
  /-- The store of generations. -/
  generations : GenerationStore n
  /-- The store of saved states. -/
  states : StateStore n
  /-- The store of refresh requests. -/
  requests : RequestStore n

/-- **The collaborators of a creation in given surroundings.** -/
def Surroundings.collaborators (s : Surroundings n) : Collaborators n where
  log := s.log
  queue := s.queue
  resolve := resolveResources s.log s.flags s.defaults
  isEligible workspace connection source destination :=
    isRefreshEligible s.flags (some workspace) (some connection) (some source) (some destination)
  stamp := stampCatalog s.generations
  bump := bumpGenerations s.generations
  readState := s.states.get
  clearCursors := clearCursors s.log s.states
  requests := s.requests

end ConnectionJobs
