import ConnectionJobs.Job.Creation
import ConnectionJobs.Sql.Statement
import ConnectionJobs.State.Document

/-!
# Rehearsing creations in memory

Job creation can be rehearsed without a database: in a **world** that keeps the queue and the stores in memory,
answers flags and defaults from tables, and writes down every call that is made on it. A call can be made to
fail by *arming* a failure of its port. A call is written down before it is made to fail and before it acts.
-/

namespace ConnectionJobs.Rehearsal

/-- **The ports** of job creation. -/
inductive Port where
  /-- Evaluate a switch. -/
  | flagSwitch
  /-- Evaluate a text. -/
  | flagText
  /-- Look up defaults. -/
  | defaults
  /-- Put a job into the queue. -/
  | enqueue
  /-- Replace the configuration of a job. -/
  | updateConfig
  /-- Read a saved state. -/
  | stateGet
  /-- Write a saved state. -/
  | statePut
  /-- Delete a refresh request. -/
  | requestDelete
  /-- Read the current generations. -/
  | generationCurrent
  /-- Record generations. -/
  | generationInsert
  deriving DecidableEq, Repr, Inhabited

/-- **A call** on a port, with its arguments. -/
inductive Call where
  /-- A switch is evaluated in a context with these labels. -/
  | flagSwitch (key : String) (labels : List String)
  /-- A text is evaluated in a context with these labels. -/
  | flagText (key : String) (labels : List String)
  /-- Defaults are looked up. -/
  | defaults (role : Role) (subType : Option String) (variant : String)
  /-- A job is put into the queue. -/
  | enqueue (scope : String) (config : JobConfig)
  /-- The configuration of a job is replaced. -/
  | updateConfig (job : Int) (config : JobConfig)
  /-- A saved state is read. -/
  | stateGet (connection : Uuid)
  /-- A saved state is written. -/
  | statePut (connection : Uuid) (state : SavedState)
  /-- A refresh request is deleted. -/
  | requestDelete (connection : Uuid) (stream : StreamId)
  /-- The current generations are read. -/
  | generationCurrent (connection : Uuid)
  /-- Generations are recorded. -/
  | generationInsert (connection : Uuid) (job : Int) (generations : List (StreamId × Int))

namespace Call

/-- The port of a call. -/
def port : Call → Port
  | flagSwitch _ _ => .flagSwitch
  | flagText _ _ => .flagText
  | defaults _ _ _ => .defaults
  | enqueue _ _ => .enqueue
  | updateConfig _ _ => .updateConfig
  | stateGet _ => .stateGet
  | statePut _ _ => .statePut
  | requestDelete _ _ => .requestDelete
  | generationCurrent _ => .generationCurrent
  | generationInsert _ _ _ => .generationInsert

/-- The call can be written down: a document among its arguments does not nest too deeply. -/
def isWritable : Call → Bool
  | enqueue _ config | updateConfig _ config => config.text?.isSome
  | statePut _ state => state.isWritable
  | _ => true

end Call

/-- **A job in the queue.** -/
structure QueuedJob where
  /-- Its number. -/
  job : Int
  /-- Its scope. -/
  scope : String
  /-- Its status. -/
  status : String
  /-- Its configuration. -/
  config : JobConfig
  deriving Inhabited

/-- **An active job** is neither failed nor succeeded nor cancelled. -/
def QueuedJob.isActive (j : QueuedJob) : Bool := !(j.status ∈ Sql.terminalStatuses)

/-- **An armed failure** of a port: it lets some calls pass and fails the next one. -/
structure Armed where
  /-- The port. -/
  port : Port
  /-- The failure. -/
  failure : Failure
  /-- The number of calls that still pass. -/
  skip : Nat
  deriving Repr

/-- **The world** of a rehearsal. -/
structure World where
  /-- The flags. -/
  flags : FlagTable
  /-- The defaults. -/
  defaults : DefaultsCatalog
  /-- The number of the next job. -/
  nextJob : Int
  /-- The jobs, in the order in which they were created. -/
  jobs : List QueuedJob
  /-- The saved states. -/
  states : Keyed Uuid SavedState
  /-- The pending refresh requests. -/
  requests : List RefreshRequest
  /-- The recorded generations. -/
  generations : List Sql.GenerationEntry
  /-- The armed failures. -/
  armed : List Armed
  /-- The calls that were made, in order. -/
  calls : List Call
  /-- The events that were reported, in order. -/
  events : List Log.Event
  deriving Inhabited

/-- The effect of a rehearsal. -/
abbrev Rehearse := StateM World

/-- **The world at the start** of a rehearsal: nothing is kept yet. -/
def World.start (flags : FlagTable) (defaults : DefaultsCatalog) (nextJob : Int) : World where
  flags := flags
  defaults := defaults
  nextJob := nextJob
  jobs := []
  states := []
  requests := []
  generations := []
  armed := []
  calls := []
  events := []

/-! ## Changing the world -/

/-- Put a pending job into the queue, under the next number. -/
def World.addJob (world : World) (scope : String) (config : JobConfig) : World :=
  { world with
    nextJob := world.nextJob + 1
    jobs := world.jobs ++ [⟨world.nextJob, scope, "pending", config⟩] }

/-- Replace the configuration of a job. -/
def World.replaceConfig (world : World) (job : Int) (config : JobConfig) : World :=
  { world with jobs := world.jobs.map fun j => if j.job == job then { j with config := config } else j }

/-- Set the status of a job. -/
def World.setStatus (world : World) (job : Int) (status : String) : World :=
  { world with jobs := world.jobs.map fun j => if j.job == job then { j with status := status } else j }

/-- Remove a job; `none` when there is no such job. -/
def World.dropJob? (world : World) (job : Int) : Option World :=
  if world.jobs.any fun j => j.job == job then
    some { world with jobs := world.jobs.filter fun j => j.job != job }
  else none

/-- Save a state. -/
def World.putState (world : World) (connection : Uuid) (state : SavedState) : World :=
  { world with states := Keyed.set connection state world.states }

/-- Add refresh requests. -/
def World.addRequests (world : World) (requests : List RefreshRequest) : World :=
  { world with requests := world.requests ++ requests }

/-- Remove the refresh requests equal to one. -/
def World.dropRequest (world : World) (request : RefreshRequest) : World :=
  { world with requests := world.requests.filter fun r => r ≠ request }

/-- Record generations. -/
def World.putGenerations (world : World) (connection : Uuid) (job : Int)
    (started : List (StreamId × Int)) : World :=
  { world with
    generations := world.generations ++
      started.map fun (stream, generation) => ⟨connection, stream, generation, job⟩ }

/-- Arm a failure. -/
def World.arm (world : World) (armed : Armed) : World :=
  { world with armed := world.armed ++ [armed] }

/-! ## Calls -/

/-- Take an armed failure for a call on a port: the failure, if there is one, and the failures still armed. -/
def takeArmed (port : Port) : List Armed → Option Failure × List Armed
  | [] => (none, [])
  | a :: rest =>
    if a.port = port then
      if a.skip = 0 then (some a.failure, rest)
      else
        let (failure, remaining) := takeArmed port rest
        (failure, { a with skip := a.skip - 1 } :: remaining)
    else
      let (failure, remaining) := takeArmed port rest
      (failure, a :: remaining)

/-- **Make a call**: write it down, then fail when a failure is armed. -/
def make (call : Call) : Attempt Rehearse Unit := do
  unless call.isWritable do throw .documentTooDeep
  let world ← get
  let (failure, armed) := takeArmed call.port world.armed
  set { world with calls := world.calls ++ [call], armed := armed }
  match failure with
  | some f => throw f
  | none => return

/-- Report an event. -/
def sink : Log.Sink Rehearse := fun event =>
  modify fun world => { world with events := world.events ++ [event] }

/-- The labels of a context, sorted. -/
def sortedLabels (context : Flag.Context) : List String :=
  context.labels.mergeSort fun a b => !(b < a)

/-- Flags answered from the table of the world. -/
def flags : FlagSource Rehearse where
  switch flag context := do
    make (.flagSwitch flag.key (sortedLabels context))
    (← get).flags.source.switch flag context
  text flag context := do
    make (.flagText flag.key (sortedLabels context))
    (← get).flags.source.text flag context

/-- Defaults answered from the catalog of the world. -/
def defaults : DefaultsSource Rehearse where
  lookup role subType variant := do
    make (.defaults role subType variant)
    return (← get).defaults.lookup role subType variant

/-- The queue of the world. -/
def queue : JobQueue Rehearse where
  enqueue scope config := do
    make (.enqueue scope config)
    let world ← get
    if world.jobs.any fun j => j.scope == scope && j.isActive then return none
    modify fun world => world.addJob scope config
    return some world.nextJob
  updateConfig job config := do
    make (.updateConfig job config)
    let world ← get
    unless world.jobs.any fun j => j.job == job do throw (.jobNotFound job)
    modify fun world => world.replaceConfig job config

/-- The latest generation of each stream among the recorded ones. -/
def latest (entries : List Sql.GenerationEntry) : Generations :=
  entries.foldl (fun generations entry =>
    match Keyed.find? entry.stream generations with
    | some g => Keyed.set entry.stream (max g entry.generation) generations
    | none => Keyed.set entry.stream entry.generation generations) []

/-- The generations of the world. -/
def generations : GenerationStore Rehearse where
  current connection := do
    make (.generationCurrent connection)
    return latest ((← get).generations.filter fun entry => entry.connection = connection)
  insert connection job started := do
    make (.generationInsert connection job started)
    modify fun world => world.putGenerations connection job started

/-- The saved states of the world. -/
def states : StateStore Rehearse where
  get connection := do
    make (.stateGet connection)
    return Keyed.find? connection (← MonadState.get).states
  put connection state := do
    make (.statePut connection state)
    modify fun world => world.putState connection state

/-- The refresh requests of the world. -/
def requests : RequestStore Rehearse where
  delete connection name space := do
    make (.requestDelete connection ⟨name, space⟩)
    modify fun world => world.dropRequest ⟨connection, name, space⟩

/-- **The surroundings of a rehearsal.** -/
def surroundings : Surroundings Rehearse where
  log := sink
  flags := flags
  defaults := defaults
  queue := queue
  generations := generations
  states := states
  requests := requests

end ConnectionJobs.Rehearsal
