import ConnectionJobs.Ports
import ConnectionJobs.Resource.Override

/-!
# Resource policies

The flags that bear on resources are evaluated once per job, into a **policy** that all roles of the job share:
the variant of the defaults table, and the runtime overrides of source, orchestrator and destination.
-/

namespace ConnectionJobs

/-- **The policy** of one job. -/
structure Policy where
  /-- The variant of the defaults table. -/
  variant : String
  /-- The override of the orchestrator. -/
  orchestratorOverride : Option Quantities
  /-- The override of the source. -/
  sourceOverride : Option Quantities
  /-- The override of the destination. -/
  destinationOverride : Option Quantities
  deriving DecidableEq, Repr, Inhabited

variable {n : Type → Type} [Monad n]

/-- Report events, in order. -/
def Log.reportAll (log : Log.Sink n) : List Log.Event → n Unit
  | [] => pure ()
  | event :: rest => do
    log event
    reportAll log rest

/-- **Read an override payload**, reporting a malformed one. -/
def parseOverride [Json.Release] (log : Log.Sink n) (category payload : String) : n (Option Quantities) := do
  let reading := OverrideReading.ofPayload payload
  Log.reportAll log (reading.reports category payload)
  return reading.quantities?

/-- Evaluate an override flag and read its payload. -/
def evaluateOverride (log : Log.Sink n) (flags : FlagSource n) (context : Flag.Context) (category : String)
    (flag : Flag String) : Attempt n (Option Quantities) := do
  let payload ← flags.text flag context
  ExceptT.lift (parseOverride log category payload)

/-- **Assemble the policy** of a job. The source override is evaluated only when a source takes part. -/
def assemblePolicy (log : Log.Sink n) (flags : FlagSource n) (context : Flag.Context) (includeSource : Bool) :
    Attempt n Policy := do
  let sourceOverride ←
    if includeSource then evaluateOverride log flags context "SOURCE" Flag.sourceOverrides else pure none
  let variant ← flags.text Flag.resourceVariant context
  let orchestratorOverride ← evaluateOverride log flags context "ORCHESTRATOR" Flag.orchestratorOverrides
  let destinationOverride ← evaluateOverride log flags context "DESTINATION" Flag.destinationOverrides
  return { variant, orchestratorOverride, sourceOverride, destinationOverride }

end ConnectionJobs
