import ConnectionJobs.Resource.Quantities
import ConnectionJobs.Resource.Role

/-!
# Resource bundles

The resources of a job are a **bundle**: the quantities of each of its roles, tagged with what they were looked
up by. A job without a live source has no quantities for the source roles; all other roles always have some.
-/

namespace ConnectionJobs

/-- **What the defaults of a bundle were looked up by**, kept for audits. -/
structure BundleKey where
  /-- The variant of the defaults table. -/
  variant : String
  /-- The source type; absent when no typed source takes part. -/
  subType : Option String
  deriving DecidableEq, Repr, Inhabited

/-- **The resources of a job.** -/
structure Bundle where
  /-- What the defaults were looked up by. -/
  key : BundleKey
  /-- The orchestrator. -/
  orchestrator : Quantities
  /-- The destination. -/
  destination : Quantities
  /-- The standard input of the destination. -/
  destinationStdin : Quantities
  /-- The standard output of the destination. -/
  destinationStdout : Quantities
  /-- The error output of the destination. -/
  destinationStderr : Quantities
  /-- The heartbeat. -/
  heartbeat : Quantities
  /-- The source, when one takes part. -/
  source : Option Quantities
  /-- The standard output of the source, when one takes part. -/
  sourceStdout : Option Quantities
  /-- The error output of the source, when one takes part. -/
  sourceStderr : Option Quantities
  deriving DecidableEq, Repr, Inhabited

namespace Bundle

/-- The quantities of a role. -/
def quantities? (b : Bundle) : Role → Option Quantities
  | .source => b.source
  | .sourceStdout => b.sourceStdout
  | .sourceStderr => b.sourceStderr
  | .destination => some b.destination
  | .destinationStdin => some b.destinationStdin
  | .destinationStdout => some b.destinationStdout
  | .destinationStderr => some b.destinationStderr
  | .orchestrator => some b.orchestrator
  | .heartbeat => some b.heartbeat

/-- **The roles that have quantities**, with them, in role order. -/
def roles (b : Bundle) : List (Role × Quantities) :=
  Role.all.filterMap fun role => (b.quantities? role).map fun q => (role, q)

end Bundle

end ConnectionJobs
