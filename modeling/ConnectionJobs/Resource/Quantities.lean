/-!
# Resource quantities

Every container of a job is sized by six **quantities**: requests and limits for processor, memory and
ephemeral storage. A quantity is an opaque text such as `500m` or `2Gi`; one that is not set is inherited.

Quantities come in *tiers*, from an operator's override down to a global default, and merging tiers takes each
quantity from the first tier that sets it. Quantities are never added or compared.
-/

namespace ConnectionJobs

/-- **The quantities** that size one container. -/
structure Quantities where
  /-- The requested processor share. -/
  cpuRequest : Option String
  /-- The processor limit. -/
  cpuLimit : Option String
  /-- The requested memory. -/
  memoryRequest : Option String
  /-- The memory limit. -/
  memoryLimit : Option String
  /-- The requested ephemeral storage. -/
  storageRequest : Option String
  /-- The ephemeral storage limit. -/
  storageLimit : Option String
  deriving DecidableEq, Repr, Inhabited

namespace Quantities

/-- No quantity is set. -/
def none : Quantities :=
  ⟨Option.none, Option.none, Option.none, Option.none, Option.none, Option.none⟩

/-- No quantity is set, as a test. -/
def isEmpty (q : Quantities) : Bool :=
  q.cpuRequest.isNone && q.cpuLimit.isNone && q.memoryRequest.isNone && q.memoryLimit.isNone &&
    q.storageRequest.isNone && q.storageLimit.isNone

/-- **The first tier that sets a quantity** decides it; tiers that are absent are passed over. -/
def firstSet (quantity : Quantities → Option String) (tiers : List (Option Quantities)) : Option String :=
  tiers.findSome? fun tier => tier.bind quantity

/-- **Merge tiers**, highest precedence first, quantity by quantity. -/
def merge (tiers : List (Option Quantities)) : Quantities where
  cpuRequest := firstSet cpuRequest tiers
  cpuLimit := firstSet cpuLimit tiers
  memoryRequest := firstSet memoryRequest tiers
  memoryLimit := firstSet memoryLimit tiers
  storageRequest := firstSet storageRequest tiers
  storageLimit := firstSet storageLimit tiers

@[simp] theorem firstSet_nil (quantity : Quantities → Option String) : firstSet quantity [] = Option.none := rfl

@[simp] theorem merge_nil : merge [] = none := rfl

end Quantities

/-! ## Requirements of a connector definition -/

/-- The kinds of job a definition may give requirements for. -/
inductive JobType where
  /-- Ask a connector for its specification. -/
  | getSpec
  /-- Check that a connector can connect. -/
  | checkConnection
  /-- Discover the streams of a source. -/
  | discoverSchema
  /-- Move data. -/
  | sync
  /-- Clear a destination. -/
  | resetConnection
  deriving DecidableEq, Repr, Inhabited

namespace JobType

/-- The name of a job type in documents. -/
def name : JobType → String
  | getSpec => "get_spec"
  | checkConnection => "check_connection"
  | discoverSchema => "discover_schema"
  | sync => "sync"
  | resetConnection => "reset_connection"

/-- All job types. -/
def all : List JobType := [getSpec, checkConnection, discoverSchema, sync, resetConnection]

/-- The job type with a given name. -/
def ofName? (s : String) : Option JobType := all.find? fun jobType => jobType.name == s

end JobType

/-- **The requirements of a connector definition**: quantities for every job, and quantities for jobs of given
types that take precedence over them. -/
structure DefinitionRequirements where
  /-- The quantities for every job. -/
  general : Option Quantities
  /-- The quantities for jobs of a type; the first entry of a type counts. -/
  perJobType : List (JobType × Quantities)
  deriving DecidableEq, Repr, Inhabited

namespace DefinitionRequirements

/-- The quantities given for a job type. -/
def forJobType (jobType : JobType) (r : DefinitionRequirements) : Option Quantities :=
  (r.perJobType.find? fun entry => entry.1 == jobType).map Prod.snd

/-- **The two tiers** a definition contributes for a job type: its specific quantities, then its general ones.
A definition without requirements contributes two absent tiers. -/
def tiers (jobType : JobType) (requirements : Option DefinitionRequirements) :
    Option Quantities × Option Quantities :=
  match requirements with
  | some r => (r.forJobType jobType, r.general)
  | none => (none, none)

end DefinitionRequirements

end ConnectionJobs
