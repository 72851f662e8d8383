/-!
# Assembling components

The components of job creation are put together from parts, and each has to be given all of its parts. A
component that is not is refused, and the first missing part is named.
-/

namespace ConnectionJobs

/-- **The components** of job creation. -/
inductive Component where
  /-- What creates jobs. -/
  | jobCreator
  /-- What resolves resources. -/
  | resourceResolver
  /-- The catalog of resource defaults. -/
  | defaultsCatalog
  /-- What decides whether refreshes are enabled. -/
  | eligibilityGate
  /-- What stamps catalogs. -/
  | catalogStamper
  /-- What bumps generations. -/
  | generationBumper
  /-- What clears the cursors of refreshed streams. -/
  | cursorClearer
  /-- A store over a database. -/
  | databaseStore
  deriving DecidableEq, Repr, Inhabited

namespace Component

/-- **The parts** of a component, in the order in which they are checked. -/
def parts : Component → List String
  | jobCreator =>
    ["job_queue", "resource_resolver", "eligibility_gate", "generation_tagger", "generation_counter",
     "state_persistence", "refresh_state_updater", "stream_refresh_repository"]
  | resourceResolver => ["flag_evaluator", "defaults_catalog"]
  | defaultsCatalog => ["base_defaults"]
  | eligibilityGate => ["flag_evaluator"]
  | catalogStamper | generationBumper => ["generation_repository"]
  | cursorClearer => ["state_persistence"]
  | databaseStore => ["engine"]

/-- **The first part that is missing.** -/
def firstMissing (component : Component) (missing : List String) : Option String :=
  component.parts.find? fun part => part ∈ missing

/-- The message about a missing part. -/
def missingMessage (part : String) : String := part ++ " must not be None"

/-- **Assemble a component** without some of its parts. -/
def assemble (component : Component) (missing : List String) : Except String Unit :=
  match component.firstMissing missing with
  | some part => .error (missingMessage part)
  | none => .ok ()

end Component

end ConnectionJobs
