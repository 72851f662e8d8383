import ConnectionJobs.Ports

/-!
# Refresh eligibility

Refreshes, and the stamping of generations they rely on, are enabled by a flag, for a connection at a time. The
flag is evaluated for the workspace, the connection and the definitions of its connectors, but not for its
actors.
-/

namespace ConnectionJobs

variable {n : Type → Type}

/-- **The context** in which eligibility is evaluated. -/
def eligibilityContext (workspace connection sourceDefinition destinationDefinition : Option Uuid) :
    Flag.Context where
  workspace := workspace
  connection := connection
  source := none
  sourceDefinition := sourceDefinition
  destination := none
  destinationDefinition := destinationDefinition

/-- **Refreshes are enabled** for a connection. -/
def isRefreshEligible (flags : FlagSource n)
    (workspace connection sourceDefinition destinationDefinition : Option Uuid) : Attempt n Bool :=
  flags.switch Flag.activateRefreshes
    (eligibilityContext workspace connection sourceDefinition destinationDefinition)

end ConnectionJobs
