import ConnectionJobs.Database.Engine
import ConnectionJobs.Job.Creation
import ConnectionJobs.Settings.Load
import ConnectionJobs.Sql.Stores

/-!
# The service

Starting the service loads the settings and sets up the log. From then on jobs are created over a database
engine, with flags and defaults answered from the settings; events below the level of the log are dropped.
-/

namespace ConnectionJobs

/-- **A started service.** -/
structure Service where
  /-- Its settings. -/
  settings : Settings
  /-- Its log. -/
  log : Log.Setup
  deriving DecidableEq, Repr, Inhabited

namespace Service

/-- **Start the service.** A level that the settings accept is always known to the log. -/
def start (surroundings : Settings.Surroundings) : Except Settings.LoadFailure Service := do
  let settings ← Settings.load surroundings
  return ⟨settings, ⟨(Log.levelNumber? settings.logLevel).getD 0, settings.logForm⟩⟩

/-- The engine of the service's database. -/
def engine (s : Service) : Except Database.EngineProblem Database.Engine :=
  Database.createEngine s.settings.databaseUrl

variable {n : Type → Type} [Monad n]

/-- Report the events that the log lets through. -/
def sink (s : Service) (log : Log.Sink n) : Log.Sink n := fun event =>
  if s.log.enabled event.level.number then log event else pure ()

/-- **The surroundings of job creation** in the service, over a database engine. -/
def surroundings (s : Service) (log : Log.Sink n) (engine : Sql.Engine n) : Surroundings n where
  log := s.sink log
  flags := s.settings.flagTable.source
  defaults := s.settings.defaultsCatalog.source
  queue := Sql.jobQueue engine
  generations := Sql.generationStore engine
  states := Sql.stateStore engine
  requests := Sql.requestStore engine

end Service

end ConnectionJobs
