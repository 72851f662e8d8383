/-!
# Execution roles

A job runs as several containers that are sized independently: the source and the destination with their
standard streams, the orchestrator between them, and the heartbeat that watches over them.
-/

namespace ConnectionJobs

/-- **An execution role** of a job. -/
inductive Role where
  /-- The source connector. -/
  | source
  /-- The standard output of the source. -/
  | sourceStdout
  /-- The error output of the source. -/
  | sourceStderr
  /-- The destination connector. -/
  | destination
  /-- The standard input of the destination. -/
  | destinationStdin
  /-- The standard output of the destination. -/
  | destinationStdout
  /-- The error output of the destination. -/
  | destinationStderr
  /-- The process that moves records from source to destination. -/
  | orchestrator
  /-- The process that watches over the others. -/
  | heartbeat
  deriving DecidableEq, Repr, Inhabited

namespace Role

/-- The name of a role in tables and documents. -/
def name : Role → String
  | source => "source"
  | sourceStdout => "source_stdout"
  | sourceStderr => "source_stderr"
  | destination => "destination"
  | destinationStdin => "destination_stdin"
  | destinationStdout => "destination_stdout"
  | destinationStderr => "destination_stderr"
  | orchestrator => "orchestrator"
  | heartbeat => "heartbeat"

/-- **All roles**, in the order in which a bundle lists them. -/
def all : List Role :=
  [source, sourceStdout, sourceStderr, destination, destinationStdin, destinationStdout, destinationStderr,
   orchestrator, heartbeat]

/-- The role with a given name. -/
def ofName? (s : String) : Option Role := all.find? fun role => role.name == s

/-- **A source role** runs only when a live source takes part in the job. -/
def isSource : Role → Bool
  | source | sourceStdout | sourceStderr => true
  | _ => false

end Role

end ConnectionJobs
