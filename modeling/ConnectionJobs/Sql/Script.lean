import ConnectionJobs.Sql.Stores

/-!
# Scripted engines

A database can be stood in for by a **script**: the answers that successive statements get, and the sessions
that fail to open or to commit. The scripted engine writes down every session and statement, so that what the
stores do to a database can be read off.
-/

namespace ConnectionJobs.Sql.Script

/-- **What a statement is answered.** -/
inductive Answer where
  /-- A table. -/
  | table (table : Table)
  /-- A failure. -/
  | failure (failure : Failure)
  deriving Inhabited

/-- **What happens on the engine.** -/
inductive Happening where
  /-- A session is opened. -/
  | started (kind : SessionKind)
  /-- A statement is executed. -/
  | executed (statement : Statement)
  /-- A session ends. -/
  | finished (ending : SessionEnd)
  deriving Repr

/-- **The state of a scripted engine.** -/
structure Play where
  /-- The answers still to give. -/
  answers : List Answer
  /-- The numbers of the sessions that fail to open. -/
  failingStarts : List Nat
  /-- The numbers of the transactions that fail to commit. -/
  failingCommits : List Nat
  /-- The number of sessions opened so far. -/
  sessions : Nat
  /-- What has happened, in order. -/
  happenings : List Happening
  /-- The events that were reported, in order. -/
  events : List Log.Event
  deriving Inhabited

/-- **The start of a script.** -/
def Play.start (answers : List Answer) (failingStarts failingCommits : List Nat) : Play where
  answers := answers
  failingStarts := failingStarts
  failingCommits := failingCommits
  sessions := 0
  happenings := []
  events := []

/-- The effect of a scripted engine. -/
abbrev Perform := StateM Play

/-- Write down what happens. -/
def note (happening : Happening) : Attempt Perform Unit :=
  modify fun play => { play with happenings := play.happenings ++ [happening] }

/-- Open a session. -/
def start (kind : SessionKind) : Attempt Perform Unit := do
  note (.started kind)
  let play ← get
  set { play with sessions := play.sessions + 1 }
  if play.sessions ∈ play.failingStarts then throw (.fault .operational)

/-- Answer a statement with the next answer of the script, or with an empty table. -/
def execute (statement : Statement) : Attempt Perform Table := do
  note (.executed statement)
  let play ← get
  match play.answers with
  | [] => return ⟨["id"], []⟩
  | answer :: rest =>
    set { play with answers := rest }
    match answer with
    | .table table => return table
    | .failure failure => throw failure

/-- End the session that was opened last. -/
def finish (ending : SessionEnd) : Attempt Perform Unit := do
  note (.finished ending)
  let play ← get
  if ending = .commit && (play.sessions - 1) ∈ play.failingCommits then throw (.fault .operational)

/-- **The scripted engine.** -/
def engine : Engine Perform := ⟨start, execute, finish⟩

/-- Report an event. -/
def sink : Log.Sink Perform := fun event =>
  modify fun play => { play with events := play.events ++ [event] }

end ConnectionJobs.Sql.Script
