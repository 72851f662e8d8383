import ConnectionJobs.Digest.Sha256
import ConnectionJobs.Sql.Session
import ConnectionJobs.State.Document
import ConnectionJobs.Text.Blank

/-!
# The stores over a database

The queue and the stores that job creation works with, over a database engine. Every operation is one session
with its statements; writing operations are transactions.

The queue takes a job in two steps inside one transaction. A lock on the scope is tried first: a caller that
does not get it has lost a race and creates nothing. Then the job is inserted unless its scope has an active
job. The lock keys come from a digest of the trimmed scope, so scopes that differ only by blanks around them
contend for the same lock and the same place.
-/

namespace ConnectionJobs.Sql

variable {n : Type → Type} [Monad n]

/-! ## The queue -/

/-- **The keys of the lock of a scope**: the first two words of a digest of it. -/
def lockKeys (scope : String) : Int × Int :=
  let digest := Digest.sha256 ("jobs:" ++ scope).toUTF8.toList
  (Digest.signedWord digest.a, Digest.signedWord digest.b)

/-- The text of a configuration, which must not nest too deeply. -/
def configText (config : JobConfig) : Attempt n String :=
  match config.text? with
  | some text => pure text
  | none => throw .documentTooDeep

/-- Take the lock of a scope: whether it was free. -/
def takeLock (engine : Engine n) (scope : String) : Attempt n Bool := do
  let (key1, key2) := lockKeys scope
  let row ← onlyRow (← engine.execute (.tryLock key1 key2))
  let acquired ← reading (row.cell "lock_acquired")
  return acquired.isTruthy

/-- Insert a job under a scope: its number, or nothing when the scope has an active job. -/
def insertJob (engine : Engine n) (scope : String) (config : JobConfig) : Attempt n (Option Int) := do
  let text ← configText config
  let table ← engine.execute (.insertJob config.kind scope text)
  match table.first? with
  | none => return none
  | some row =>
    let cell ← reading (row.cell "id")
    some <$> reading cell.integer

/-- **Put a job into the queue.** -/
def enqueue (engine : Engine n) (scope : String) (config : JobConfig) : Attempt n (Option Int) := do
  let trimmed := Text.trim scope
  if trimmed.isEmpty then throw .blankScope
  storing "failed to enqueue job" <| engine.transact do
    if ← takeLock engine trimmed then insertJob engine trimmed config else return none

/-- **Replace the configuration of a job.** -/
def updateConfig (engine : Engine n) (job : Int) (config : JobConfig) : Attempt n Unit :=
  storing "failed to update job config" <| engine.transact do
    let text ← configText config
    let table ← engine.execute (.updateConfig text job)
    if table.first?.isNone then throw (.jobNotFound job)

/-- The queue over a database. -/
def jobQueue (engine : Engine n) : JobQueue n := ⟨enqueue engine, updateConfig engine⟩

/-! ## Saved states -/

section SavedStates

variable [Json.Release]

/-- **Check a stored state**, handed over as text, as bytes or decoded. -/
def checkState : Cell → Checked SavedState
  | .value (.text s) => decodeText Decoder.savedState s
  | .bytes s => decodeText Decoder.savedState s
  | .value json => Decoder.savedState json

/-- The state in a cell. -/
def stateOfCell (cell : Cell) : Attempt n SavedState :=
  match checkState cell with
  | .valid state => pure state
  | .invalid problems => throw (.persistence "stored connection state is invalid" (some (.invalid problems)))

/-- **Read the saved state** of a connection. -/
def getState (engine : Engine n) (connection : Uuid) : Attempt n (Option SavedState) := do
  let table ← storing "failed to read connection state" <| engine.read <|
    engine.execute (.selectState connection)
  match table.first? with
  | none => return none
  | some row =>
    let cell ← reading (row.cell "state")
    if cell.isNull then return none
    some <$> stateOfCell cell

/-- **Write the saved state** of a connection. -/
def putState (engine : Engine n) (connection : Uuid) (state : SavedState) : Attempt n Unit :=
  storing "failed to write connection state" <| engine.transact do
    match state.text? with
    | some text => discard (engine.execute (.upsertState connection text))
    | none => throw .documentTooDeep

/-- The store of saved states over a database. -/
def stateStore (engine : Engine n) : StateStore n := ⟨getState engine, putState engine⟩

end SavedStates

/-! ## Refresh requests -/

/-- **A listed request**, its stream named by whatever the row holds. -/
structure ListedRequest where
  /-- The connection. -/
  connection : Uuid
  /-- The cell of the stream name. -/
  name : Cell
  /-- The cell of the stream namespace. -/
  space : Cell

/-- The request in a row. -/
def listedRequest (row : Row) : Except CellProblem ListedRequest := do
  let connection ← (← row.cell "connection_id").uuid
  let name ← row.cell "stream_name"
  let space ← row.cell "stream_namespace"
  return ⟨connection, name, space⟩

/-- **List the pending refresh requests** of a connection. -/
def listRequests (engine : Engine n) (connection : Uuid) : Attempt n (List ListedRequest) := do
  let table ← storing "failed to list stream refreshes" <| engine.read <|
    engine.execute (.listRequests connection)
  reading (table.toRows.mapM listedRequest)

/-- **Delete the pending refresh request** of a stream. Deleting a request that is not there does nothing. -/
def deleteRequest (engine : Engine n) (connection : Uuid) (name : String) (space : Option String) :
    Attempt n Unit :=
  storing "failed to delete stream refresh" <| engine.transact <|
    discard (engine.execute (.deleteRequest connection ⟨name, space⟩))

/-- The store of refresh requests over a database. -/
def requestStore (engine : Engine n) : RequestStore n := ⟨deleteRequest engine⟩

/-! ## Generations -/

/-- **A listed generation**, its stream named by whatever the row holds. -/
structure ListedGeneration where
  /-- The cell of the stream name. -/
  name : Cell
  /-- The cell of the stream namespace. -/
  space : Cell
  /-- The generation. -/
  generation : Int

/-- The generation in a row. -/
def listedGeneration (row : Row) : Except CellProblem ListedGeneration := do
  let name ← row.cell "stream_name"
  let space ← row.cell "stream_namespace"
  let generation ← (← row.cell "generation_id").integer
  return ⟨← name.hashable, ← space.hashable, generation⟩

/-- **List the latest generations** of the streams of a connection. -/
def listGenerations (engine : Engine n) (connection : Uuid) : Attempt n (List ListedGeneration) := do
  let table ← storing "failed to read stream generations" <| engine.read <|
    engine.execute (.latestGenerations connection)
  reading (table.toRows.mapM listedGeneration)

/-- Two listed generations are about one stream. -/
def ListedGeneration.sameStream (a b : ListedGeneration) : Bool :=
  a.name.sameAs b.name && a.space.sameAs b.space

/-- Add a generation to those listed. One for a stream that is listed already replaces its number there. -/
def addListed (listed : List ListedGeneration) (g : ListedGeneration) : List ListedGeneration :=
  if listed.any g.sameStream then
    listed.map fun other => if g.sameStream other then { other with generation := g.generation } else other
  else listed ++ [g]

/-- **One generation per stream**: streams in the order in which they are first listed, each with the number
that is listed last. -/
def settleListed (listed : List ListedGeneration) : List ListedGeneration := listed.foldl addListed []

/-- The stream of a listed generation, when its cells name one. -/
def ListedGeneration.stream? (g : ListedGeneration) : Option StreamId :=
  match g.name.text?, g.space.nullableText? with
  | some name, some space => some ⟨name, space⟩
  | _, _ => none

/-- **The generations of streams** among those listed; of several for one stream the last counts. -/
def generationsOf (listed : List ListedGeneration) : Generations :=
  Keyed.settle (listed.filterMap fun g => g.stream?.map fun s => (s, g.generation))

/-- **The current generations** of the streams of a connection. -/
def currentGenerations (engine : Engine n) (connection : Uuid) : Attempt n Generations := do
  return generationsOf (← listGenerations engine connection)

/-- **Record generations** started by a job. Without any, no session is opened. -/
def insertGenerations (engine : Engine n) (connection : Uuid) (job : Int)
    (generations : List (StreamId × Int)) : Attempt n Unit :=
  if generations.isEmpty then pure ()
  else
    let entries := generations.map fun (stream, generation) => ⟨connection, stream, generation, job⟩
    storing "failed to insert stream generations" <| engine.transact <|
      discard (engine.execute (.insertGenerations entries))

/-- The store of generations over a database. -/
def generationStore (engine : Engine n) : GenerationStore n :=
  ⟨currentGenerations engine, insertGenerations engine⟩

end ConnectionJobs.Sql
