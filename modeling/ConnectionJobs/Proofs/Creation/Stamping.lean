import ConnectionJobs.Proofs.Generation.Recording
import ConnectionJobs.Proofs.Job.RoundTrip
import ConnectionJobs.Proofs.Queue.Dialogue

/-!
# What a stamp changes

The configuration of a job is stored twice: plain when the job is enqueued, and stamped when the generations are
known. The second is made from the first by giving it another catalog, and that catalog from the plain one by
writing three numbers on every stream. So nothing else of a stored configuration ever changes; in particular its
kind, which the queue keeps in a column of its own, stays the one written inside the document.

Creations run here with the library's own stamp over an open store of generations (`Services.tagging`); every other
component is a port. What they ask of the queue is one of three lists of steps (`QueueCourse`).
-/

namespace ConnectionJobs

/-- **Components whose stamp is the library's own**, over an open store of generations. -/
def Services.tagging : Services Program :=
  { ported with stamp := stampCatalog Program.surroundings.generations }

/-- A configuration with another catalog. -/
def JobConfig.withCatalog (catalog : Catalog) : JobConfig → JobConfig
  | .sync config => .sync (config.withCatalog catalog)
  | .refresh config => .refresh (config.withCatalog catalog)
  | .reset config => .reset { config with catalog := catalog }

/-- **A catalog is stamped for a job**: it has the same streams in the same order, and they differ in their
generations and in the job alone. -/
def StampedFor (job : Int) (plain stamped : Catalog) : Prop :=
  List.Forall₂ (fun s t => ∃ generation minimum : Int, t = { s with
    generation := some generation, minimumGeneration := some minimum, syncId := some job })
    plain.streams stamped.streams

theorem stampedFor_stamp (catalog : Catalog) (generations : Generations) (job : Int) (refreshed : List StreamId) :
    StampedFor job catalog (catalog.stamp generations job refreshed) := by
  rw [StampedFor, Catalog.streams_stamp, List.forall₂_map_right_iff, List.forall₂_same]
  exact fun s _ => ⟨_, _, rfl⟩

/-! ## What a creation asks of the queue -/

/-- The call on the queue that a step makes, if it makes one. -/
def Step.queueCall? : Step → Option Sql.QueueCall
  | called (.enqueue scope config) _ => some (.enqueue scope config)
  | called (.updateConfig job config) _ => some (.updateConfig job config)
  | _ => none

/-- The steps that are calls on the queue, in order. -/
def queueSteps (steps : List Step) : List Step := steps.filter fun step => step.queueCall?.isSome

/-- **What a creation asks of the queue**, for a job of some kind. -/
inductive QueueCourse (kind : JobKind) : List Step → Prop
  /-- Nothing. -/
  | none : QueueCourse kind []
  /-- The job is enqueued, or it is not. -/
  | enqueued {scope : String} {config : JobConfig} {answer : Except Failure (Option Int)}
      (of_kind : config.kind = kind) :
      QueueCourse kind [.called (.enqueue scope config) answer]
  /-- The job is enqueued, and its configuration is to be replaced by its stamped version. -/
  | patched {scope : String} {config : JobConfig} {job : Int} {catalog : Catalog} {result : Except Failure Unit}
      (of_kind : config.kind = kind) (stamped : StampedFor job config.catalog catalog) :
      QueueCourse kind [.called (.enqueue scope config) (.ok (some job)),
        .called (.updateConfig job (config.withCatalog catalog)) result]

section QueueSteps

variable {s t : List Step} {connection : Uuid} {requests : List RefreshRequest}

@[simp] theorem queueSteps_nil : queueSteps [] = [] := rfl

@[simp] theorem queueSteps_append : queueSteps (s ++ t) = queueSteps s ++ queueSteps t := List.filter_append ..

@[simp] theorem queueSteps_reported (event : Log.Event) : queueSteps (.reported event :: s) = queueSteps s := rfl

@[simp] theorem queueSteps_updateConfig {job : Int} {config : JobConfig} (result : Except Failure Unit) :
    queueSteps (.called (.updateConfig job config) result :: s) =
      .called (.updateConfig job config) result :: queueSteps s := rfl

/-- Calls of the first and the last phase are not on the queue. -/
theorem queueSteps_eq_nil (h : ∀ call ∈ calls s, call.phase = .opening ∨ call.phase = .cleaning) :
    queueSteps s = [] := by
  rw [queueSteps, List.filter_eq_nil_iff]
  intro step hs queue
  unfold Step.queueCall? at queue
  split at queue
  · exact absurd (h _ (mem_calls.mpr ⟨_, hs⟩)) (by simp)
  · exact absurd (h _ (mem_calls.mpr ⟨_, hs⟩)) (by simp)
  · exact nomatch queue

@[simp] theorem queueSteps_failureReports {α : Type} (report : Failure → Log.Event) (result : Except Failure α) :
    queueSteps (failureReports report result) = [] :=
  queueSteps_eq_nil fun _ h => absurd h (by simp)

end QueueSteps

namespace Services

variable {inputs : JobInputs} {requests : List RefreshRequest} {resources : Bundle} {job : Int} {steps : List Step}

theorem Opened.queueSteps (h : Opened tagging inputs resources steps) : queueSteps steps = [] := by
  obtain ⟨gate, resolution⟩ := h
  obtain rfl := runs_ask.mp gate
  obtain rfl := runs_ask.mp resolution
  rfl

/-- What a refresh has asked of the queue when its catalog is stamped. -/
theorem Stamped.queueSteps {catalog : Catalog} (h : Stamped tagging inputs requests resources job catalog steps) :
    ConnectionJobs.queueSteps steps = [.called (.enqueue inputs.connection.connectionId.text
        (.refresh (refreshConfig inputs requests resources))) (.ok (some job))] ∧
      StampedFor job inputs.connection.catalog catalog := by
  obtain ⟨⟨⟨opened⟩, bump⟩, stamp⟩ := h
  obtain rfl := runs_ask.mp bump
  obtain ⟨_, -, hf⟩ | ⟨generations, rfl, hc⟩ := runs_stampCatalog.mp stamp
  · exact nomatch hf
  cases hc
  refine ⟨?_, stampedFor_stamp _ _ _ _⟩
  rw [queueSteps_append, queueSteps_append, queueSteps_append, opened.queueSteps]
  rfl

/-- **What a refresh asks of the queue**, wherever it ends. -/
theorem RefreshCourse.queueCourse {outcome : Except Failure (Option Int)}
    (h : RefreshCourse tagging inputs requests steps outcome) :
    QueueCourse .refresh (ConnectionJobs.queueSteps steps) := by
  cases h with
  | gateFailed gate =>
    obtain rfl := runs_ask.mp gate
    exact .none
  | refused gate =>
    obtain rfl := runs_ask.mp gate
    exact .none
  | unresolved gate resolution =>
    obtain rfl := runs_ask.mp gate
    obtain rfl := runs_ask.mp resolution
    exact .none
  | queueFailed opened =>
    rw [queueSteps_append, opened.queueSteps]
    exact .enqueued rfl
  | lost opened =>
    rw [queueSteps_append, opened.queueSteps]
    exact .enqueued rfl
  | bumpFailed enqueued bump =>
    obtain ⟨opened⟩ := enqueued
    obtain rfl := runs_ask.mp bump
    rw [queueSteps_append, queueSteps_append, opened.queueSteps]
    exact .enqueued rfl
  | stampFailed bumped stamp =>
    obtain ⟨⟨opened⟩, bump⟩ := bumped
    obtain rfl := runs_ask.mp bump
    obtain ⟨_, rfl, -⟩ | ⟨_, -, hf⟩ := runs_stampCatalog.mp stamp
    · rw [queueSteps_append, queueSteps_append, queueSteps_append, opened.queueSteps]
      exact .enqueued rfl
    · exact nomatch hf
  | patchFailed stamped =>
    obtain ⟨first, restamped⟩ := stamped.queueSteps
    rw [queueSteps_append, first, queueSteps_updateConfig, queueSteps_failureReports]
    exact .patched rfl restamped
  | patched stamped cleanUp =>
    obtain ⟨first, restamped⟩ := stamped.queueSteps
    rw [queueSteps_append, first, queueSteps_updateConfig,
      queueSteps_eq_nil fun call h => .inr (cleanUp.cleaning (fun _ _ _ => cleaning_of_ask) call h)]
    exact .patched rfl restamped

/-- What a sync has asked of the queue when its job is there, whatever the gate answers then. -/
theorem SyncEnqueued.queueSteps {t : List Step} {answer : Except Failure Bool}
    (h : SyncEnqueued tagging inputs resources job steps)
    (gate : Runs (tagging.collaborators.isEligibleFor inputs) t answer) :
    ConnectionJobs.queueSteps (steps ++ t) = [.called (.enqueue inputs.connection.connectionId.text
      (.sync (syncConfig inputs resources))) (.ok (some job))] := by
  obtain ⟨resolution⟩ := h
  obtain rfl := runs_ask.mp resolution
  obtain rfl := runs_ask.mp gate
  rfl

/-- **What a sync asks of the queue**, wherever it ends. -/
theorem SyncCourse.queueCourse {outcome : Except Failure (Option Int)} (h : SyncCourse tagging inputs steps outcome) :
    QueueCourse .sync (ConnectionJobs.queueSteps steps) := by
  cases h with
  | unresolved resolution =>
    obtain rfl := runs_ask.mp resolution
    exact .none
  | queueFailed resolution =>
    obtain rfl := runs_ask.mp resolution
    exact .enqueued rfl
  | lost resolution =>
    obtain rfl := runs_ask.mp resolution
    exact .enqueued rfl
  | gateFailed enqueued gate =>
    rw [enqueued.queueSteps gate]
    exact .enqueued rfl
  | unstamped enqueued gate =>
    rw [queueSteps_append, enqueued.queueSteps gate]
    exact .enqueued rfl
  | stampFailed enqueued gate stamp =>
    obtain ⟨_, rfl, -⟩ | ⟨_, -, hf⟩ := runs_stampCatalog.mp stamp
    · rw [queueSteps_append, enqueued.queueSteps gate]
      exact .enqueued rfl
    · exact nomatch hf
  | stamped enqueued gate stamp =>
    obtain ⟨_, -, hf⟩ | ⟨generations, rfl, hc⟩ := runs_stampCatalog.mp stamp
    · exact nomatch hf
    cases hc
    rw [queueSteps_append, queueSteps_append, enqueued.queueSteps gate, queueSteps_updateConfig,
      queueSteps_failureReports]
    exact .patched rfl (stampedFor_stamp _ _ _ _)

end Services

/-- The kind of job that a call is for. -/
def CreationCall.kind : CreationCall → JobKind
  | sync _ => .sync
  | refresh _ _ => .refresh
  | reset _ _ _ _ => .reset

/-- **What a reset asks of the queue** is at most the job itself. -/
theorem Services.queueSteps_createReset {live : Connection} {destination : ConnectorDefinition} {image : ConnectorImage}
    {streams : List StreamId} {steps : List Step} {outcome : Except Failure (Option Int)}
    (h : Runs (tagging.collaborators.createReset live destination image streams) steps outcome) :
    queueSteps steps = [] ∨ ∃ scope config answer, config.kind = .reset ∧
      queueSteps steps = [.called (.enqueue scope config) answer] := by
  rw [Collaborators.createReset, runs_bind] at h
  obtain ⟨_, h, -⟩ | ⟨_, s, t, hs, ht, rfl⟩ := h
  · obtain rfl := runs_ask.mp h
    exact .inl rfl
  · obtain rfl := runs_ask.mp hs
    obtain ⟨_, -, rfl⟩ | ⟨_, -, rfl⟩ := runs_enqueue.mp ht
    · exact .inr ⟨_, _, _, rfl, rfl⟩
    · exact .inr ⟨_, _, _, rfl, rfl⟩

/-- **What a creation of any kind asks of the queue.** -/
theorem Services.queueCourse_of_runs {call : CreationCall} {steps : List Step} {outcome : Except Failure (Option Int)}
    (h : Runs (call.attempt tagging.collaborators) steps outcome) : QueueCourse call.kind (queueSteps steps) := by
  cases call with
  | sync inputs => exact (syncCourse_of_runs h).queueCourse
  | refresh inputs requests => exact (refreshCourse_of_runs h).queueCourse
  | reset live destination image streams =>
    obtain none | ⟨_, _, _, of_kind, one⟩ := queueSteps_createReset h
    · rw [none]
      exact .none
    · rw [one]
      exact .enqueued of_kind

/-! ## The kind of a stored job -/

/-- **The tag of a stored document** says what kind of job it configures. -/
def Json.tag? (document : Json) : Option Json := Keyed.find? "config_type" document.heldMembers

/-- A configuration carries its kind as a tag. -/
theorem JobConfig.tag?_toJson (config : JobConfig) : config.toJson.tag? = some (.text config.kind.name) := by
  cases config <;> rfl

theorem JobConfig.kind_withCatalog (config : JobConfig) (catalog : Catalog) :
    (config.withCatalog catalog).kind = config.kind := by cases config <;> rfl

/-- The tag is read back, whenever anything is. -/
theorem JobConfig.tag?_of_read {config : JobConfig} {document : Json}
    (read : Json.readDocument? config.toJson.write = some document) :
    document.tag? = some (.text config.kind.name) := by
  by_cases within : config.toJson.depth ≤ 201 ∧ config.toJson.Short
  · rw [Json.readDocument?_write within.2 within.1, asRead_toJson] at read
    cases read
    rw [tag?_toJson, kind_asRead]
  · rw [Json.readDocument?_outside within] at read
    exact nomatch read

namespace Sql

/-- **A statement stores a kind of job consistently**: the kind it binds for the column, if it binds one, is the kind,
and so is the tag of the configuration it binds, both in the document as it is written and in what is read back. -/
def Statement.Stores (kind : JobKind) (statement : Statement) : Prop :=
  match statement.parameters with
  | .single values =>
    (∀ column, Keyed.find? "config_type" values = some column → column = .text kind.name) ∧
      ∀ stored, Keyed.find? "config" values = some stored → ∃ document : Json, stored = .text document.write ∧
        document.tag? = some (.text kind.name) ∧
        ∀ read, Json.readDocument? document.write = some read → read.tag? = some (.text kind.name)
  | .batch _ => True

/-- An operation that executes a statement stores what the statement does. -/
def Operation.Stores (kind : JobKind) : Operation → Prop
  | .execute statement => statement.Stores kind
  | .start _ | .finish _ => True

/-- **Everything that a dialogue asks for**, on each of its branches, is of some kind. -/
inductive Dialogue.Every {α : Type} (p : Operation → Prop) : Dialogue α → Prop
  /-- Nothing is asked for. -/
  | done (value : α) : Every p (done value)
  /-- The operation is of the kind, and so is everything after it. -/
  | ask {operation : Operation} {next : Except Failure operation.Answer → Dialogue α} (here : p operation)
      (rest : ∀ outcome, Every p (next outcome)) : Every p (ask operation next)

section Every

variable {α β : Type} {p : Operation → Prop} {kind : JobKind} {config : JobConfig}

theorem Dialogue.Every.andThen {d : Dialogue α} {f : α → Dialogue β} (h : d.Every p) (next : ∀ a, (f a).Every p) :
    (d.andThen f).Every p := by
  induction h with
  | done value => exact next value
  | ask here _ ih => exact .ask here ih

/-- A transaction asks for what its body asks for, and to be opened and ended. -/
theorem every_transaction {message : String} {body : Dialogue (Except Failure α)} (h : body.Every p)
    (start : p (.start .writing)) (finish : ∀ ending, p (.finish ending)) : (transaction message body).Every p := by
  refine .ask start fun outcome => ?_
  cases outcome with
  | error failure => exact .done _
  | ok opened =>
    refine h.andThen fun result => ?_
    cases result <;> refine .ask (finish _) fun ended => ?_ <;> cases ended <;> exact .done _

/-- A statement is asked for, and then what is asked for on its table. -/
theorem every_executing {statement : Statement} {next : Table → Dialogue (Except Failure α)}
    (here : p (.execute statement)) (rest : ∀ table, (next table).Every p) :
    (Dialogue.executing statement next).Every p := by
  refine .ask here fun outcome => ?_
  cases outcome with
  | error failure => exact .done _
  | ok table => exact rest table

/-- The text of a configuration carries its kind. -/
theorem exists_document_of_text? {text : String} (written : config.text? = some text) (of_kind : config.kind = kind) :
    ∃ document : Json, Json.text text = .text document.write ∧ document.tag? = some (.text kind.name) ∧
      ∀ read, Json.readDocument? document.write = some read → read.tag? = some (.text kind.name) := by
  subst of_kind
  refine ⟨config.toJson, ?_, config.tag?_toJson, fun _ => JobConfig.tag?_of_read⟩
  rw [JobConfig.eq_write_of_text? written]

/-- The lock of a scope stores nothing. -/
theorem stores_tryLock {key1 key2 : Int} : (Operation.execute (.tryLock key1 key2)).Stores kind := ⟨nofun, nofun⟩

/-- The insertion of a job stores its kind consistently. -/
theorem stores_insertDialogue {scope : String} (of_kind : config.kind = kind) :
    (insertDialogue scope config).Every (Operation.Stores kind) := by
  unfold insertDialogue
  split
  · exact .done _
  · rename_i text written
    refine every_executing ⟨?_, ?_⟩ fun _ => .done _
    · rintro _ ⟨⟩
      rw [of_kind]
    · rintro _ ⟨⟩
      exact exists_document_of_text? written of_kind

/-- **Enqueuing a job stores its kind consistently.** -/
theorem stores_enqueue {scope : String} (of_kind : config.kind = kind) :
    (QueueCall.enqueue scope config).dialogue.Every (Operation.Stores kind) := by
  rw [dialogue_enqueue]
  by_cases blank : (Text.trim scope).isEmpty = true
  · rw [if_pos blank]
    exact .done _
  · rw [if_neg blank, enqueueDialogue, lockDialogue]
    refine every_transaction (every_executing stores_tryLock fun table => ?_) trivial fun _ => trivial
    obtain failure | taken := lockOutcome table
    · exact .done _
    · cases taken with
      | false => exact .done _
      | true => exact stores_insertDialogue of_kind

/-- **Replacing the configuration of a job stores its kind consistently.** -/
theorem stores_updateConfig {job : Int} (of_kind : config.kind = kind) :
    (QueueCall.updateConfig job config).dialogue.Every (Operation.Stores kind) := by
  rw [dialogue_updateConfig]
  refine (every_transaction ?_ trivial fun _ => trivial).andThen fun _ => .done _
  unfold updateDialogue
  split
  · exact .done _
  · rename_i text written
    refine every_executing ⟨nofun, ?_⟩ fun _ => .done _
    rintro _ ⟨⟩
    exact exists_document_of_text? written of_kind

end Every

end Sql

/-! ## Every creation -/

/-- **A stored configuration is changed by its stamp only.** -/
structure StampedOnly (kind : JobKind) (steps : List Step) : Prop where
  /-- The job is enqueued at most once, and then its configuration is replaced at most once, under the number the queue
  has given it, by the one that was enqueued with its catalog stamped. -/
  course : QueueCourse kind (queueSteps steps)
  /-- The configuration of a reset is never replaced. -/
  unpatched : kind = .reset → ∀ job config result, .called (.updateConfig job config) result ∉ steps
  /-- The column and the tags of all stored documents tell the same kind. -/
  stores : ∀ call ∈ steps.filterMap Step.queueCall?, call.dialogue.Every (Sql.Operation.Stores kind)

/-- The calls that a course makes store its kind consistently. -/
theorem QueueCourse.stores {kind : JobKind} {steps : List Step} (h : QueueCourse kind steps) :
    ∀ call ∈ steps.filterMap Step.queueCall?, call.dialogue.Every (Sql.Operation.Stores kind) := by
  intro call hm
  cases h with
  | none => exact absurd hm List.not_mem_nil
  | @enqueued scope config answer of_kind =>
    obtain rfl : call = .enqueue scope config := List.mem_singleton.mp hm
    exact Sql.stores_enqueue of_kind
  | @patched scope config job catalog result of_kind _ =>
    have hm : call ∈ [Sql.QueueCall.enqueue scope config, .updateConfig job (config.withCatalog catalog)] := hm
    obtain rfl | rfl := List.mem_pair.mp hm
    · exact Sql.stores_enqueue of_kind
    · exact Sql.stores_updateConfig ((config.kind_withCatalog catalog).trans of_kind)

theorem filterMap_queueSteps (steps : List Step) :
    (queueSteps steps).filterMap Step.queueCall? = steps.filterMap Step.queueCall? := by
  rw [queueSteps, List.filterMap_filter]
  refine List.filterMap_congr fun step _ => ?_
  cases h : step.queueCall? <;> rfl

/-- **Whatever the ports do, a creation changes the configuration it has enqueued by stamping it, and in no other
way.** -/
theorem Services.stampedOnly_of_runs {call : CreationCall} {steps : List Step} {outcome : Except Failure (Option Int)}
    (h : Runs (call.attempt tagging.collaborators) steps outcome) : StampedOnly call.kind steps where
  course := queueCourse_of_runs h
  unpatched reset job config result hm := by
    cases call with
    | sync _ => exact nomatch reset
    | refresh _ _ => exact nomatch reset
    | reset live destination image streams =>
      have asked : .called (.updateConfig job config) result ∈ queueSteps steps := List.mem_filter.mpr ⟨hm, rfl⟩
      obtain none | ⟨_, _, _, -, one⟩ := queueSteps_createReset h
      · rw [none] at asked
        exact List.not_mem_nil asked
      · rw [one] at asked
        exact nomatch List.mem_singleton.mp asked
  stores := by
    rw [← filterMap_queueSteps]
    exact (queueCourse_of_runs h).stores

/-! ## A sync whose patch fails -/

namespace LostPatch

/-- A job of a connection that has one stream. -/
def inputs : JobInputs :=
  { (default : JobInputs) with
    connection := { (default : Connection) with
      catalog := ⟨[{ (default : ConfiguredStream) with stream := ⟨"users", none⟩ }]⟩ } }

/-- A sync that is enqueued and stamped, and whose stamped configuration the queue does not take. -/
def steps : List Step :=
  [.called (.resolve inputs.connection (.live default) default false) (.ok (default : Bundle)),
    .called (.enqueue (default : Uuid).text (.sync (Services.syncConfig inputs default))) (.ok (some 2)),
    .reported (enqueueReport default .sync (some 2)),
    .called (.eligibility default default default default) (.ok true),
    .called (.currentGenerations default) (.ok [(⟨"users", none⟩, 3)]),
    .called (.updateConfig 2 (.sync ((Services.syncConfig inputs default).withCatalog
      (inputs.connection.catalog.stamp [(⟨"users", none⟩, 3)] 2 [])))) (.error (.persistence "lost" none)),
    .reported (patchReport 2)]

theorem runs_steps : Runs (CreationCall.attempt Services.tagging.collaborators (.sync inputs)) steps
    (.error (.persistence "lost" none)) := by
  change Program.Leads _ _ _
  exact .call (.call (.report (.call (.call (.call (.report (.here _)))))))

/-- What the sync asks the queue to store differs in its stamp only. -/
theorem stampedOnly_lostPatch : StampedOnly .sync steps := Services.stampedOnly_of_runs runs_steps

end LostPatch

end ConnectionJobs
