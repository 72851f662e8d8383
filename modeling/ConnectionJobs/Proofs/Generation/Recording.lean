import ConnectionJobs.Proofs.Generation.Store

/-!
# What a creation does to the generations

A creation records rows at one place only, in its bump, and there it reads the current generations first; later it
reads them once more, to stamp its catalog. Creations run here with the library's own bump and stamp over an open
store (`Services.generational`). `Recording` lists what the steps of such a creation can be, as far as generations
go, for jobs of every kind at once: a sync is a creation without requests, and a reset is one without generations.
-/

namespace ConnectionJobs

/-- **Creations over an open store of generations**: bump and stamp are the library's own, and every other
component is a port. -/
def Services.generational : Services Program :=
  { ported with
    stamp := stampCatalog Program.surroundings.generations
    bump := bumpGenerations Program.surroundings.generations }

/-- **A call for a job** of one of the three kinds. -/
inductive CreationCall where
  /-- Create a sync job. -/
  | sync (inputs : JobInputs)
  /-- Create a refresh job for requested streams. -/
  | refresh (inputs : JobInputs) (requests : List RefreshRequest)
  /-- Create a reset job for chosen streams. -/
  | reset (connection : Connection) (destination : ConnectorDefinition) (image : ConnectorImage)
      (streams : List StreamId)

namespace CreationCall

/-- The connection that a job is created for. -/
def connection : CreationCall → Connection
  | sync inputs => inputs.connection
  | refresh inputs _ => inputs.connection
  | reset connection _ _ _ => connection

/-- The requests that a call makes generations for. -/
def requests : CreationCall → List RefreshRequest
  | refresh _ requests => requests
  | sync _ | reset _ _ _ _ => []

/-- The creation that a call starts. -/
def attempt {n : Type → Type} [Monad n] (c : Collaborators n) : CreationCall → Attempt n (Option Int)
  | sync inputs => c.createSync inputs
  | refresh inputs requests => c.createRefresh inputs requests
  | reset connection destination image streams => c.createReset connection destination image streams

end CreationCall

/-- Some steps neither read nor change generations, and store no configuration. -/
def Quiet (steps : List Step) : Prop := ∀ call ∈ calls steps, call.phase ≠ .stamping

/-- The queue has taken a job under a number. -/
def Made (job : Int) (steps : List Step) : Prop :=
  ∃ scope config, .called (.enqueue scope config) (.ok (some job)) ∈ steps

/-- **The steps of a creation**, as far as generations go, by where it ends. -/
inductive Recording (connection : Connection) (requests : List RefreshRequest) : List Step → Prop
  /-- Generations play no part. -/
  | quiet {s : List Step} (quiet : Quiet s) : Recording connection requests s
  /-- The bump fails. -/
  | unbumped {s t : List Step} {job : Int} {failure : Failure} (quiet : Quiet s) (made : Made job s)
      (bump : BumpCourse connection.connectionId job requests t (.error failure)) :
      Recording connection requests (s ++ t)
  /-- The generations cannot be read for the stamp. -/
  | unstamped {s t : List Step} {job : Int} {failure : Failure} (quiet : Quiet s) (made : Made job s)
      (bump : BumpCourse connection.connectionId job requests t (.ok ())) :
      Recording connection requests
        (s ++ t ++ [.called (.currentGenerations connection.connectionId) (.error failure)])
  /-- The catalog is stamped, and handed to the queue. -/
  | stamped {s t u : List Step} {job : Int} {generations : Generations} {config : JobConfig}
      {result : Except Failure Unit} (quiet : Quiet s) (made : Made job s)
      (bump : BumpCourse connection.connectionId job requests t (.ok ()))
      (stamp : config.catalog = connection.catalog.stamp generations job (requests.map RefreshRequest.stream))
      (after : Quiet u) :
      Recording connection requests
        (s ++ t ++ .called (.currentGenerations connection.connectionId) (.ok generations) ::
          .called (.updateConfig job config) result :: u)

/-- A call that generations or configurations are about is not among quiet steps. -/
theorem Quiet.notMem {s : List Step} {call : Call} (h : Quiet s) (phase : call.phase = .stamping)
    (answer : Except Failure call.Answer) : .called call answer ∉ s := fun hm =>
  h call (mem_calls.mpr ⟨answer, hm⟩) phase

/-! ## Every creation is a recording -/

theorem Quiet.append {s t : List Step} (hs : Quiet s) (ht : Quiet t) : Quiet (s ++ t) := by
  rw [Quiet, calls_append]
  exact List.forall_mem_append.mpr ⟨hs, ht⟩

theorem quiet_nil : Quiet [] := fun _ h => absurd h List.not_mem_nil

/-- A call of another phase is quiet. -/
theorem Quiet.called {call : Call} {answer : Except Failure call.Answer} {t : List Step}
    (h : call.phase ≠ .stamping) (ht : Quiet t) : Quiet (.called call answer :: t) := by
  rw [Quiet, calls_called]
  exact List.forall_mem_cons.mpr ⟨h, ht⟩

theorem Quiet.reported {event : Log.Event} {t : List Step} (ht : Quiet t) : Quiet (.reported event :: t) := ht

theorem quiet_failureReports {α : Type} (report : Failure → Log.Event) (result : Except Failure α) :
    Quiet (failureReports report result) := by
  rw [Quiet, calls_failureReports]
  exact fun _ h => absurd h List.not_mem_nil

namespace Services

variable {inputs : JobInputs} {requests : List RefreshRequest} {resources : Bundle} {job : Int}
  {steps : List Step} {connection : Uuid}

/-- The cleanup leaves generations alone. -/
theorem CleanUp.quiet {outcome : Except Failure Unit}
    (h : CleanUp generational connection requests steps outcome) : Quiet steps := fun call hm => by
  rw [h.cleaning (fun _ _ _ => cleaning_of_ask) call hm]
  decide

theorem quiet_enqueueing (config : JobConfig) (answer : Option Int) :
    Quiet (enqueueing connection config answer) :=
  .called nofun (.reported quiet_nil)

theorem Opened.quiet (h : Opened generational inputs resources steps) : Quiet steps := by
  obtain ⟨gate, resolution⟩ := h
  obtain rfl := runs_ask.mp gate
  obtain rfl := runs_ask.mp resolution
  exact .called nofun (.called nofun quiet_nil)

theorem Enqueued.quiet (h : Enqueued generational inputs requests resources job steps) :
    Quiet steps ∧ Made job steps := by
  obtain ⟨opened⟩ := h
  exact ⟨opened.quiet.append (quiet_enqueueing _ _), _, _, List.mem_append_right _ List.mem_cons_self⟩

/-- A sync whose job is in the queue asks the gate, and that leaves generations alone. -/
theorem SyncEnqueued.quiet {t : List Step} {answer : Except Failure Bool}
    (h : SyncEnqueued generational inputs resources job steps)
    (gate : Runs (generational.collaborators.isEligibleFor inputs) t answer) :
    Quiet (steps ++ t) ∧ Made job (steps ++ t) := by
  obtain ⟨resolution⟩ := h
  obtain rfl := runs_ask.mp resolution
  obtain rfl := runs_ask.mp gate
  exact ⟨.append (.called nofun (quiet_enqueueing _ _)) (.called nofun quiet_nil), _, _,
    List.mem_append_left _ (List.mem_append_right _ List.mem_cons_self)⟩

/-- The steps of a refresh are a recording of its requests. -/
theorem RefreshCourse.recording {outcome : Except Failure (Option Int)}
    (h : RefreshCourse generational inputs requests steps outcome) :
    Recording inputs.connection requests steps := by
  cases h with
  | gateFailed gate =>
    obtain rfl := runs_ask.mp gate
    exact .quiet (.called nofun quiet_nil)
  | refused gate =>
    obtain rfl := runs_ask.mp gate
    exact .quiet (.called nofun quiet_nil)
  | unresolved gate resolution =>
    obtain rfl := runs_ask.mp gate
    obtain rfl := runs_ask.mp resolution
    exact .quiet (.called nofun (.called nofun quiet_nil))
  | queueFailed opened => exact .quiet (opened.quiet.append (.called nofun quiet_nil))
  | lost opened => exact .quiet (opened.quiet.append (quiet_enqueueing _ _))
  | bumpFailed enqueued bump => exact .unbumped enqueued.quiet.1 enqueued.quiet.2 (bumpCourse_of_runs bump)
  | stampFailed bumped stamp =>
    obtain ⟨enqueued, bump⟩ := bumped
    obtain ⟨_, rfl, -⟩ | ⟨_, -, hf⟩ := runs_stampCatalog.mp stamp
    · exact .unstamped enqueued.quiet.1 enqueued.quiet.2 (bumpCourse_of_runs bump)
    · exact nomatch hf
  | patchFailed stamped =>
    obtain ⟨⟨enqueued, bump⟩, stamp⟩ := stamped
    obtain ⟨_, -, hf⟩ | ⟨_, rfl, hc⟩ := runs_stampCatalog.mp stamp
    · exact nomatch hf
    cases hc
    rw [List.append_assoc _ [_], List.singleton_append]
    exact .stamped enqueued.quiet.1 enqueued.quiet.2 (bumpCourse_of_runs bump) rfl (quiet_failureReports _ _)
  | patched stamped cleanUp =>
    obtain ⟨⟨enqueued, bump⟩, stamp⟩ := stamped
    obtain ⟨_, -, hf⟩ | ⟨_, rfl, hc⟩ := runs_stampCatalog.mp stamp
    · exact nomatch hf
    cases hc
    rw [List.append_assoc _ [_], List.singleton_append]
    exact .stamped enqueued.quiet.1 enqueued.quiet.2 (bumpCourse_of_runs bump) rfl cleanUp.quiet

/-- The steps of a sync are a recording without requests. -/
theorem SyncCourse.recording {outcome : Except Failure (Option Int)}
    (h : SyncCourse generational inputs steps outcome) : Recording inputs.connection [] steps := by
  cases h with
  | unresolved resolution =>
    obtain rfl := runs_ask.mp resolution
    exact .quiet (.called nofun quiet_nil)
  | queueFailed resolution =>
    obtain rfl := runs_ask.mp resolution
    exact .quiet (.called nofun (.called nofun quiet_nil))
  | lost resolution =>
    obtain rfl := runs_ask.mp resolution
    exact .quiet (.called nofun (quiet_enqueueing _ _))
  | gateFailed enqueued gate => exact .quiet (enqueued.quiet gate).1
  | unstamped enqueued gate => exact .quiet ((enqueued.quiet gate).1.append (.reported quiet_nil))
  | @stampFailed s t u _ _ _ enqueued gate stamp =>
    obtain ⟨_, rfl, -⟩ | ⟨_, -, hf⟩ := runs_stampCatalog.mp stamp
    · obtain ⟨quiet, made⟩ := enqueued.quiet gate
      -- A sync makes no bump, which is what a bump without requests does.
      rw [← List.append_nil (s ++ t)]
      exact .unstamped quiet made (.idle rfl)
    · exact nomatch hf
  | @stamped s t u _ _ _ _ enqueued gate stamp =>
    obtain ⟨_, -, hf⟩ | ⟨_, rfl, hc⟩ := runs_stampCatalog.mp stamp
    · exact nomatch hf
    cases hc
    obtain ⟨quiet, made⟩ := enqueued.quiet gate
    rw [List.append_assoc _ [_], List.singleton_append, ← List.append_nil (s ++ t)]
    exact .stamped quiet made (.idle rfl) rfl (quiet_failureReports _ _)

/-- The steps of a reset leave generations alone. -/
theorem quiet_createReset {live : Connection} {destination : ConnectorDefinition} {image : ConnectorImage}
    {streams : List StreamId} {outcome : Except Failure (Option Int)}
    (h : Runs (generational.collaborators.createReset live destination image streams) steps outcome) :
    Quiet steps := by
  rw [Collaborators.createReset, runs_bind] at h
  obtain ⟨_, h, -⟩ | ⟨_, s, t, hs, ht, rfl⟩ := h
  · obtain rfl := runs_ask.mp h
    exact .called nofun quiet_nil
  · obtain rfl := runs_ask.mp hs
    obtain ⟨_, -, rfl⟩ | ⟨_, -, rfl⟩ := runs_enqueue.mp ht
    · exact .called nofun (.called nofun quiet_nil)
    · exact .called nofun (quiet_enqueueing _ _)

/-- **Every creation is a recording** of its requests. -/
theorem recording_of_runs {call : CreationCall} {outcome : Except Failure (Option Int)}
    (h : Runs (call.attempt generational.collaborators) steps outcome) :
    Recording call.connection call.requests steps := by
  cases call with
  | sync inputs => exact (syncCourse_of_runs h).recording
  | refresh inputs requests => exact (refreshCourse_of_runs h).recording
  | reset connection destination image streams => exact .quiet (quiet_createReset h)

end Services

/-! ## Where rows are handed over -/

section Insertion

variable {connection : Connection} {requests : List RefreshRequest} {s t u before after : List Step}
  {target : Uuid} {job number : Int} {generations : List (StreamId × Int)} {answer : Except Failure Unit}

/-- In a bump between quiet steps and steps that hand no rows over, the rows follow their reading. -/
theorem insertion_of_bump {outcome : Except Failure Unit} (quiet : Quiet s) (made : Made job s)
    (bump : BumpCourse connection.connectionId job requests t outcome)
    (rest : .called (.insertGenerations target number generations) answer ∉ u)
    (h : s ++ t ++ u = before ++ .called (.insertGenerations target number generations) answer :: after) :
    ∃ r current, before = r ++ [.called (.currentGenerations connection.connectionId) (.ok current)] ∧
      Quiet r ∧ Made number r ∧ target = connection.connectionId ∧
      generations = nextGenerations current (requestedStreams requests) := by
  obtain ⟨after', h, -⟩ := exists_of_append_eq_left h rest
  obtain ⟨r, rfl, rfl⟩ := exists_of_append_eq h (quiet.notMem rfl _)
  obtain ⟨current, rfl, rfl, rfl, rfl, -⟩ := bump.insertion
  exact ⟨s, current, rfl, quiet, made, rfl, rfl⟩

/-- **A creation hands rows over right after reading the generations they follow**, and under its own job. -/
theorem Recording.insertion (h : Recording connection requests
      (before ++ .called (.insertGenerations target number generations) answer :: after)) :
    ∃ r current, before = r ++ [.called (.currentGenerations connection.connectionId) (.ok current)] ∧
      Quiet r ∧ Made number r ∧ target = connection.connectionId ∧
      generations = nextGenerations current (requestedStreams requests) := by
  generalize hs : before ++ Step.called (.insertGenerations target number generations) answer :: after = steps at h
  cases h with
  | quiet quiet =>
    subst hs
    exact absurd (List.mem_append_right _ List.mem_cons_self) (quiet.notMem rfl _)
  | unbumped quiet made bump => exact insertion_of_bump quiet made bump List.not_mem_nil (by rw [List.append_nil, hs])
  | unstamped quiet made bump => exact insertion_of_bump quiet made bump (by simp) hs.symm
  | stamped quiet made bump _ rest =>
    refine insertion_of_bump quiet made bump ?_ hs.symm
    have absent := @Quiet.notMem _ (.insertGenerations target number generations) rest rfl answer
    simpa using absent

end Insertion

/-! ## What a creation adds, and what it stamps -/

/-- A step records rows. -/
def Step.isRecording : Step → Bool
  | called (.insertGenerations _ _ _) (.ok _) => true
  | _ => false

/-- The catalog of a configuration that a step replaces a stored one by. -/
def Step.catalog? : Step → Option Catalog
  | called (.updateConfig _ config) _ => some config.catalog
  | _ => none

/-- **The readings of a creation** that finds some rows: each is of those rows and of what it has recorded itself. -/
def ReadsFrom (connection : Uuid) (found : List (StreamId × Int)) (steps : List Step) : Prop :=
  ∀ before generations after,
    steps = before ++ .called (.currentGenerations connection) (.ok generations) :: after →
      Reads (found ++ rows connection before) generations

section Effect

variable {connection : Connection} {requests : List RefreshRequest} {s t u steps : List Step}
  {found : List (StreamId × Int)} {stream : StreamId}

/-- Quiet steps record nothing. -/
theorem Quiet.noRows (h : Quiet s) (connection : Uuid) : rows connection s = [] := by
  rw [rows, List.flatMap_eq_nil_iff]
  intro step hs
  rw [List.eq_nil_iff_forall_not_mem]
  intro row hr
  obtain ⟨job, generations, rfl, -⟩ := mem_rows.mp hr
  exact h.notMem rfl _ hs

theorem Quiet.notRecording (h : Quiet s) : s.any Step.isRecording = false := by
  rw [List.any_eq_false]
  intro step hs hr
  unfold Step.isRecording at hr
  split at hr
  · exact h.notMem rfl _ hs
  · exact nomatch hr

/-- Quiet steps store no catalog. -/
theorem Quiet.noCatalog (h : Quiet s) : s.filterMap Step.catalog? = [] := by
  rw [List.filterMap_eq_nil_iff]
  intro step hs
  unfold Step.catalog?
  split
  · exact absurd hs (h.notMem rfl _)
  · rfl

theorem ReadsFrom.left {id : Uuid} (h : ReadsFrom id found (s ++ t)) : ReadsFrom id found s :=
  fun before generations after split => h before generations (after ++ t) (by rw [split]; simp)

theorem ReadsFrom.right {id : Uuid} (h : ReadsFrom id found (s ++ t)) :
    ReadsFrom id (found ++ rows id s) t := fun before generations after split => by
  have reads := h (s ++ before) generations after (by rw [split, List.append_assoc])
  rwa [rows_append, ← List.append_assoc] at reads

theorem readsFrom_nil {id : Uuid} : ReadsFrom id found [] := fun before _ _ split => by
  cases before <;> exact nomatch split

/-- Readings are checked step by step. -/
theorem ReadsFrom.cons {id : Uuid} {step : Step}
    (here : ∀ generations, step = .called (.currentGenerations id) (.ok generations) → Reads found generations)
    (rest : ReadsFrom id (found ++ step.rows id) s) : ReadsFrom id found (step :: s) := by
  intro before generations after split
  cases before with
  | nil =>
    rw [List.nil_append, List.cons.injEq] at split
    rw [rows_nil, List.append_nil]
    exact here generations split.1
  | cons first before =>
    rw [List.cons_append, List.cons.injEq] at split
    rw [← split.1, rows_cons, ← List.append_assoc]
    exact rest before generations after split.2

theorem ReadsFrom.reading {id : Uuid} {generations : Generations} (here : Reads found generations)
    (rest : ReadsFrom id found s) :
    ReadsFrom id found (.called (.currentGenerations id) (.ok generations) :: s) := by
  refine .cons ?_ (by rwa [show Step.rows id _ = [] from rfl, List.append_nil])
  rintro _ ⟨⟩
  exact here

/-- **A bump starts one generation** for every stream requested, and it does so when it records. -/
theorem BumpCourse.started {id : Uuid} {job : Int} {outcome : Except Failure Unit}
    (bump : BumpCourse id job requests t outcome) (reads : ReadsFrom id found t) (stream : StreamId) :
    generationOf (found ++ rows id t) stream =
      if t.any Step.isRecording ∧ stream ∈ requests.map RefreshRequest.stream then
        some ((generationOf found stream).getD 0 + 1)
      else generationOf found stream := by
  cases bump with
  | idle empty => simp [rows]
  | unread => simp [rows, Step.rows, Step.isRecording]
  | @handed generations =>
    cases outcome with
    | error _ => simp [rows, Step.rows, Step.isRecording]
    | ok _ =>
      have current : Reads found generations := by simpa using reads [] generations _ rfl
      have recorded : rows id [.called (.currentGenerations id) (.ok generations), .called (.insertGenerations id job
          (nextGenerations generations (requestedStreams requests))) (.ok ())] =
            nextGenerations generations (requestedStreams requests) := by
        simp [rows, Step.rows]
      rw [recorded]
      by_cases hs : stream ∈ requests.map RefreshRequest.stream
      · rw [current.generationOf_next (mem_requestedStreams.mpr hs), if_pos ⟨rfl, hs⟩, Generations.current,
          current stream]
      · rw [generationOf_next_of_notMem (fun h => hs (mem_requestedStreams.mp h)), if_neg fun h => hs h.2]

/-- A bump that succeeds has recorded, unless there was nothing to bump. -/
theorem BumpCourse.isRecording {id : Uuid} {job : Int} (bump : BumpCourse id job requests t (.ok ())) :
    requests = [] ∨ t.any Step.isRecording = true := by
  cases bump with
  | idle empty => exact .inl empty
  | handed => exact .inr rfl

/-- A bump stores no catalog. -/
theorem BumpCourse.noCatalog {id : Uuid} {job : Int} {outcome : Except Failure Unit}
    (bump : BumpCourse id job requests t outcome) : t.filterMap Step.catalog? = [] := by
  cases bump <;> rfl

/-- A bump between quiet steps and steps that record nothing is all that a creation adds. -/
theorem started_of_bump {id : Uuid} {job : Int} {outcome : Except Failure Unit} (quiet : Quiet s)
    (bump : BumpCourse id job requests t outcome) (rest : ∀ step ∈ u, step.isRecording = false)
    (reads : ReadsFrom id found (s ++ t ++ u)) (stream : StreamId) :
    generationOf (found ++ rows id (s ++ t ++ u)) stream =
      if (s ++ t ++ u).any Step.isRecording ∧ stream ∈ requests.map RefreshRequest.stream then
        some ((generationOf found stream).getD 0 + 1)
      else generationOf found stream := by
  have none : rows id u = [] := by
    rw [rows, List.flatMap_eq_nil_iff]
    intro step hs
    rw [List.eq_nil_iff_forall_not_mem]
    intro row hr
    obtain ⟨_, _, rfl, -⟩ := mem_rows.mp hr
    exact nomatch rest _ hs
  have silent : u.any Step.isRecording = false := by
    rw [List.any_eq_false]
    exact fun step hs => Bool.eq_false_iff.mp (rest step hs)
  -- The bump finds what the creation has found, since nothing is recorded before it.
  have readsBump : ReadsFrom id found t := by
    have := reads.left.right
    rwa [quiet.noRows, List.append_nil] at this
  rw [rows_append, rows_append, quiet.noRows, none, List.nil_append, List.append_nil, bump.started readsBump,
    List.any_append, List.any_append, quiet.notRecording, silent, Bool.false_or, Bool.or_false]

/-- **A creation starts one generation** for every stream requested, and it does so when its bump records. -/
theorem Recording.started (h : Recording connection requests steps)
    (reads : ReadsFrom connection.connectionId found steps) (stream : StreamId) :
    generationOf (found ++ rows connection.connectionId steps) stream =
      if steps.any Step.isRecording ∧ stream ∈ requests.map RefreshRequest.stream then
        some ((generationOf found stream).getD 0 + 1)
      else generationOf found stream := by
  cases h with
  | quiet quiet => rw [quiet.noRows, List.append_nil, quiet.notRecording, if_neg fun h => nomatch h.1]
  | @unbumped s t _ _ quiet _ bump =>
    have started := started_of_bump (u := []) quiet bump (fun _ h => absurd h List.not_mem_nil)
      (by rwa [List.append_nil]) stream
    rwa [List.append_nil] at started
  | unstamped quiet _ bump => exact started_of_bump quiet bump (by simp [Step.isRecording]) reads stream
  | stamped quiet _ bump _ rest =>
    refine started_of_bump quiet bump ?_ reads stream
    simpa [Step.isRecording] using rest.notRecording

/-- **A stamped catalog** carries the generations that there are at the end of its creation, and it is stamped only
after the requested generations have been recorded. -/
theorem Recording.stamps {catalog : Catalog} (h : Recording connection requests steps)
    (reads : ReadsFrom connection.connectionId found steps) (hm : catalog ∈ steps.filterMap Step.catalog?) :
    (requests = [] ∨ steps.any Step.isRecording = true) ∧ ∀ x ∈ catalog.streams, x.generation =
      some ((generationOf (found ++ rows connection.connectionId steps) x.stream).getD 0) := by
  cases h with
  | quiet quiet =>
    rw [quiet.noCatalog] at hm
    exact absurd hm List.not_mem_nil
  | unbumped quiet _ bump =>
    rw [List.filterMap_append, quiet.noCatalog, bump.noCatalog] at hm
    exact absurd hm List.not_mem_nil
  | unstamped quiet _ bump =>
    rw [List.filterMap_append, List.filterMap_append, quiet.noCatalog, bump.noCatalog] at hm
    exact absurd hm List.not_mem_nil
  | @stamped s t u job generations config result quiet _ bump stamp rest =>
    -- The reading of the stamp finds what the bump has recorded, and nothing is recorded after it.
    have current : Reads (found ++ rows connection.connectionId (s ++ t)) generations := reads (s ++ t) _ _ rfl
    have nothing : rows connection.connectionId (.called (.currentGenerations connection.connectionId)
        (.ok generations) :: .called (.updateConfig job config) result :: u) = [] := by
      rw [rows_cons, rows_cons, rest.noRows]
      rfl
    obtain rfl : catalog = config.catalog := by
      rw [List.filterMap_append, List.filterMap_append, quiet.noCatalog, bump.noCatalog] at hm
      change catalog ∈ config.catalog :: u.filterMap Step.catalog? at hm
      rw [rest.noCatalog] at hm
      exact List.mem_singleton.mp hm
    refine ⟨bump.isRecording.imp_right fun h => by simp [h], fun x hx => ?_⟩
    rw [rows_append, nothing, List.append_nil]
    rw [stamp, Catalog.streams_stamp] at hx
    obtain ⟨y, -, rfl⟩ := List.mem_map.mp hx
    exact congrArg some (congrArg (Option.getD · 0) (current y.stream))

end Effect

end ConnectionJobs
