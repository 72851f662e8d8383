import ConnectionJobs.Proofs.Creation.Clearing
import ConnectionJobs.Proofs.Generation.Recording
import ConnectionJobs.Sql.Statement
import ConnectionJobs.State.Document
import Mathlib.Data.List.Induction

/-!
# One set of refreshed streams

The requests of a refresh are read in five places: the configuration lists their streams, the bump starts a
generation for each, the stamp marks them in the catalog, the cleanup clears their cursors and deletes them. Each
place has a way of its own to tell streams apart, by descriptors in a list, by collecting each once, by the cursors
of a state or by the parameters of a statement. `Consistent` says that they all mean the same streams: those that
the stored configuration lists.

The store of generations may be shared with other refreshes, which take turns with this one. So a reading finds
rows that bumps have recorded, those of this creation among them, and nothing else is known of it.
-/

namespace ConnectionJobs

/-! ## Streams as they are sent and stored -/

/-- **Two streams are told apart** wherever one is named outside: in a document, in a saved cursor, in the deletion
of a request and in a recorded row. -/
structure ToldApart (a b : StreamId) : Prop where
  /-- In documents. -/
  documents : a.toJson ≠ b.toJson
  /-- In the cursors of a saved state. -/
  cursors : ∀ s t : StreamState, s.stream = a → t.stream = b → s.toJson ≠ t.toJson
  /-- In the parameters of a deletion. -/
  deletions : ∀ connection,
    (Sql.Statement.deleteRequest connection a).parameters ≠ (Sql.Statement.deleteRequest connection b).parameters
  /-- In the parameters of a row. -/
  rows : ∀ m n : Sql.GenerationEntry, m.stream = a → n.stream = b →
    Sql.Statement.entryParameters m ≠ Sql.Statement.entryParameters n

theorem textOrNull_injective : Function.Injective textOrNull := by
  rintro (_ | a) (_ | b) h
  · rfl
  · exact nomatch h
  · exact nomatch h
  · cases h
    rfl

/-- **Different streams are told apart**, in particular those that differ in having a namespace at all. -/
theorem toldApart_of_ne {a b : StreamId} (ne : a ≠ b) : ToldApart a b := by
  have differ : ¬ (a.name = b.name ∧ textOrNull a.space = textOrNull b.space) := fun ⟨hn, hs⟩ =>
    ne (by rw [StreamId.mk.injEq]; exact ⟨hn, textOrNull_injective hs⟩)
  constructor
  case documents => exact fun h => differ (by simpa [StreamId.toJson] using h)
  case cursors =>
    rintro s t rfl rfl h
    obtain ⟨hn, hs, -⟩ : s.streamName = t.streamName ∧
        textOrNull s.streamNamespace = textOrNull t.streamNamespace ∧ _ := by
      simpa [StreamState.toJson] using h
    exact differ ⟨hn, hs⟩
  case deletions => exact fun _ h => differ (by simpa [Sql.Statement.parameters] using h)
  case rows =>
    rintro m n rfl rfl h
    obtain ⟨-, hn, hs, -⟩ : _ ∧ m.stream.name = n.stream.name ∧ textOrNull m.stream.space = textOrNull n.stream.space ∧
        _ := by
      simpa [Sql.Statement.entryParameters] using h
    exact differ ⟨hn, hs⟩

/-! ## A store of generations that is shared -/

/-- **Rows that bumps have recorded**, each bump after a reading of some rows recorded before it. -/
inductive Bumps : List (StreamId × Int) → Prop
  /-- Nothing has been recorded. -/
  | none : Bumps []
  /-- A bump records the generations that follow those it has read. -/
  | next {rs read : List (StreamId × Int)} {generations : Generations} {streams : List StreamId} (bumps : Bumps rs)
      (earlier : read ⊆ rs) (reads : Reads read generations) : Bumps (rs ++ nextGenerations generations streams)

/-- **The readings of a creation that shares its store** with other bumps: each is of rows that bumps have
recorded, among them those that the creation has recorded itself. -/
def ReadsShared (connection : Uuid) (steps : List Step) : Prop :=
  ∀ before generations after, steps = before ++ .called (.currentGenerations connection) (.ok generations) :: after →
    ∃ found, Bumps found ∧ rows connection before ⊆ found ∧ Reads found generations

/-- **Generations start at one**, by induction on the bumps. -/
theorem Bumps.positive {rs : List (StreamId × Int)} (h : Bumps rs) : ∀ row ∈ rs, 1 ≤ row.2 := by
  induction h with
  | none => exact fun _ h => absurd h List.not_mem_nil
  | @next rs read generations streams _ earlier reads ih =>
    rintro ⟨stream, m⟩ hm
    obtain hm | hm := List.mem_append.mp hm
    · exact ih _ hm
    · obtain ⟨-, rfl⟩ := mem_nextGenerations.mp hm
      -- A stream that has been bumped before has a positive generation, and any other has none.
      have current : 0 ≤ generations.current stream := by
        rw [Generations.current, reads stream]
        cases hg : generationOf read stream with
        | none => exact Int.le_refl 0
        | some n => exact Int.le_trans (by decide) (ih _ (earlier (generationOf_eq_some.mp hg).1))
      exact Int.le_add_of_nonneg_left current

/-- **A store that is not shared** is a case of a shared one: a creation records after its own reading. -/
theorem Recording.readsShared {connection : Connection} {requests : List RefreshRequest} {steps : List Step}
    {found : List (StreamId × Int)} (h : Recording connection requests steps) (bumps : Bumps found)
    (alone : ReadsFrom connection.connectionId found steps) : ReadsShared connection.connectionId steps := by
  have kept : ∀ before after, steps = before ++ after → Bumps (found ++ rows connection.connectionId before) := by
    intro before
    induction before using List.reverseRecOn with
    | nil => exact fun _ _ => by rwa [rows_nil, List.append_nil]
    | append_singleton before step ih =>
      intro after split
      rw [List.append_assoc, List.singleton_append] at split
      have earlier := ih _ split
      rw [rows_append, ← List.append_assoc]
      by_cases recorded : ∃ row, row ∈ rows connection.connectionId [step]
      · obtain ⟨row, hr⟩ := recorded
        rw [rows_cons, rows_nil, List.append_nil] at hr
        obtain ⟨job, generations, rfl, -⟩ := mem_rows.mp hr
        subst split
        obtain ⟨r, current, rfl, quiet, -, -, rfl⟩ := h.insertion
        rw [rows_cons, rows_insertion, rows_nil, List.append_nil]
        refine earlier.next (fun _ hm => List.mem_append_left _ hm) ?_
        have reads := alone r current _ (List.append_assoc _ _ _)
        rwa [quiet.noRows, List.append_nil] at reads
      · rwa [List.eq_nil_iff_forall_not_mem.mpr fun row hr => recorded ⟨row, hr⟩, List.append_nil]
  intro before generations after split
  exact ⟨_, kept before _ split, fun _ hm => List.mem_append_right _ hm, alone before generations after split⟩

/-! ## What a refresh does -/

/-- The configuration that a step stores, if it stores one. -/
def Step.stored? : Step → Option JobConfig
  | called (.enqueue _ config) (.ok (some _)) => some config
  | called (.updateConfig _ config) (.ok _) => some config
  | _ => none

/-- The configurations that some steps store, in order. -/
def storedConfigs (steps : List Step) : List JobConfig := steps.filterMap Step.stored?

/-- The streams that a configuration lists to be refreshed. -/
def JobConfig.refreshedStreams : JobConfig → List StreamId
  | .refresh config => config.streamsToRefresh
  | .sync _ | .reset _ => []

/-- **What a refresh does is about one set of streams.** -/
structure Consistent (connection : Connection) (refreshed : List StreamId) (steps : List Step) : Prop where
  /-- The stored configuration lists the streams, before its catalog is stamped and after. -/
  listed : (storedConfigs steps).map JobConfig.refreshedStreams = [refreshed, refreshed]
  /-- One generation is recorded for each of the streams, and none for any other. -/
  recorded : ∀ target stream, (rows target steps).countP (fun row => row.1 = stream) =
    if target = connection.connectionId ∧ stream ∈ refreshed then 1 else 0
  /-- Requests are deleted for each of the streams, and for no other. -/
  deleted : ∀ target stream, .deleteRequest target stream.name stream.space ∈ calls steps ↔
    target = connection.connectionId ∧ stream ∈ refreshed
  /-- The saved state is read, and unless there is none or a legacy one, it is written back with its cursors in
  order, except those of the streams. -/
  cleared : ∃ found writes, accesses connection.connectionId steps = .read found :: writes ∧
    ∀ state, found = some state → state.shape ≠ .legacy →
      ∃ written, writes = [.write written] ∧ written.shape = state.shape ∧
        written.cursors = state.cursors.filter (fun cursor => cursor.stream ∉ refreshed) ∧
        ∀ stream ∈ state.covered, stream ∉ written.covered ↔ stream ∈ refreshed
  /-- The stored catalog has the streams of the connection, and drops of each of the streams what is older than its
  generation, which is not older than the one recorded for it. When the store is not shared, it is that one. -/
  stamped : ∃ catalog, steps.filterMap Step.catalog? = [catalog] ∧ catalog.streamIds = connection.catalog.streamIds ∧
    ∀ x ∈ catalog.streams, x.stream ∈ refreshed → ∃ m n, (x.stream, m) ∈ rows connection.connectionId steps ∧
      x.generation = some n ∧ x.minimumGeneration = some n ∧ 1 ≤ m ∧ m ≤ n ∧
      ∀ found, ReadsFrom connection.connectionId found steps → m = n

/-! ## The steps of a refresh -/

section Cleanup

variable {connection : Uuid} {requests : List RefreshRequest} {found : Option SavedState} {s : List Step}

/-- A cleanup makes no calls but its own. -/
theorem phase_of_mem_cleanupSteps {call : Call} (h : call ∈ calls (cleanupSteps connection requests found)) :
    call.phase = .cleaning := by
  rw [cleanupSteps, calls_called, List.mem_cons, calls_append, List.mem_append] at h
  obtain rfl | h | h := h
  · rfl
  · unfold clearingSteps at h
    split at h
    · exact absurd h List.not_mem_nil
    · split at h
      · exact absurd h List.not_mem_nil
      · rw [List.mem_singleton.mp h]
        rfl
  · obtain ⟨_, h⟩ := mem_calls.mp h
    obtain ⟨_, -, e⟩ := List.mem_map.mp h
    cases e
    rfl

theorem quiet_cleanupSteps : Quiet (cleanupSteps connection requests found) := fun call h => by
  rw [phase_of_mem_cleanupSteps h]
  decide

/-- **A cleanup deletes the requests.** -/
theorem deleteRequest_mem_cleanupSteps {target : Uuid} {stream : StreamId} :
    .deleteRequest target stream.name stream.space ∈ calls (cleanupSteps connection requests found) ↔
      target = connection ∧ stream ∈ requests.map RefreshRequest.stream := by
  have clearing : .deleteRequest target stream.name stream.space ∉ calls (clearingSteps connection requests found) := by
    unfold clearingSteps
    split
    · exact List.not_mem_nil
    · split <;> simp
  have reading : Call.deleteRequest target stream.name stream.space ≠ .readState connection := by simp
  rw [cleanupSteps, calls_called, List.mem_cons, calls_append, List.mem_append, or_iff_right reading,
    or_iff_right clearing, mem_calls, List.mem_map]
  obtain ⟨name, space⟩ := stream
  constructor
  · rintro ⟨_, h⟩
    obtain ⟨⟨_, _, _⟩, hr, e⟩ := List.mem_map.mp h
    cases e
    exact ⟨rfl, _, hr, rfl⟩
  · rintro ⟨rfl, request, hr, same⟩
    cases same
    exact ⟨.ok (), List.mem_map.mpr ⟨request, hr, rfl⟩⟩

/-- A configuration is stored by the queue. -/
theorem storedConfigs_eq_nil (h : ∀ call ∈ calls s, call.phase ≠ .queueing ∧ call.phase ≠ .stamping) :
    storedConfigs s = [] := by
  rw [storedConfigs, List.filterMap_eq_nil_iff]
  intro step hs
  unfold Step.stored?
  split
  · exact absurd rfl (h _ (mem_calls.mpr ⟨_, hs⟩)).1
  · exact absurd rfl (h _ (mem_calls.mpr ⟨_, hs⟩)).2
  · rfl

end Cleanup

section Bump

variable {connection target : Uuid} {job : Int} {requests : List RefreshRequest} {b : List Step}

/-- **A bump that succeeds** records the generations that follow its reading, for its connection. -/
theorem BumpCourse.rows_eq (h : BumpCourse connection job requests b (.ok ())) :
    ∃ current, (∀ found, ReadsFrom connection found b → requests ≠ [] → Reads found current) ∧
      ∀ target, rows target b =
        if target = connection then nextGenerations current (requestedStreams requests) else [] := by
  cases h with
  | idle empty =>
    subst empty
    exact ⟨[], fun _ _ h => absurd rfl h, fun target => (ite_self []).symm⟩
  | @handed current =>
    refine ⟨current, fun found reads _ => ?_, fun target => ?_⟩
    · have here := reads [] current _ rfl
      rwa [rows_nil, List.append_nil] at here
    · simp [rows, Step.rows, eq_comm]

/-- The new generations of streams hold one row for each. -/
theorem countP_nextGenerations {generations : Generations} {stream : StreamId} :
    (nextGenerations generations (requestedStreams requests)).countP (fun row => row.1 = stream) =
      if stream ∈ requests.map RefreshRequest.stream then 1 else 0 := by
  have same : (fun s : StreamId => decide (s = stream)) = (· == stream) := by
    funext s
    rw [Bool.eq_iff_iff, decide_eq_true_eq, beq_iff_eq]
  rw [nextGenerations, List.countP_map]
  change List.countP (fun s : StreamId => decide (s = stream)) _ = _
  rw [same, ← List.count_eq_countP, (nodup_requestedStreams requests).count]
  simp only [mem_requestedStreams]

end Bump

namespace Services

/-- The steps of a refresh until its job is in the queue. -/
def queueingSteps (inputs : JobInputs) (requests : List RefreshRequest) (resources : Bundle) (job : Int) : List Step :=
  [.called (gateCall inputs) (.ok true), .called (resolveCall inputs) (.ok resources)] ++
    enqueueing inputs.connection.connectionId (.refresh (refreshConfig inputs requests resources)) (some job)

/-- The catalog that a refresh stamps, given the generations it has read. -/
def stampedCatalog (inputs : JobInputs) (requests : List RefreshRequest) (job : Int) (generations : Generations) :
    Catalog :=
  inputs.connection.catalog.stamp generations job (requests.map RefreshRequest.stream)

/-- **The steps of a refresh in which nothing fails**, around those of its bump. -/
def refreshSteps (inputs : JobInputs) (requests : List RefreshRequest) (resources : Bundle) (job : Int)
    (bump : List Step) (generations : Generations) (found : Option SavedState) : List Step :=
  queueingSteps inputs requests resources job ++ bump ++
    .called (.currentGenerations inputs.connection.connectionId) (.ok generations) ::
    .called (patchCall inputs requests resources job (stampedCatalog inputs requests job generations)) (.ok ()) ::
    cleanupSteps inputs.connection.connectionId requests found

section Steps

variable {inputs : JobInputs} {requests : List RefreshRequest} {resources : Bundle} {job : Int} {bump : List Step}
  {generations : Generations} {found : Option SavedState}

/-- Until a job is in the queue generations play no part. -/
theorem quiet_queueingSteps : Quiet (queueingSteps inputs requests resources job) :=
  .called nofun (.called nofun (quiet_enqueueing _ _))

theorem RefreshCourse.steps_eq {steps : List Step}
    (h : RefreshCourse generational.clearing inputs requests steps (.ok (some job)))
    (untroubled : failures steps = []) :
    ∃ resources bump generations found, BumpCourse inputs.connection.connectionId job requests bump (.ok ()) ∧
      steps = refreshSteps inputs requests resources job bump generations found := by
  obtain ⟨s, resources, catalog, found, stamped, rfl⟩ := h.completed untroubled
  obtain ⟨⟨⟨⟨gate, resolution⟩⟩, bump⟩, stamp⟩ := stamped
  obtain rfl := runs_ask.mp gate
  obtain rfl := runs_ask.mp resolution
  obtain ⟨_, -, hf⟩ | ⟨generations, rfl, hc⟩ := runs_stampCatalog.mp stamp
  · exact nomatch hf
  cases hc
  exact ⟨resources, _, generations, found, bumpCourse_of_runs bump, by
    simp [refreshSteps, queueingSteps, stampedCatalog]⟩

/-- A refresh stores its configuration twice, and the second time with the catalog stamped. -/
theorem storedConfigs_refreshSteps (bumped : BumpCourse inputs.connection.connectionId job requests bump (.ok ())) :
    storedConfigs (refreshSteps inputs requests resources job bump generations found) =
      [.refresh (refreshConfig inputs requests resources),
        .refresh ((refreshConfig inputs requests resources).withCatalog
          (stampedCatalog inputs requests job generations))] := by
  have bumpStores : storedConfigs bump = [] := by cases bumped <;> rfl
  have cleanupStores : storedConfigs (cleanupSteps inputs.connection.connectionId requests found) = [] :=
    storedConfigs_eq_nil fun call h => by
      rw [phase_of_mem_cleanupSteps h]
      decide
  rw [refreshSteps, storedConfigs, List.filterMap_append, List.filterMap_append, ← storedConfigs, ← storedConfigs,
    bumpStores]
  change _ :: _ :: storedConfigs (cleanupSteps _ _ _) = _
  rw [cleanupStores]

/-- A refresh stores one stamped catalog. -/
theorem catalogs_refreshSteps (bumped : BumpCourse inputs.connection.connectionId job requests bump (.ok ())) :
    (refreshSteps inputs requests resources job bump generations found).filterMap Step.catalog? =
      [stampedCatalog inputs requests job generations] := by
  rw [refreshSteps, List.filterMap_append, List.filterMap_append, quiet_queueingSteps.noCatalog, bumped.noCatalog]
  change _ :: (cleanupSteps _ _ _).filterMap Step.catalog? = _
  rw [quiet_cleanupSteps.noCatalog]
  rfl

/-- Up to its stamp a refresh records what its bump records. -/
theorem rows_append_bump {target : Uuid} :
    rows target (queueingSteps inputs requests resources job ++ bump) = rows target bump := by
  rw [rows_append, quiet_queueingSteps.noRows, List.nil_append]

/-- A refresh records what its bump records. -/
theorem rows_refreshSteps {target : Uuid} :
    rows target (refreshSteps inputs requests resources job bump generations found) = rows target bump := by
  rw [refreshSteps, rows_append, rows_append_bump, rows_cons, rows_cons, quiet_cleanupSteps.noRows]
  exact List.append_nil _

/-- A refresh deletes the requests it is about. -/
theorem deleteRequest_mem_refreshSteps {target : Uuid} {stream : StreamId}
    (bumped : BumpCourse inputs.connection.connectionId job requests bump (.ok ())) :
    .deleteRequest target stream.name stream.space ∈
        calls (refreshSteps inputs requests resources job bump generations found) ↔
      target = inputs.connection.connectionId ∧ stream ∈ requests.map RefreshRequest.stream := by
  have first : .deleteRequest target stream.name stream.space ∉
      calls (queueingSteps inputs requests resources job ++ bump) := by
    cases bumped <;> simp [queueingSteps]
  rw [refreshSteps, calls_append, List.mem_append, or_iff_right first, calls_called, calls_called, List.mem_cons,
    List.mem_cons, or_iff_right nofun, or_iff_right nofun]
  exact deleteRequest_mem_cleanupSteps

/-- A refresh accesses the saved state in its cleanup. -/
theorem accesses_refreshSteps (bumped : BumpCourse inputs.connection.connectionId job requests bump (.ok ())) :
    accesses inputs.connection.connectionId (refreshSteps inputs requests resources job bump generations found) =
      .read found :: clearingWrites requests found := by
  have before : ∀ call ∈ calls (queueingSteps inputs requests resources job ++ bump ++
      [.called (.currentGenerations inputs.connection.connectionId) (.ok generations), .called
        (patchCall inputs requests resources job (stampedCatalog inputs requests job generations)) (.ok ())]),
      call.phase ≠ .cleaning := by
    cases bumped <;> simp [queueingSteps, patchCall]
  rw [refreshSteps, List.append_cons, List.append_cons, accesses_append, accesses_cleanupSteps, accesses_eq_nil,
    List.nil_append]
  simpa using before

/-- **What a refresh stamps on a requested stream**, beside the generation it has recorded for it. -/
theorem generation_refreshSteps {stream : StreamId}
    (bumped : BumpCourse inputs.connection.connectionId job requests bump (.ok ()))
    (shared : ReadsShared inputs.connection.connectionId
      (refreshSteps inputs requests resources job bump generations found))
    (named : stream ∈ requests.map RefreshRequest.stream) :
    ∃ m, (stream, m) ∈ rows inputs.connection.connectionId bump ∧ 1 ≤ m ∧ m ≤ generations.current stream ∧
      ∀ rs, ReadsFrom inputs.connection.connectionId rs
        (refreshSteps inputs requests resources job bump generations found) → m = generations.current stream := by
  obtain ⟨current, first, recorded⟩ := bumped.rows_eq
  have row : (stream, current.current stream + 1) ∈ rows inputs.connection.connectionId bump := by
    rw [recorded, if_pos rfl]
    exact mem_nextGenerations.mpr ⟨mem_requestedStreams.mpr named, rfl⟩
  obtain ⟨rs, bumps, kept, reads⟩ := shared _ generations _ rfl
  rw [rows_append_bump] at kept
  refine ⟨_, row, bumps.positive _ (kept row), reads.le (kept row), fun rs alone => ?_⟩
  -- With the store to itself the creation stamps what it has just recorded.
  have last := alone _ generations _ rfl
  rw [rows_append_bump] at last
  have reading : Reads rs current := by
    refine first rs ?_ fun empty => by simp [empty] at named
    have bumpReads := alone.left.right
    rwa [quiet_queueingSteps.noRows, List.append_nil] at bumpReads
  have new := reading.generationOf_next (mem_requestedStreams.mpr named)
  rw [recorded, if_pos rfl] at last
  rw [Generations.current.eq_1 generations, last stream, new]
  rfl

/-- **A refresh in which nothing fails is about the streams of its requests.** -/
theorem consistent_refreshSteps (bumped : BumpCourse inputs.connection.connectionId job requests bump (.ok ()))
    (shared : ReadsShared inputs.connection.connectionId
      (refreshSteps inputs requests resources job bump generations found)) :
    Consistent inputs.connection (requests.map RefreshRequest.stream)
      (refreshSteps inputs requests resources job bump generations found) where
  listed := by
    rw [storedConfigs_refreshSteps bumped]
    rfl
  recorded target stream := by
    obtain ⟨current, -, recorded⟩ := bumped.rows_eq
    rw [rows_refreshSteps, recorded]
    by_cases same : target = inputs.connection.connectionId
    · rw [if_pos same, countP_nextGenerations]
      simp only [same, true_and]
    · rw [if_neg same, if_neg fun h => same h.1, List.countP_nil]
  deleted target stream := deleteRequest_mem_refreshSteps bumped
  cleared := by
    refine ⟨found, clearingWrites requests found, accesses_refreshSteps bumped, ?_⟩
    rintro state rfl known
    refine ⟨state.strip requests, if_neg known, SavedState.shape_strip, ?_, fun stream covered => ?_⟩
    · simp only [SavedState.cursors_strip, retainedStreams, decide_not]
    · rw [SavedState.mem_covered_strip, not_and_not_right]
      exact ⟨fun h => h covered, fun h _ => h⟩
  stamped := by
    refine ⟨_, catalogs_refreshSteps bumped, ?_, fun x hx named => ?_⟩
    · rw [stampedCatalog, Catalog.streamIds, Catalog.streams_stamp, List.map_map]
      rfl
    · obtain ⟨y, -, rfl⟩ := List.mem_map.mp hx
      have named : y.stream ∈ requests.map RefreshRequest.stream := named
      obtain ⟨m, row, positive, le, alone⟩ := generation_refreshSteps bumped shared named
      refine ⟨m, generations.current y.stream, by rwa [rows_refreshSteps], rfl, ?_, positive, le, alone⟩
      exact congrArg some (if_pos (by simp [ConfiguredStream.dropsOlder, named]))

/-- A refresh that finds the queue busy does nothing more. -/
theorem RefreshCourse.lost_of_none {k : Services Program} {steps : List Step}
    (h : RefreshCourse k inputs requests steps (.ok none)) : ∃ resources s, Opened k inputs resources s ∧
      steps = s ++
        enqueueing inputs.connection.connectionId (.refresh (refreshConfig inputs requests resources)) none := by
  generalize ho : (Except.ok none : Except Failure (Option Int)) = outcome at h
  cases h with
  | lost opened => exact ⟨_, _, opened, rfl⟩
  | @patched _ _ _ _ _ result => cases result <;> exact nomatch ho
  | _ => exact nomatch ho

/-- **All consumers of the requests agree on the streams to refresh.** This is about every refresh over the library's
own bump, stamp and clearer in which no port fails; one that finds the queue busy stores and changes nothing. Streams
that differ, if only in having a namespace, are told apart everywhere. -/
theorem createRefresh_consistent {steps : List Step} {answer : Option Int}
    (h : Runs (generational.clearing.collaborators.createRefresh inputs requests) steps (.ok answer))
    (untroubled : failures steps = []) (shared : ReadsShared inputs.connection.connectionId steps) :
    (∀ job, answer = some job → Consistent inputs.connection (requests.map RefreshRequest.stream) steps) ∧
      (answer = none → storedConfigs steps = [] ∧
        ∀ call ∈ calls steps, call.phase = .opening ∨ call.phase = .queueing) ∧
      ∀ a b : StreamId, a ≠ b → ToldApart a b := by
  refine ⟨?_, ?_, fun _ _ => toldApart_of_ne⟩
  · rintro job rfl
    obtain ⟨resources, bump, generations, found, bumped, rfl⟩ := (refreshCourse_of_runs h).steps_eq untroubled
    exact consistent_refreshSteps bumped shared
  · rintro rfl
    obtain ⟨resources, s, ⟨gate, resolution⟩, rfl⟩ := (refreshCourse_of_runs h).lost_of_none
    obtain rfl := runs_ask.mp gate
    obtain rfl := runs_ask.mp resolution
    exact ⟨rfl, by simp⟩

end Steps

end Services

/-! ## A stream and its namesake -/

namespace Namesakes

/-- A stream without namespace. -/
def users : StreamId := ⟨"users", none⟩

/-- A stream of the same name that has one. -/
def publicUsers : StreamId := ⟨"users", some "public"⟩

/-- A job of a connection that has both. -/
def inputs : JobInputs :=
  { (default : JobInputs) with
    connection := { (default : Connection) with
      catalog := ⟨[{ (default : ConfiguredStream) with stream := users },
        { (default : ConfiguredStream) with stream := publicUsers }]⟩ } }

/-- Requests that name the first twice. -/
def requests : List RefreshRequest := [⟨default, "users", none⟩, ⟨default, "users", none⟩]

/-- A state with cursors of both. -/
def saved : SavedState := ⟨.stream, none, none, [⟨"users", some "public", none⟩, ⟨"users", none, none⟩]⟩

/-- A refresh whose steps all succeed. -/
def steps : List Step :=
  Services.refreshSteps inputs requests default 1
    [.called (.currentGenerations default) (.ok []),
      .called (.insertGenerations default 1 (nextGenerations [] (requestedStreams requests))) (.ok ())]
    [(users, 1)] (some saved)

theorem runs_steps : Runs (Services.generational.clearing.collaborators.createRefresh inputs requests) steps
    (.ok (some 1)) := by
  change Program.Leads _ _ _
  exact .call (.call (.call (.report (.call (.call (.call (.call (.call (.call (.call (.call (.here _))))))))))))

theorem readsFrom_steps : ReadsFrom default [] steps := by
  have unread : Reads [] [] := fun _ => rfl
  have stamping : ReadsFrom default [(users, 1)] (steps.drop 6) :=
    .reading (reads_singleton users 1)
      (.cons nofun (.cons nofun (.cons nofun (.cons nofun (.cons nofun readsFrom_nil)))))
  exact .cons nofun (.cons nofun (.cons nofun (.cons nofun (.reading unread (.cons nofun stamping)))))

/-- The refresh of the first leaves its namesake alone. -/
theorem consistent_namesakes : Consistent inputs.connection [users, users] steps ∧ ToldApart users publicUsers := by
  have made : Made 1 (Services.queueingSteps inputs requests default 1) :=
    ⟨_, _, List.mem_append_right _ List.mem_cons_self⟩
  have recording : Recording inputs.connection requests steps :=
    .stamped Services.quiet_queueingSteps made .handed rfl quiet_cleanupSteps
  have consistent := Services.createRefresh_consistent runs_steps rfl (recording.readsShared .none readsFrom_steps)
  exact ⟨consistent.1 1 rfl, consistent.2.2 _ _ (by decide)⟩

end Namesakes

end ConnectionJobs
