import ConnectionJobs.Proofs.Generation.Recording
import Mathlib.Data.List.Induction

/-!
# Generations count refreshes

When the jobs of a connection are created one after another, the generation of a stream is a count: it is the
number of creations so far that were asked to refresh the stream and whose bump succeeded. Nothing else moves it, be
it a sync, a reset, a stream named twice, or a creation that ends halfway. A stamped catalog shows these counts, so a
refresh shows a greater generation than every job before it.
-/

namespace ConnectionJobs

/-- **A creation** that has taken place: the call, the steps it took and its outcome. -/
structure Creation where
  /-- The call. -/
  call : CreationCall
  /-- The steps. -/
  steps : List Step
  /-- The outcome. -/
  outcome : Except Failure (Option Int)

namespace Creation

/-- **A creation starts a generation** of a stream when its requests name the stream and its bump records. -/
def starts (creation : Creation) (stream : StreamId) : Bool :=
  creation.steps.any Step.isRecording && decide (stream ∈ creation.call.requests.map RefreshRequest.stream)

/-- The catalogs that a creation has stamped. -/
def stamped (creation : Creation) : List Catalog := creation.steps.filterMap Step.catalog?

end Creation

/-- The rows that creations record for a connection. -/
def rowsOf (connection : Uuid) (creations : List Creation) : List (StreamId × Int) :=
  rows connection (creations.flatMap Creation.steps)

/-- **How often a stream has been refreshed** by creations. -/
def refreshes (creations : List Creation) (stream : StreamId) : Nat := creations.countP (·.starts stream)

/-- A count as a generation: there is none before the first refresh. -/
def generationOfCount : Nat → Option Int
  | 0 => none
  | n + 1 => some (n + 1)

/-- **Creations one after another** on one connection, over a store that is empty at first. Each takes one of its
runs, and its readings are of the rows recorded until then. -/
inductive Consecutive (connection : Uuid) : List Creation → Prop
  /-- There has been no creation. -/
  | start : Consecutive connection []
  /-- There is one creation more. -/
  | next {creations : List Creation} {creation : Creation} (before : Consecutive connection creations)
      (same : creation.call.connection.connectionId = connection)
      (runs : Runs (creation.call.attempt Services.generational.collaborators) creation.steps creation.outcome)
      (reads : ReadsFrom connection (rowsOf connection creations) creation.steps) :
      Consecutive connection (creations ++ [creation])

/-- **Generations are counts**, in the store and on catalogs. -/
structure Counted (connection : Uuid) (creations : List Creation) : Prop where
  /-- After every creation, the recorded generation of a stream is how often it has been refreshed. -/
  recorded : ∀ earlier later, creations = earlier ++ later → ∀ stream,
    generationOf (rowsOf connection earlier) stream = generationOfCount (refreshes earlier stream)
  /-- A stamped catalog gives each of its streams that number. -/
  stamped : ∀ earlier creation later, creations = earlier ++ creation :: later →
    ∀ catalog ∈ creation.stamped, ∀ s ∈ catalog.streams,
      s.generation = some (refreshes (earlier ++ [creation]) s.stream : Int)
  /-- A refresh stamps a greater generation on a stream that it names than every job before. -/
  increasing : ∀ earlier first between second later,
    creations = earlier ++ first :: between ++ second :: later →
      ∀ old ∈ first.stamped, ∀ s ∈ old.streams, ∀ new ∈ second.stamped, ∀ t ∈ new.streams, s.stream = t.stream →
        t.stream ∈ second.call.requests.map RefreshRequest.stream →
          ∃ m n, s.generation = some m ∧ t.generation = some n ∧ m < n

section Counting

variable {connection : Uuid} {creations earlier later : List Creation} {creation : Creation} {stream : StreamId}

theorem getD_generationOfCount (n : Nat) : (generationOfCount n).getD 0 = n := by
  cases n <;> rfl

theorem rowsOf_concat :
    rowsOf connection (creations ++ [creation]) = rowsOf connection creations ++ rows connection creation.steps := by
  rw [rowsOf, List.flatMap_append, rows_append, rowsOf, List.flatMap_singleton]

theorem refreshes_append :
    refreshes (earlier ++ later) stream = refreshes earlier stream + refreshes later stream :=
  List.countP_append

/-- What has gone before was consecutive. -/
theorem Consecutive.of_append (h : Consecutive connection (earlier ++ later)) : Consecutive connection earlier := by
  induction later using List.reverseRecOn with
  | nil => rwa [List.append_nil] at h
  | append_singleton later creation ih =>
    rw [← List.append_assoc] at h
    generalize hc : earlier ++ later ++ [creation] = creations at h
    cases h with
    | start => simp at hc
    | next before _ _ _ =>
      obtain ⟨rfl, -⟩ := List.append_inj' hc rfl
      exact ih before

/-- **One creation more** adds to the count of the streams it starts a generation of. -/
theorem Consecutive.generationOf_eq (h : Consecutive connection creations) (stream : StreamId) :
    generationOf (rowsOf connection creations) stream = generationOfCount (refreshes creations stream) := by
  induction h with
  | start => rfl
  | @next creations creation before same runs reads ih =>
    subst same
    -- What the creation finds is what the creations before it have recorded, which `ih` counts.
    have started := (Services.recording_of_runs runs).started reads stream
    rw [rowsOf_concat, started, ih, refreshes_append]
    by_cases starts : creation.starts stream = true
    · have once : refreshes [creation] stream = 1 := by simp [refreshes, starts]
      rw [Creation.starts, Bool.and_eq_true, decide_eq_true_eq] at starts
      rw [if_pos starts, getD_generationOfCount, once]
      rfl
    · have never : refreshes [creation] stream = 0 := by simp [refreshes, starts]
      rw [Creation.starts, Bool.and_eq_true, decide_eq_true_eq] at starts
      rw [if_neg starts, never, Nat.add_zero]

/-- **What a creation stamps** are the counts after it, and when it was to refresh streams, it has. -/
theorem Consecutive.stamps (h : Consecutive connection (earlier ++ [creation])) {catalog : Catalog}
    (hm : catalog ∈ creation.stamped) :
    (∀ stream ∈ creation.call.requests.map RefreshRequest.stream, creation.starts stream = true) ∧
      ∀ s ∈ catalog.streams, s.generation = some (refreshes (earlier ++ [creation]) s.stream : Int) := by
  have counted := h.generationOf_eq
  generalize hc : earlier ++ [creation] = creations at h
  cases h with
  | start => simp at hc
  | next before same runs reads =>
    obtain ⟨rfl, e⟩ := List.append_inj' hc rfl
    cases e
    subst same
    obtain ⟨recorded, generations⟩ := (Services.recording_of_runs runs).stamps reads hm
    refine ⟨fun stream hs => ?_, fun s hs => ?_⟩
    · obtain none | recorded := recorded
      · rw [none] at hs
        exact absurd hs List.not_mem_nil
      · simp [Creation.starts, recorded, hs]
    · rw [generations s hs, ← rowsOf_concat, counted, getD_generationOfCount]

end Counting

/-- **The generations of a connection count its refreshes.** -/
theorem counted_of_consecutive {connection : Uuid} {creations : List Creation}
    (h : Consecutive connection creations) : Counted connection creations where
  recorded earlier later split stream := by
    subst split
    exact h.of_append.generationOf_eq stream
  stamped earlier creation later split catalog hc s hs := by
    rw [List.append_cons] at split
    subst split
    exact (h.of_append.stamps hc).2 s hs
  increasing earlier first between second later split old ho s hs new hn t ht same named := by
    have split' : creations = earlier ++ [first] ++ (between ++ second :: later) := by rw [split]; simp
    have older := (split' ▸ h).of_append.stamps ho |>.2 s hs
    rw [List.append_cons] at split
    obtain ⟨starts, newer⟩ := (split ▸ h).of_append.stamps hn
    refine ⟨_, _, older, newer t ht, ?_⟩
    have once : refreshes [second] t.stream = 1 := by simp [refreshes, starts t.stream named]
    have more : refreshes (earlier ++ first :: between ++ [second]) t.stream =
        refreshes (earlier ++ [first]) t.stream + refreshes between t.stream + 1 := by
      rw [List.append_cons earlier, refreshes_append, refreshes_append, once]
    rw [same, more]
    omega

/-! ## A refresh and a sync -/

namespace RefreshThenSync

/-- A stream. -/
def users : StreamId := ⟨"users", none⟩

/-- A job of a connection that has this stream. -/
def inputs : JobInputs :=
  { (default : JobInputs) with
    connection := { (default : Connection) with catalog := ⟨[{ (default : ConfiguredStream) with stream := users }]⟩ } }

/-- Requests that name it twice. -/
def requests : List RefreshRequest := [⟨default, "users", none⟩, ⟨default, "users", none⟩]

/-- A refresh whose steps all succeed. -/
def refresh : Creation where
  call := .refresh inputs requests
  steps :=
    [.called (.eligibility default default default default) (.ok true),
      .called (.resolve inputs.connection (.live default) default false) (.ok (default : Bundle)),
      .called (.enqueue (default : Uuid).text (.refresh (Services.refreshConfig inputs requests default)))
        (.ok (some 1)),
      .reported (enqueueReport default .refresh (some 1)),
      .called (.currentGenerations default) (.ok []),
      .called (.insertGenerations default 1 [(users, 1)]) (.ok ()),
      .called (.currentGenerations default) (.ok [(users, 1)]),
      .called (.updateConfig 1 (.refresh ((Services.refreshConfig inputs requests default).withCatalog
        (inputs.connection.catalog.stamp [(users, 1)] 1 [users, users])))) (.ok ()),
      .called (.readState default) (.ok none),
      .called (.deleteRequest default "users" none) (.ok ()),
      .called (.deleteRequest default "users" none) (.ok ())]
  outcome := .ok (some 1)

/-- A sync after it. -/
def sync : Creation where
  call := .sync inputs
  steps :=
    [.called (.resolve inputs.connection (.live default) default false) (.ok (default : Bundle)),
      .called (.enqueue (default : Uuid).text (.sync (Services.syncConfig inputs default))) (.ok (some 2)),
      .reported (enqueueReport default .sync (some 2)),
      .called (.eligibility default default default default) (.ok true),
      .called (.currentGenerations default) (.ok [(users, 1)]),
      .called (.updateConfig 2 (.sync ((Services.syncConfig inputs default).withCatalog
        (inputs.connection.catalog.stamp [(users, 1)] 2 [])))) (.ok ())]
  outcome := .ok (some 2)

theorem runs_refresh :
    Runs (refresh.call.attempt Services.generational.collaborators) refresh.steps refresh.outcome := by
  change Program.Leads _ _ _
  exact .call (.call (.call (.report (.call (.call (.call (.call (.call (.call (.call (.here _)))))))))))

theorem runs_sync : Runs (sync.call.attempt Services.generational.collaborators) sync.steps sync.outcome := by
  change Program.Leads _ _ _
  exact .call (.call (.report (.call (.call (.call (.here _))))))

theorem readsFrom_refresh : ReadsFrom default [] refresh.steps := by
  have unread : Reads [] [] := fun _ => rfl
  have stamping : ReadsFrom default [(users, 1)] (refresh.steps.drop 6) :=
    .reading (reads_singleton users 1) (.cons nofun (.cons nofun (.cons nofun (.cons nofun readsFrom_nil))))
  exact .cons nofun (.cons nofun (.cons nofun (.cons nofun (.reading unread (.cons nofun stamping)))))

theorem readsFrom_sync : ReadsFrom default [(users, 1)] sync.steps :=
  .cons nofun (.cons nofun (.cons nofun (.cons nofun (.reading (reads_singleton users 1)
    (.cons nofun readsFrom_nil)))))

/-- The refresh of a stream that is named twice starts its first generation, and the sync keeps it. -/
theorem counted_refreshThenSync : Counted default [refresh, sync] ∧ refreshes [refresh, sync] users = 1 := by
  have one : Consecutive default [refresh] := .next .start rfl runs_refresh readsFrom_refresh
  exact ⟨counted_of_consecutive (one.next rfl runs_sync readsFrom_sync), rfl⟩

end RefreshThenSync

end ConnectionJobs
