import ConnectionJobs.Proofs.Generation.Recording
import Mathlib.Data.List.Induction

/-!
# Refreshes that interleave

A bump is two transactions: it reads the current generations, and then it inserts the next ones. Refreshes of one
connection may take turns between any two of their steps, and a worker may end a job as soon as the queue has it.
A **history** is what happens on the connection, in order, and `Possible` says which histories there are: each
creation follows its program, and the database does what a database does.

Generations are recorded twice for a stream exactly when a bump is *overtaken*: another bump inserts a row of the
stream between its reading and its insertion. Nothing serializes bumps, and only the rule of one active job keeps
them apart, for as long as the job is active. So no bump is overtaken if workers end no job before its generations
are recorded; a worker that is faster than a creation makes two jobs share a generation.
-/

namespace ConnectionJobs

/-- **What can happen** on a connection. -/
inductive Happening where
  /-- One of the creations does a step. -/
  | did (creation : Nat) (step : Step)
  /-- A worker ends a job. -/
  | finished (job : Int)

namespace Happening

/-- The step that a creation does. -/
def step? : Happening → Option Step
  | did _ step => some step
  | finished _ => none

/-- The step that a given creation does. -/
def stepOf? (creation : Nat) : Happening → Option Step
  | did other step => if other = creation then some step else none
  | finished _ => none

end Happening

open Happening

/-- The steps of a history, in order. -/
def stepsIn (history : List Happening) : List Step := history.filterMap step?

/-- The steps of one creation in a history, in order. -/
def stepsOf (creation : Nat) (history : List Happening) : List Step := history.filterMap (stepOf? creation)

/-- The rows that a history records, in order. -/
def rowsIn (connection : Uuid) (history : List Happening) : List (StreamId × Int) :=
  rows connection (stepsIn history)

/-- The number of the job that a step puts into the queue. -/
def Step.job? : Step → Option Int
  | called (.enqueue _ _) (.ok job) => job
  | _ => none

/-- The jobs put into the queue in a history. -/
def jobsIn (history : List Happening) : List Int := (stepsIn history).filterMap Step.job?

/-- **What the database answers** after a history. The queue takes a job when every earlier job is over, under a
new number, and a reading of the generations finds the greatest row of every stream. -/
def Faithful (connection : Uuid) (history : List Happening) : Step → Prop
  | .called (.enqueue _ _) (.ok (some job)) =>
    (∀ other ∈ jobsIn history, finished other ∈ history) ∧ job ∉ jobsIn history
  | .called (.currentGenerations _) (.ok generations) => Reads (rowsIn connection history) generations
  | _ => True

/-- **A refresh**, and what it refreshes. -/
structure Refresh where
  /-- What the job is made from. -/
  inputs : JobInputs
  /-- The requests. -/
  requests : List RefreshRequest

/-- The program of a refresh. -/
def Refresh.program (refresh : Refresh) : Program (Except Failure (Option Int)) :=
  (Services.generational.collaborators.createRefresh refresh.inputs refresh.requests).run

/-- **The histories** of refreshes of one connection. -/
inductive Possible (connection : Uuid) (creations : Nat → Refresh) : List Happening → Prop
  /-- Nothing has happened. -/
  | start : Possible connection creations []
  /-- A creation does its next step. -/
  | next {history : List Happening} {i : Nat} {step : Step} (before : Possible connection creations history)
      (leads : ∃ rest, (creations i).program.Leads (stepsOf i history ++ [step]) rest)
      (faithful : Faithful connection history step) : Possible connection creations (history ++ [did i step])
  /-- A worker ends a job that the queue has taken. -/
  | ended {history : List Happening} {job : Int} (before : Possible connection creations history)
      (taken : job ∈ jobsIn history) : Possible connection creations (history ++ [finished job])

/-- **A bump is overtaken**: between its reading and its insertion, another insertion records a row of a stream
that it is about to record a row of. -/
def Overtaken (connection : Uuid) (history : List Happening) : Prop :=
  ∃ before i current between job generations after,
    history = before ++ did i (.called (.currentGenerations connection) (.ok current)) :: between ++
      did i (.called (.insertGenerations connection job generations) (.ok ())) :: after ∧
    ∃ stream m n, (stream, m) ∈ rowsIn connection between ∧ (stream, n) ∈ generations

/-- **Workers wait**: when a job is over, its creation has no generations left to record. -/
def WorkersWait (history : List Happening) : Prop :=
  ∀ before job after, history = before ++ finished job :: after →
    ∀ i connection generations answer,
      did i (.called (.insertGenerations connection job generations) answer) ∉ after

/-! ## Reading histories -/

section Reading

variable {g h : List Happening} {i j : Nat} {step : Step}

@[simp] theorem stepsIn_append : stepsIn (g ++ h) = stepsIn g ++ stepsIn h := List.filterMap_append

@[simp] theorem stepsOf_append : stepsOf i (g ++ h) = stepsOf i g ++ stepsOf i h := List.filterMap_append

@[simp] theorem rowsIn_append {connection : Uuid} (g h : List Happening) :
    rowsIn connection (g ++ h) = rowsIn connection g ++ rowsIn connection h := by
  rw [rowsIn, stepsIn_append, rows_append, rowsIn, rowsIn]

theorem rowsIn_did {connection : Uuid} :
    rowsIn connection (did i step :: h) = step.rows connection ++ rowsIn connection h :=
  rows_cons

@[simp] theorem rowsIn_nil {connection : Uuid} : rowsIn connection [] = [] := rfl

theorem rowsIn_finished {connection : Uuid} {job : Int} :
    rowsIn connection (finished job :: h) = rowsIn connection h := rfl

theorem rowsIn_reading {connection target : Uuid} {current : Generations} :
    rowsIn connection (did i (.called (.currentGenerations target) (.ok current)) :: h) = rowsIn connection h :=
  rows_cons

theorem stepsOf_did : stepsOf i (did i step :: h) = step :: stepsOf i h :=
  List.filterMap_cons_some (if_pos rfl)

theorem stepsOf_finished {job : Int} : stepsOf i [finished job] = [] := rfl

theorem mem_stepsOf : step ∈ stepsOf i h ↔ did i step ∈ h := by
  rw [stepsOf, List.mem_filterMap]
  constructor
  · rintro ⟨_ | _, hm, e⟩
    · obtain ⟨rfl, rfl⟩ : _ = i ∧ _ = step := by simpa [stepOf?] using e
      exact hm
    · exact nomatch e
  · intro hm
    exact ⟨_, hm, if_pos rfl⟩

/-- Where the last step of a creation is in a history. -/
theorem exists_of_stepsOf_concat {r : List Step} (hs : stepsOf i h = r ++ [step]) :
    ∃ first between, h = first ++ did i step :: between ∧ stepsOf i first = r ∧ stepsOf i between = [] := by
  obtain ⟨a, b, rfl, ha, hb⟩ := List.filterMap_eq_append_iff.mp hs
  obtain ⟨c, happening, between, rfl, hc, he, none⟩ := List.filterMap_eq_cons_iff.mp hb
  have same : happening = did i step := by
    obtain ⟨j, other⟩ | _ := happening
    · obtain ⟨rfl, rfl⟩ : j = i ∧ other = step := by simpa [stepOf?] using he
      rfl
    · exact nomatch he
  refine ⟨a ++ c, between, by rw [same, List.append_assoc], ?_, none⟩
  rw [stepsOf_append, stepsOf, ha, stepsOf, List.filterMap_eq_nil_iff.mpr hc, List.append_nil]

/-- A job is in the queue when a creation has put it there. -/
theorem mem_jobsIn {scope : String} {config : JobConfig} {job : Int}
    (hm : did i (.called (.enqueue scope config) (.ok (some job))) ∈ h) : job ∈ jobsIn h :=
  List.mem_filterMap.mpr ⟨_, List.mem_filterMap.mpr ⟨_, hm, rfl⟩, rfl⟩

/-- A row that is recorded is recorded by an insertion, and the first insertion for its stream finds none. -/
theorem exists_first_insertion {connection : Uuid} {stream : StreamId} {m : Int}
    (hm : (stream, m) ∈ rowsIn connection h) :
    ∃ before j job generations after n,
      h = before ++ did j (.called (.insertGenerations connection job generations) (.ok ())) :: after ∧
        (stream, n) ∈ generations ∧ ∀ k, (stream, k) ∉ rowsIn connection before := by
  induction h with
  | nil => exact absurd hm List.not_mem_nil
  | cons happening rest ih =>
    -- Either the head is the first insertion for the stream, or it records nothing for it.
    by_cases here : ∃ n, (stream, n) ∈ rowsIn connection [happening]
    · obtain ⟨n, hn⟩ := here
      obtain ⟨j, step⟩ | _ := happening
      · rw [rowsIn_did, List.mem_append] at hn
        obtain ⟨job, generations, rfl, hg⟩ := mem_rows.mp (hn.resolve_right List.not_mem_nil)
        exact ⟨[], j, job, generations, rest, n, rfl, hg, fun _ hk => absurd hk List.not_mem_nil⟩
      · exact absurd hn List.not_mem_nil
    · rw [← List.singleton_append, rowsIn_append, List.mem_append] at hm
      obtain ⟨before, j, job, generations, after, n, rfl, hg, none⟩ := ih (hm.resolve_left fun h => here ⟨m, h⟩)
      refine ⟨happening :: before, j, job, generations, after, n, rfl, hg, fun k hk => ?_⟩
      rw [← List.singleton_append, rowsIn_append, List.mem_append] at hk
      exact hk.elim (fun h => here ⟨k, h⟩) (none k)

end Reading

/-! ## What the steps of a history keep -/

namespace Possible

variable {connection : Uuid} {creations : Nat → Refresh} {h before after : List Happening} {i : Nat}

/-- What has happened before was possible. -/
theorem of_append {t : List Happening} (possible : Possible connection creations (h ++ t)) :
    Possible connection creations h := by
  induction t using List.reverseRecOn with
  | nil => rwa [List.append_nil] at possible
  | append_singleton t happening ih =>
    rw [← List.append_assoc] at possible
    generalize hg : h ++ t ++ [happening] = g at possible
    cases possible with
    | start => simp at hg
    | next before _ _ =>
      obtain ⟨rfl, -⟩ := List.append_inj' hg rfl
      exact ih before
    | ended before _ =>
      obtain ⟨rfl, -⟩ := List.append_inj' hg rfl
      exact ih before

/-- The database has answered every step. -/
theorem faithful {step : Step} (possible : Possible connection creations (before ++ did i step :: after)) :
    Faithful connection before step := by
  rw [List.append_cons] at possible
  generalize hg : before ++ [did i step] = g at possible
  cases possible.of_append with
  | start => simp at hg
  | next _ _ faithful =>
    obtain ⟨rfl, e⟩ := List.append_inj' hg rfl
    cases e
    exact faithful
  | ended _ _ => exact nomatch (List.append_inj' hg rfl).2

/-- Every creation follows its program. -/
theorem leads (possible : Possible connection creations h) (i : Nat) :
    ∃ rest, (creations i).program.Leads (stepsOf i h) rest := by
  induction possible with
  | start => exact ⟨_, .here _⟩
  | @next history j step _ leads _ ih =>
    by_cases e : j = i
    · subst e
      rwa [stepsOf_append, stepsOf_did]
    · rw [stepsOf_append, show stepsOf i [did j step] = [] from List.filterMap_cons_none (if_neg e),
        List.append_nil]
      exact ih
  | ended _ _ ih => rwa [stepsOf_append, stepsOf_finished, List.append_nil]

end Possible

/-! ## Bumps in a history -/

/-- **A bump in a history**: what happens first, until the bump reads the current generations, and what happens
between that and the insertion. -/
structure BumpIn (connection : Uuid) (i : Nat) (job : Int) (generations : List (StreamId × Int))
    (first between : List Happening) (current : Generations) : Prop where
  /-- The reading finds what has been recorded first. -/
  reads : Reads (rowsIn connection first) current
  /-- The creation reads for the first time. -/
  unread : ∀ answer, did i (.called (.currentGenerations connection) answer) ∉ first
  /-- The creation has its job. -/
  made : ∃ scope config, did i (.called (.enqueue scope config) (.ok (some job))) ∈ first
  /-- The creation does nothing between reading and insertion. -/
  alone : stepsOf i between = []
  /-- The insertion follows the reading. -/
  next : ∃ streams, streams.Nodup ∧ generations = nextGenerations current streams

section Bumps

variable {connection target : Uuid} {creations : Nat → Refresh} {h before after : List Happening} {i j : Nat}
  {job : Int} {generations : List (StreamId × Int)}

/-- **Every insertion belongs to a bump.** -/
theorem Possible.bump {answer : Except Failure Unit}
    (same : ∀ i, (creations i).inputs.connection.connectionId = connection)
    (possible : Possible connection creations
      (before ++ did i (.called (.insertGenerations target job generations) answer) :: after)) :
    target = connection ∧ ∃ first between current,
      before = first ++ did i (.called (.currentGenerations connection) (.ok current)) :: between ∧
        BumpIn connection i job generations first between current := by
  obtain ⟨rest, leads⟩ := possible.leads i
  rw [stepsOf_append, stepsOf_did] at leads
  -- The creation may be under way; its steps so far begin a run.
  obtain ⟨t, value, takes⟩ := leads.exists_takes
  rw [List.append_assoc, List.cons_append] at takes
  obtain ⟨r, current, hb, quiet, made, rfl, hg⟩ := (Services.refreshCourse_of_runs takes).recording.insertion
  rw [same i] at hb possible ⊢
  obtain ⟨first, between, rfl, rfl, alone⟩ := exists_of_stepsOf_concat hb
  obtain ⟨scope, config, made⟩ := made
  refine ⟨rfl, first, between, current, rfl, ?_, fun _ hm => ?_, ⟨scope, config, mem_stepsOf.mp made⟩, alone, _,
    nodup_requestedStreams _, hg⟩
  · rw [List.append_assoc, List.cons_append] at possible
    exact possible.faithful
  · exact quiet.notMem rfl _ (mem_stepsOf.mpr hm)

/-- The rows of a bump are above everything its reading has found. -/
theorem BumpIn.fresh {first between : List Happening} {current : Generations}
    (bump : BumpIn connection i job generations first between current) {row : StreamId × Int}
    (hm : row ∈ generations) : row ∉ rowsIn connection first := by
  obtain ⟨streams, -, rfl⟩ := bump.next
  intro hr
  have le := bump.reads.le hr
  rw [(mem_nextGenerations.mp hm).2] at le
  omega

/-- The reading that an overtaken bump starts with is the one before its insertion. -/
theorem Possible.bump_of_reading {between : List Happening} {current : Generations} {answer : Except Failure Unit}
    (same : ∀ i, (creations i).inputs.connection.connectionId = connection)
    (possible : Possible connection creations
      (before ++ did i (.called (.currentGenerations connection) (.ok current)) :: between ++
        did i (.called (.insertGenerations connection job generations) answer) :: after)) :
    BumpIn connection i job generations before between current := by
  obtain ⟨-, first, mid, found, split, bump⟩ := possible.bump same
  obtain ⟨r, rfl, hr⟩ := exists_of_append_eq split.symm (bump.unread _)
  cases r with
  | nil =>
    cases hr
    rwa [List.append_nil]
  | cons _ r =>
    rw [List.cons_append, List.cons.injEq] at hr
    have read : Step.called (.currentGenerations connection) (.ok current) ∈ stepsOf i mid := by
      rw [hr.2, mem_stepsOf]
      exact List.mem_append_right _ List.mem_cons_self
    rw [bump.alone] at read
    exact absurd read List.not_mem_nil

/-- **Of two jobs on the connection one is over before the other is taken.** -/
theorem Possible.finished_of_two {scope scope' : String} {config config' : JobConfig} {job' : Int}
    (possible : Possible connection creations h) (ne : i ≠ j)
    (hi : did i (.called (.enqueue scope config) (.ok (some job))) ∈ h)
    (hj : did j (.called (.enqueue scope' config') (.ok (some job'))) ∈ h) :
    finished job ∈ h ∨ finished job' ∈ h := by
  obtain ⟨before, after, rfl⟩ := List.append_of_mem hi
  -- The job that is taken second finds the other one over.
  obtain hj | hj := List.mem_append.mp hj
  · exact .inr (List.mem_append_left _ (possible.faithful.1 job' (mem_jobsIn hj)))
  · obtain hj | hj := List.mem_cons.mp hj
    · cases hj
      exact absurd rfl ne
    · obtain ⟨between, rest, rfl⟩ := List.append_of_mem hj
      rw [← List.cons_append, ← List.append_assoc] at possible ⊢
      exact .inl (List.mem_append_left _ (possible.faithful.1 job
        (mem_jobsIn (List.mem_append_right _ List.mem_cons_self))))

/-- **Workers that wait let no bump be overtaken.** The overtaking job and the overtaken one are both active when
the former inserts its rows. -/
theorem not_overtaken_of_workersWait (same : ∀ i, (creations i).inputs.connection.connectionId = connection)
    (possible : Possible connection creations h) (wait : WorkersWait h) : ¬ Overtaken connection h := by
  rintro ⟨before, i, current, between, job, generations, after, rfl, stream, m, n, hm, -⟩
  have bump := possible.bump_of_reading same
  obtain ⟨start, j, job', generations', rest, k, rfl, -, -⟩ := exists_first_insertion hm
  -- The overtaken creation does nothing in between, so another one overtakes it.
  have ne : i ≠ j := by
    rintro rfl
    refine List.not_mem_nil (a := Step.called (.insertGenerations connection job' generations') (.ok ())) ?_
    rw [← bump.alone, mem_stepsOf]
    exact List.mem_append_right _ List.mem_cons_self
  generalize hg : before ++ did i (.called (.currentGenerations connection) (.ok current)) :: start = g
  have split : before ++ did i (.called (.currentGenerations connection) (.ok current)) ::
        (start ++ did j (.called (.insertGenerations connection job' generations') (.ok ())) :: rest) ++
          did i (.called (.insertGenerations connection job generations) (.ok ())) :: after =
      g ++ did j (.called (.insertGenerations connection job' generations') (.ok ())) ::
        (rest ++ did i (.called (.insertGenerations connection job generations) (.ok ())) :: after) := by
    simp [← hg]
  rw [split] at possible wait
  obtain ⟨-, first, mid, found, hf, bump'⟩ := possible.bump same
  obtain ⟨scope, config, made⟩ := bump.made
  obtain ⟨scope', config', made'⟩ := bump'.made
  have taken : did i (.called (.enqueue scope config) (.ok (some job))) ∈ g := by
    rw [← hg]
    exact List.mem_append_left _ made
  have taken' : did j (.called (.enqueue scope' config') (.ok (some job'))) ∈ g := by
    rw [hf]
    exact List.mem_append_left _ made'
  obtain ended | ended := possible.of_append.finished_of_two ne taken taken'
  · obtain ⟨a, b, rfl⟩ := List.append_of_mem ended
    rw [List.append_assoc, List.cons_append] at wait
    exact wait a job _ rfl i connection generations (.ok ()) (by simp)
  · obtain ⟨a, b, rfl⟩ := List.append_of_mem ended
    rw [List.append_assoc, List.cons_append] at wait
    exact wait a job' _ rfl j connection generations' (.ok ()) (by simp)

/-- **In a history without repeated rows no bump is overtaken.** The induction is on how much has happened before
the insertion: the first insertion that overtakes a bump is not overtaken itself, so it follows an equal reading
and records the same row. -/
theorem not_overtaken_of_nodup (same : ∀ i, (creations i).inputs.connection.connectionId = connection)
    (possible : Possible connection creations h) (nodup : (rowsIn connection h).Nodup) :
    ¬ Overtaken connection h := by
  rintro ⟨before, i, current, between, job, generations, after, split, stream, m, n, hm, hg⟩
  induction hn : before.length + between.length using Nat.strongRecOn
    generalizing before i current between job generations after m n with
  | _ size ih =>
    subst split
    have bump := possible.bump_of_reading same
    obtain ⟨start, j, job', generations', rest, k, rfl, hk, none⟩ := exists_first_insertion hm
    have split : before ++ did i (.called (.currentGenerations connection) (.ok current)) ::
          (start ++ did j (.called (.insertGenerations connection job' generations') (.ok ())) :: rest) ++
            did i (.called (.insertGenerations connection job generations) (.ok ())) :: after =
        before ++ did i (.called (.currentGenerations connection) (.ok current)) :: start ++
          did j (.called (.insertGenerations connection job' generations') (.ok ())) ::
          (rest ++ did i (.called (.insertGenerations connection job generations) (.ok ())) :: after) := by
      simp
    rw [split] at possible nodup
    obtain ⟨-, first, mid, found, hf, bump'⟩ := possible.bump same
    have clear : ∀ l, (stream, l) ∉ rowsIn connection mid := fun l hl => by
      have shorter := congrArg List.length hf
      simp only [List.length_append, List.length_cons] at shorter hn
      have earlier := split
      rw [hf] at earlier
      exact ih (first.length + mid.length) (by omega) first j found mid job' generations' _ earlier l k hl hk rfl
    -- Both readings find what has been recorded before the insertion of `j`.
    have equal : found.current stream = current.current stream := by
      have rows := congrArg (rowsIn connection) hf
      rw [rowsIn_append, rowsIn_append, rowsIn_reading, rowsIn_reading] at rows
      rw [← bump'.reads.current_of_forall clear, ← bump.reads.current_of_forall none, rows]
    obtain ⟨streams, -, rfl⟩ := bump.next
    obtain ⟨streams', -, rfl⟩ := bump'.next
    have row : n = k := by rw [(mem_nextGenerations.mp hg).2, (mem_nextGenerations.mp hk).2, equal]
    rw [rowsIn_append, rowsIn_did, rows_insertion, rowsIn_append rest, rowsIn_did, rows_insertion] at nodup
    refine (List.nodup_append.mp (List.nodup_append.mp nodup).2.1).2.2 _ hk (stream, n) ?_ (by rw [row])
    exact List.mem_append_right _ (List.mem_append_left _ hg)

/-- **In a history where no bump is overtaken no row is repeated**, by induction on the history. -/
theorem nodup_of_not_overtaken (same : ∀ i, (creations i).inputs.connection.connectionId = connection)
    (possible : Possible connection creations h) (clear : ¬ Overtaken connection h) :
    (rowsIn connection h).Nodup := by
  suffices ∀ t u, h = t ++ u → (rowsIn connection t).Nodup from this h [] (List.append_nil h).symm
  intro t
  induction t using List.reverseRecOn with
  | nil => exact fun _ _ => List.nodup_nil
  | append_singleton t happening ih =>
    intro u split
    rw [List.append_assoc, List.singleton_append] at split
    have before := ih _ split
    rw [rowsIn_append]
    obtain ⟨i, step⟩ | job := happening
    · by_cases recorded : ∃ row, row ∈ step.rows connection
      · obtain ⟨row, hr⟩ := recorded
        obtain ⟨job, generations, rfl, -⟩ := mem_rows.mp hr
        subst split
        obtain ⟨-, first, between, current, rfl, bump⟩ := possible.bump same
        have nodup : generations.Nodup := by
          obtain ⟨streams, hs, rfl⟩ := bump.next
          exact nodup_nextGenerations hs
        rw [rowsIn_did, rows_insertion, rowsIn_nil, List.append_nil]
        refine List.nodup_append.mpr ⟨before, nodup, ?_⟩
        rintro row hm _ hn rfl
        -- A row recorded already is either one that the bump has read, or one that overtakes it.
        rw [rowsIn_append, rowsIn_reading, List.mem_append] at hm
        obtain hm | hm := hm
        · exact bump.fresh hn hm
        · exact clear ⟨first, i, current, between, job, generations, u, rfl, row.1, row.2, row.2, hm, hn⟩
      · rwa [rowsIn_did, List.eq_nil_iff_forall_not_mem.mpr fun row hr => recorded ⟨row, hr⟩, rowsIn_nil,
          List.append_nil, List.append_nil]
    · rwa [rowsIn_finished, rowsIn_nil, List.append_nil]

end Bumps

/-- **When refreshes record the same generation.** The rows of a connection are distinct in exactly the histories in
which no bump is overtaken, and those in which workers wait are among them. -/
theorem rows_nodup_iff_not_overtaken {connection : Uuid} {creations : Nat → Refresh} {history : List Happening}
    (same : ∀ i, (creations i).inputs.connection.connectionId = connection)
    (possible : Possible connection creations history) :
    ((rowsIn connection history).Nodup ↔ ¬ Overtaken connection history) ∧
      (WorkersWait history → (rowsIn connection history).Nodup) :=
  ⟨⟨not_overtaken_of_nodup same possible, nodup_of_not_overtaken same possible⟩,
    fun wait => nodup_of_not_overtaken same possible (not_overtaken_of_workersWait same possible wait)⟩

/-! ## Two refreshes of one stream -/

namespace TwoRefreshes

/-- A stream. -/
def users : StreamId := ⟨"users", none⟩

/-- A refresh of it. -/
def usersRefresh : Refresh := ⟨default, [⟨default, "users", none⟩]⟩

/-- A refresh puts its job into the queue. -/
def opening (i : Nat) (job : Int) : List Happening :=
  [did i (.called (.eligibility default default default default) (.ok true)),
    did i (.called (.resolve default (.live default) default false) (.ok (default : Bundle))),
    did i (.called (.enqueue (default : Uuid).text
      (.refresh (Services.refreshConfig default usersRefresh.requests default))) (.ok (some job))),
    did i (.reported (enqueueReport default .refresh (some job)))]

/-- A refresh reads the current generations. -/
def reading (i : Nat) (current : Generations) : Happening :=
  did i (.called (.currentGenerations default) (.ok current))

/-- A refresh records a generation. -/
def recording (i : Nat) (job : Int) (generation : Int) : Happening :=
  did i (.called (.insertGenerations default job [(users, generation)]) (.ok ()))

section

variable {h : List Happening} (i : Nat) (job : Int) (current : Generations)

theorem possible_append_opening (possible : Possible default (fun _ => usersRefresh) h) (idle : stepsOf i h = [])
    (free : ∀ other ∈ jobsIn h, finished other ∈ h) (fresh : job ∉ jobsIn h) :
    Possible default (fun _ => usersRefresh) (h ++ opening i job) := by
  unfold TwoRefreshes.opening
  rw [List.append_cons, List.append_cons, List.append_cons]
  refine .next (.next (.next (.next possible ?_ trivial) ?_ trivial) ?_ ?_) ?_ trivial
  · rw [idle]
    exact ⟨_, .call (.here _)⟩
  · rw [stepsOf_append, idle, stepsOf_did]
    exact ⟨_, .call (.call (.here _))⟩
  · rw [stepsOf_append, stepsOf_append, idle, stepsOf_did, stepsOf_did]
    exact ⟨_, .call (.call (.call (.here _)))⟩
  · constructor
    · simpa [jobsIn, stepsIn, step?, Step.job?] using free
    · simpa [jobsIn, stepsIn, step?, Step.job?] using fresh
  · rw [stepsOf_append, stepsOf_append, stepsOf_append, idle, stepsOf_did, stepsOf_did, stepsOf_did]
    exact ⟨_, .call (.call (.call (.report (.here _))))⟩

theorem possible_append_reading (possible : Possible default (fun _ => usersRefresh) h)
    (opened : stepsOf i h = stepsOf i (TwoRefreshes.opening i job)) (reads : Reads (rowsIn default h) current) :
    Possible default (fun _ => usersRefresh) (h ++ [reading i current]) := by
  refine .next possible ?_ reads
  rw [opened, TwoRefreshes.opening, stepsOf_did, stepsOf_did, stepsOf_did, stepsOf_did]
  exact ⟨_, .call (.call (.call (.report (.call (.here _)))))⟩

theorem possible_append_recording (possible : Possible default (fun _ => usersRefresh) h)
    (opened : stepsOf i h = stepsOf i (TwoRefreshes.opening i job ++ [TwoRefreshes.reading i current])) :
    Possible default (fun _ => usersRefresh) (h ++ [recording i job (current.current users + 1)]) := by
  refine .next possible ?_ trivial
  rw [opened, TwoRefreshes.opening, TwoRefreshes.reading]
  simp only [List.cons_append, List.nil_append, stepsOf_did]
  exact ⟨_, .call (.call (.call (.report (.call (.call (.here _))))))⟩

end

/-- The histories of two such refreshes begin with the job of the first. -/
theorem possible_opening : Possible default (fun _ => usersRefresh) (opening 0 1) :=
  possible_append_opening 0 1 .start rfl nofun nofun

/-- **A race**: a worker ends the job of a refresh before its generation is recorded, and another refresh begins. -/
def race : List Happening :=
  opening 0 1 ++ [finished 1] ++ opening 1 2 ++ [reading 0 []] ++ [reading 1 []] ++ [recording 0 1 1] ++
    [recording 1 2 1]

theorem possible_race : Possible default (fun _ => usersRefresh) race := by
  have taken : (1 : Int) ∈ jobsIn (opening 0 1) := by simp [jobsIn, stepsIn, opening, step?, Step.job?]
  have ended := possible_opening.ended taken
  have opened := possible_append_opening 1 2 ended rfl
    (by simp [jobsIn, stepsIn, opening, step?, Step.job?]) (by simp [jobsIn, stepsIn, opening, step?, Step.job?])
  have first := possible_append_reading 0 1 [] opened rfl fun _ => rfl
  have second := possible_append_reading 1 2 [] first rfl fun _ => rfl
  have recorded := possible_append_recording 0 1 [] second rfl
  exact possible_append_recording 1 2 [] recorded rfl

/-- **Two jobs can record the same generation.** -/
theorem exists_repeated_row : ¬ ∀ connection creations history,
    (∀ i, (creations i : Refresh).inputs.connection.connectionId = connection) →
      Possible connection creations history → (rowsIn connection history).Nodup := by
  intro distinct
  have nodup := distinct default (fun _ => usersRefresh) race (fun _ => rfl) possible_race
  exact absurd nodup (by decide)

/-- **Turns**: the worker waits, and so the second refresh finds the generation of the first. -/
def turns : List Happening :=
  opening 0 1 ++ [reading 0 []] ++ [recording 0 1 1] ++ [finished 1] ++ opening 1 2 ++
    [reading 1 [(users, 1)]] ++ [recording 1 2 2]

theorem possible_turns : Possible default (fun _ => usersRefresh) turns := by
  have read := possible_append_reading 0 1 [] possible_opening rfl fun _ => rfl
  have recorded := possible_append_recording 0 1 [] read rfl
  have taken : (1 : Int) ∈ jobsIn (opening 0 1 ++ [reading 0 []] ++ [recording 0 1 1]) := by
    simp [jobsIn, stepsIn, opening, reading, recording, step?, Step.job?]
  have ended := recorded.ended taken
  have opened := possible_append_opening 1 2 ended rfl
    (by simp [jobsIn, stepsIn, opening, reading, recording, step?, Step.job?])
    (by simp [jobsIn, stepsIn, opening, reading, recording, step?, Step.job?])
  have found := possible_append_reading 1 2 [(users, 1)] opened rfl (reads_singleton users 1)
  exact possible_append_recording 1 2 [(users, 1)] found rfl

theorem workersWait_turns : WorkersWait turns := by
  intro before job after split i connection generations answer
  have first : finished job ∉ opening 0 1 ++ [reading 0 []] ++ [recording 0 1 1] := by
    simp [opening, reading, recording]
  rw [turns, List.append_assoc, List.append_assoc, List.append_assoc, List.singleton_append] at split
  obtain ⟨r, -, split⟩ := exists_of_append_eq split first
  cases r with
  | nil =>
    cases split
    simp [opening, reading, recording]
  | cons _ r =>
    have later : finished job ∈ opening 1 2 ++ ([reading 1 [(users, 1)]] ++ [recording 1 2 2]) := by
      rw [(List.cons.inj split).2]
      exact List.mem_append_right _ List.mem_cons_self
    simp [opening, reading, recording] at later

/-- The generations of refreshes that take turns are distinct. -/
theorem rows_nodup_of_turns : WorkersWait turns ∧ (rowsIn default turns).Nodup := by
  have same : ∀ _ : Nat, usersRefresh.inputs.connection.connectionId = default := fun _ => rfl
  exact ⟨workersWait_turns, (rows_nodup_iff_not_overtaken same possible_turns).2 workersWait_turns⟩

end TwoRefreshes

end ConnectionJobs
