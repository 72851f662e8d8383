import ConnectionJobs.Proofs.Creation.Course
import Mathlib.Data.List.Basic

/-!
# The store of generations

The store of generations keeps **rows**: a stream, and a generation started for it. The current generation of a
stream is the greatest of its rows, whatever else the store holds. What creations do to the store is then a matter
of the rows that their steps record and of the readings they base them on. A bump reads first and records second,
one row for every stream requested; a stamp only reads.
-/

namespace ConnectionJobs

/-! ## The rows of the store -/

/-- **The rows a step records** for a connection: an insertion that succeeds records all of its rows, and one that
fails records none. -/
def Step.rows (connection : Uuid) : Step → List (StreamId × Int)
  | called (.insertGenerations target _ generations) (.ok _) => if target = connection then generations else []
  | _ => []

/-- **The rows that some steps record** for a connection, in order. -/
def rows (connection : Uuid) (steps : List Step) : List (StreamId × Int) := steps.flatMap (Step.rows connection)

/-- **The generation of a stream** among rows is the greatest one. -/
def generationOf (rows : List (StreamId × Int)) (stream : StreamId) : Option Int :=
  (rows.filterMap fun row => if row.1 = stream then some row.2 else none).max?

/-- **A reading of the store**: the generation of every stream among the rows that are there. -/
def Reads (rows : List (StreamId × Int)) (generations : Generations) : Prop :=
  ∀ stream, Keyed.find? stream generations = generationOf rows stream

section Rows

variable {connection : Uuid} {s t : List Step} {rs : List (StreamId × Int)} {stream : StreamId}
  {generations : Generations} {streams : List StreamId}

@[simp] theorem rows_nil : rows connection [] = [] := rfl

@[simp] theorem rows_append : rows connection (s ++ t) = rows connection s ++ rows connection t :=
  List.flatMap_append

theorem rows_cons {step : Step} : rows connection (step :: s) = step.rows connection ++ rows connection s :=
  List.flatMap_cons

/-- A row is recorded by an insertion that succeeds. -/
theorem mem_rows {step : Step} {row : StreamId × Int} :
    row ∈ step.rows connection ↔ ∃ job generations,
      step = .called (.insertGenerations connection job generations) (.ok ()) ∧ row ∈ generations := by
  constructor
  · intro h
    unfold Step.rows at h
    split at h
    · split at h
      · rename_i target job generations _ same
        exact ⟨job, generations, by rw [same], h⟩
      · exact absurd h List.not_mem_nil
    · exact absurd h List.not_mem_nil
  · rintro ⟨job, generations, rfl, h⟩
    simpa [Step.rows] using h

theorem rows_insertion {job : Int} {generations : List (StreamId × Int)} :
    Step.rows connection (.called (.insertGenerations connection job generations) (.ok ())) = generations :=
  if_pos rfl

/-- The generation of a stream is one of its rows, and no row of it is greater. -/
theorem generationOf_eq_some {n : Int} :
    generationOf rs stream = some n ↔ (stream, n) ∈ rs ∧ ∀ m, (stream, m) ∈ rs → m ≤ n := by
  have mem : ∀ m, m ∈ rs.filterMap (fun row => if row.1 = stream then some row.2 else none) ↔
      (stream, m) ∈ rs := by
    intro m
    rw [List.mem_filterMap]
    constructor
    · rintro ⟨⟨other, k⟩, h, hk⟩
      obtain ⟨rfl, rfl⟩ : other = stream ∧ k = m := by simpa using hk
      exact h
    · intro h
      exact ⟨(stream, m), h, by simp⟩
  rw [generationOf, List.max?_eq_some_iff, mem]
  simp only [mem]

/-- A stream has no generation when it has no row. -/
theorem generationOf_eq_none : generationOf rs stream = none ↔ ∀ m, (stream, m) ∉ rs := by
  rw [generationOf, List.max?_eq_none_iff, List.filterMap_eq_nil_iff]
  constructor
  · intro h m hm
    simpa using h _ hm
  · rintro h ⟨other, m⟩ hm
    have : other ≠ stream := fun e => h m (e ▸ hm)
    simp [this]

/-- Rows of other streams leave the generation of a stream alone. -/
theorem generationOf_append_of_forall {added : List (StreamId × Int)} (h : ∀ m, (stream, m) ∉ added) :
    generationOf (rs ++ added) stream = generationOf rs stream := by
  have none : added.filterMap (fun row => if row.1 = stream then some row.2 else Option.none) = [] := by
    rw [List.filterMap_eq_nil_iff]
    rintro ⟨other, m⟩ hm
    have : other ≠ stream := fun e => h m (e ▸ hm)
    simp [this]
  rw [generationOf, List.filterMap_append, none, List.append_nil, generationOf]

/-- No row is above what a reading answers. -/
theorem Reads.le {m : Int} (h : Reads rs generations) (hm : (stream, m) ∈ rs) : m ≤ generations.current stream := by
  rw [Generations.current, h stream]
  cases hg : generationOf rs stream with
  | none => exact absurd hm (generationOf_eq_none.mp hg m)
  | some n => exact (generationOf_eq_some.mp hg).2 m hm

/-- A reading stays current for a stream that no row is added for. -/
theorem Reads.current_of_forall {added : List (StreamId × Int)} (h : Reads rs generations)
    (clear : ∀ m, (stream, m) ∉ added) :
    (generationOf (rs ++ added) stream).getD 0 = generations.current stream := by
  rw [generationOf_append_of_forall clear, Generations.current, h stream]

/-- One row is read back. -/
theorem reads_singleton (stream : StreamId) (n : Int) : Reads [(stream, n)] [(stream, n)] := fun other => by
  by_cases e : stream = other <;> simp [generationOf, Keyed.find?, e]

theorem mem_nextGenerations {m : Int} :
    (stream, m) ∈ nextGenerations generations streams ↔ stream ∈ streams ∧ m = generations.current stream + 1 := by
  rw [nextGenerations, List.mem_map]
  constructor
  · rintro ⟨other, h, e⟩
    cases e
    exact ⟨h, rfl⟩
  · rintro ⟨h, rfl⟩
    exact ⟨stream, h, rfl⟩

/-- **A recorded generation is the new one**: what a reading led to is above everything it has read. -/
theorem Reads.generationOf_next (h : Reads rs generations) (hs : stream ∈ streams) :
    generationOf (rs ++ nextGenerations generations streams) stream = some (generations.current stream + 1) := by
  rw [generationOf_eq_some]
  refine ⟨List.mem_append_right _ (mem_nextGenerations.mpr ⟨hs, rfl⟩), fun m hm => ?_⟩
  obtain hm | hm := List.mem_append.mp hm
  · exact Int.le_add_one (h.le hm)
  · exact Int.le_of_eq (mem_nextGenerations.mp hm).2

/-- Streams that are not named keep their generations. -/
theorem generationOf_next_of_notMem (hs : stream ∉ streams) :
    generationOf (rs ++ nextGenerations generations streams) stream = generationOf rs stream :=
  generationOf_append_of_forall fun _ hm => hs (mem_nextGenerations.mp hm).1

end Rows

/-! ## The streams of requests -/

section Requested

variable {requests : List RefreshRequest} {stream : StreamId}

/-- Collecting streams once each keeps those seen before, and repeats none. -/
private theorem collected (streams seen : List StreamId) (h : seen.Nodup) :
    (streams.foldl (fun seen s => if s ∈ seen then seen else seen ++ [s]) seen).Nodup ∧
      ∀ s, s ∈ streams.foldl (fun seen s => if s ∈ seen then seen else seen ++ [s]) seen ↔
        s ∈ seen ∨ s ∈ streams := by
  induction streams generalizing seen with
  | nil => exact ⟨h, by simp⟩
  | cons head rest ih =>
    rw [List.foldl_cons]
    by_cases hm : head ∈ seen
    · rw [if_pos hm]
      obtain ⟨nodup, mem⟩ := ih seen h
      refine ⟨nodup, fun s => (mem s).trans ?_⟩
      rw [List.mem_cons]
      constructor
      · exact Or.imp_right .inr
      · rintro (hs | rfl | hs)
        · exact .inl hs
        · exact .inl hm
        · exact .inr hs
    · rw [if_neg hm]
      obtain ⟨nodup, mem⟩ := ih (seen ++ [head]) (List.nodup_append.mpr ⟨h, by simp, by grind⟩)
      refine ⟨nodup, fun s => (mem s).trans ?_⟩
      rw [List.mem_append, List.mem_singleton, List.mem_cons, or_assoc]

/-- **No stream is requested twice**, however often requests name it. -/
theorem nodup_requestedStreams (requests : List RefreshRequest) : (requestedStreams requests).Nodup :=
  (collected _ [] List.nodup_nil).1

/-- **The requested streams are the streams that requests name.** -/
theorem mem_requestedStreams : stream ∈ requestedStreams requests ↔ stream ∈ requests.map RefreshRequest.stream := by
  refine ((collected _ [] List.nodup_nil).2 stream).trans ?_
  rw [or_iff_right List.not_mem_nil]

theorem isEmpty_requestedStreams : (requestedStreams requests).isEmpty = requests.isEmpty := by
  rw [Bool.eq_iff_iff, List.isEmpty_iff, List.isEmpty_iff, List.eq_nil_iff_forall_not_mem]
  simp only [mem_requestedStreams]
  rw [← List.eq_nil_iff_forall_not_mem, List.map_eq_nil_iff]

/-- The rows of one bump are distinct. -/
theorem nodup_nextGenerations {generations : Generations} {streams : List StreamId} (h : streams.Nodup) :
    (nextGenerations generations streams).Nodup :=
  List.Pairwise.map _ (fun _ _ ne e => ne (Prod.mk.inj e).1) h

end Requested

/-! ## Bump and stamp over an open store -/

section Parts

variable {connection : Uuid} {job : Int} {requests : List RefreshRequest} {steps : List Step}

/-- **The courses of a bump.** -/
inductive BumpCourse (connection : Uuid) (job : Int) (requests : List RefreshRequest) :
    List Step → Except Failure Unit → Prop
  /-- There is nothing to bump. -/
  | idle (empty : requests = []) : BumpCourse connection job requests [] (.ok ())
  /-- The current generations cannot be read. -/
  | unread {failure : Failure} : BumpCourse connection job requests
      [.called (.currentGenerations connection) (.error failure)] (.error failure)
  /-- The next generations are handed to the store. -/
  | handed {generations : Generations} {result : Except Failure Unit} : BumpCourse connection job requests
      [.called (.currentGenerations connection) (.ok generations),
        .called (.insertGenerations connection job (nextGenerations generations (requestedStreams requests))) result]
      result

/-- A bump hands over the generations it has just read, each plus one. -/
theorem BumpCourse.insertion {outcome : Except Failure Unit} {before after : List Step} {target : Uuid} {number : Int}
    {generations : List (StreamId × Int)} {answer : Except Failure Unit}
    (h : BumpCourse connection job requests
      (before ++ .called (.insertGenerations target number generations) answer :: after) outcome) :
    ∃ current, before = [.called (.currentGenerations connection) (.ok current)] ∧ target = connection ∧
      number = job ∧ generations = nextGenerations current (requestedStreams requests) ∧ after = [] := by
  generalize hs : before ++ Step.called (.insertGenerations target number generations) answer :: after = steps at h
  obtain _ | _ | _ := h
  · exact absurd hs (by simp)
  · obtain _ | ⟨_, _ | ⟨_, _⟩⟩ := before <;> simp at hs
  · -- Of the two steps of such a bump the second is the insertion.
    obtain _ | ⟨_, _ | ⟨_, _⟩⟩ := before
    · simp at hs
    · cases hs
      exact ⟨_, rfl, rfl, rfl, rfl, rfl⟩
    · simp at hs

theorem bumpCourse_of_runs {outcome : Except Failure Unit}
    (h : Runs (bumpGenerations Program.surroundings.generations connection job requests) steps outcome) :
    BumpCourse connection job requests steps outcome := by
  simp only [bumpGenerations, isEmpty_requestedStreams] at h
  by_cases empty : requests = []
  · subst empty
    obtain ⟨rfl, rfl⟩ := runs_pure.mp h
    exact .idle rfl
  · rw [if_neg (by simpa using empty), runs_bind] at h
    obtain ⟨failure, h, rfl⟩ | ⟨generations, s, t, hs, ht, rfl⟩ := h
    · obtain rfl := runs_ask.mp h
      exact .unread
    · obtain rfl := runs_ask.mp hs
      obtain rfl := runs_ask.mp ht
      exact .handed

/-- **Stamping** is one reading of the store. -/
theorem runs_stampCatalog {catalog : Catalog} {outcome : Except Failure Catalog} :
    Runs (stampCatalog Program.surroundings.generations catalog connection job requests) steps outcome ↔
      (∃ failure, steps = [.called (.currentGenerations connection) (.error failure)] ∧ outcome = .error failure) ∨
        ∃ generations, steps = [.called (.currentGenerations connection) (.ok generations)] ∧
          outcome = .ok (catalog.stamp generations job (requests.map RefreshRequest.stream)) := by
  unfold stampCatalog
  rw [runs_bind]
  constructor
  · rintro (⟨failure, h, rfl⟩ | ⟨generations, s, t, hs, ht, rfl⟩)
    · exact .inl ⟨failure, runs_ask.mp h, rfl⟩
    · obtain rfl := runs_ask.mp hs
      obtain ⟨rfl, rfl⟩ := runs_pure.mp ht
      exact .inr ⟨generations, rfl, rfl⟩
  · rintro (⟨failure, rfl, rfl⟩ | ⟨generations, rfl, rfl⟩)
    · exact .inl ⟨failure, runs_ask.mpr rfl, rfl⟩
    · exact .inr ⟨generations, _, [], runs_ask.mpr rfl, runs_pure.mpr ⟨rfl, rfl⟩, rfl⟩

end Parts

end ConnectionJobs
