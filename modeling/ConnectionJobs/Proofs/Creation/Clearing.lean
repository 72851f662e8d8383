import ConnectionJobs.Proofs.Creation.Protocol

/-!
# Clearing the cursors of refreshed streams

A cleanup reads the saved state of a connection, strips it of the refreshed streams and writes it back. What that
does is best said of the *cursors* of a state, the list that its shape selects: stripping is a filter on them, for
every shape.

Creations run here with the library's own cursor clearer over an open store of states (`Services.clearing`), so a
reading and a writing of the state are two calls, each with an outcome of its own. When no call fails, the steps of
a cleanup are known from the state it finds (`cleanupSteps`).
-/

namespace ConnectionJobs

/-! ## The cursors of a state -/

namespace SavedState

variable {s : SavedState} {requests : List RefreshRequest} {stream : StreamId}

/-- **The cursors of a state**: those of the payload that its shape selects. A legacy state has none. -/
def cursors (s : SavedState) : List StreamState :=
  match s.shape with
  | .legacy => []
  | .global => (s.global.map GlobalState.streams).getD []
  | .stream => s.streams

/-- The streams that a state has a cursor for. -/
def covered (s : SavedState) : List StreamId := s.cursors.map StreamState.stream

theorem shape_strip : (s.strip requests).shape = s.shape := by
  obtain ⟨shape, _, _, _⟩ := s
  cases shape <;> rfl

/-- **Stripping filters the cursors**, and keeps the others in their order. -/
theorem cursors_strip : (s.strip requests).cursors = retainedStreams requests s.cursors := by
  obtain ⟨shape, legacy, payload, streams⟩ := s
  cases shape with
  | legacy => rfl
  | stream => rfl
  | global => cases payload <;> rfl

/-- A stream is covered after stripping when it was before and no request names it. -/
theorem mem_covered_strip :
    stream ∈ (s.strip requests).covered ↔ stream ∈ s.covered ∧ stream ∉ requests.map RefreshRequest.stream := by
  rw [covered, cursors_strip, retainedStreams, List.mem_map, covered, List.mem_map]
  constructor
  · rintro ⟨cursor, hc, rfl⟩
    obtain ⟨hc, hr⟩ := List.mem_filter.mp hc
    exact ⟨⟨cursor, hc, rfl⟩, by simpa using hr⟩
  · rintro ⟨⟨cursor, hc, rfl⟩, hr⟩
    exact ⟨cursor, List.mem_filter.mpr ⟨hc, by simpa using hr⟩, rfl⟩

end SavedState

/-! ## The clearer over an open store -/

/-- **Components whose cursor clearer is the library's own**, over an open store of states. -/
def Services.clearing (k : Services Program) : Services Program :=
  { k with clearCursors := Program.surroundings.collaborators.clearCursors }

/-- **What a cleanup does with the state it finds**, when nothing fails: a state is written back stripped, unless
it is a legacy one, which is reported. -/
def clearingSteps (connection : Uuid) (requests : List RefreshRequest) : Option SavedState → List Step
  | none => []
  | some state =>
    if state.shape = .legacy then [.reported (legacyStateReport connection)]
    else [.called (.writeState connection (state.strip requests)) (.ok ())]

/-- **The steps of a cleanup** in which nothing fails. -/
def cleanupSteps (connection : Uuid) (requests : List RefreshRequest) (found : Option SavedState) : List Step :=
  .called (.readState connection) (.ok found) ::
    (clearingSteps connection requests found ++
      requests.map fun request => .called (deleteCall connection request) (.ok ()))

/-! ## Accesses to the saved state -/

/-- **An access** to the saved state of a connection. -/
inductive Access where
  /-- The state is read. -/
  | read (found : Option SavedState)
  /-- The state is replaced. -/
  | write (state : SavedState)

/-- The access that a step makes to the saved state of a connection, if it makes one and does not fail. -/
def Step.access? (connection : Uuid) : Step → Option Access
  | called (.readState target) (.ok found) => if target = connection then some (.read found) else none
  | called (.writeState target state) (.ok _) => if target = connection then some (.write state) else none
  | _ => none

/-- The accesses that some steps make to the saved state of a connection, in order. -/
def accesses (connection : Uuid) (steps : List Step) : List Access := steps.filterMap (Step.access? connection)

/-- **The writings of a cleanup** that finds a state: one of the stripped state, unless it is a legacy one. -/
def clearingWrites (requests : List RefreshRequest) : Option SavedState → List Access
  | none => []
  | some state => if state.shape = .legacy then [] else [.write (state.strip requests)]

section Accesses

variable {connection : Uuid} {requests : List RefreshRequest} {found : Option SavedState} {s t : List Step}

@[simp] theorem accesses_append : accesses connection (s ++ t) = accesses connection s ++ accesses connection t :=
  List.filterMap_append

/-- Only calls of the cleanup access the saved state. -/
theorem accesses_eq_nil (h : ∀ call ∈ calls s, call.phase ≠ .cleaning) : accesses connection s = [] := by
  rw [accesses, List.filterMap_eq_nil_iff]
  intro step hs
  unfold Step.access?
  split
  · exact absurd rfl (h _ (mem_calls.mpr ⟨_, hs⟩))
  · exact absurd rfl (h _ (mem_calls.mpr ⟨_, hs⟩))
  · rfl

/-- **A cleanup reads the state and then writes it.** -/
theorem accesses_cleanupSteps :
    accesses connection (cleanupSteps connection requests found) = .read found :: clearingWrites requests found := by
  have deletions : accesses connection
      (requests.map fun request => .called (deleteCall connection request) (.ok ())) = [] := by
    rw [accesses, List.filterMap_map, List.filterMap_eq_nil_iff]
    exact fun _ _ => rfl
  have clearing : accesses connection (clearingSteps connection requests found) = clearingWrites requests found := by
    cases found with
    | none => rfl
    | some state =>
      by_cases legacy : state.shape = .legacy
      · rw [clearingSteps, clearingWrites, if_pos legacy, if_pos legacy]
        rfl
      · rw [clearingSteps, clearingWrites, if_neg legacy, if_neg legacy]
        exact List.filterMap_cons_some (if_pos rfl)
  have reading : accesses connection [.called (.readState connection) (.ok found)] = [.read found] :=
    List.filterMap_cons_some (if_pos rfl)
  rw [cleanupSteps, ← List.singleton_append, accesses_append, accesses_append, reading, clearing, deletions,
    List.append_nil, List.singleton_append]

end Accesses

namespace Services

variable {k : Services Program} {connection : Uuid} {requests : List RefreshRequest} {steps : List Step}
  {state : SavedState}

/-- **Clearing cursors** is one writing of the stripped state, or a report about a legacy one. -/
theorem runs_clearCursors {outcome : Except Failure Unit} :
    Runs (k.clearing.clearCursors connection state requests) steps outcome ↔
      (state.shape = .legacy ∧ steps = [.reported (legacyStateReport connection)] ∧ outcome = .ok ()) ∨
        (state.shape ≠ .legacy ∧ steps = [.called (.writeState connection (state.strip requests)) outcome]) := by
  change Runs (ConnectionJobs.clearCursors Program.surroundings.log Program.surroundings.states connection state
    requests) steps outcome ↔ _
  unfold ConnectionJobs.clearCursors
  cases state.shape with
  | legacy => exact runs_log.trans (by simp)
  | global => exact runs_ask.trans (by simp)
  | stream => exact runs_ask.trans (by simp)

/-- What failed in a list of steps failed in the whole. -/
theorem failures_append_eq_nil {s t : List Step} :
    failures (s ++ t) = [] ↔ failures s = [] ∧ failures t = [] := by
  rw [failures_append, List.append_eq_nil_iff]

/-- **Clearing without failures** does what the state asks for. -/
theorem clearSavedCursors_untroubled {outcome : Except Failure Unit}
    (h : Runs (k.clearing.collaborators.clearSavedCursors connection requests) steps outcome)
    (untroubled : failures steps = []) :
    outcome = .ok () ∧ ∃ found, steps =
      .called (.readState connection) (.ok found) :: clearingSteps connection requests found := by
  obtain ⟨failure, -, rfl⟩ | ⟨rfl, rfl⟩ | ⟨state, s, hs, rfl⟩ := runs_clearSavedCursors.mp h
  · simp at untroubled
  · exact ⟨rfl, none, rfl⟩
  · obtain ⟨legacy, rfl, rfl⟩ | ⟨known, rfl⟩ := runs_clearCursors.mp hs
    · exact ⟨rfl, some state, by rw [clearingSteps, if_pos legacy]⟩
    · cases outcome with
      | error failure => simp at untroubled
      | ok _ => exact ⟨rfl, some state, by rw [clearingSteps, if_neg known]⟩

/-- **Deletions without failures** delete every request. -/
theorem Deletions.untroubled {outcome : Except Failure Unit} (h : Deletions connection requests steps outcome)
    (untroubled : failures steps = []) :
    outcome = .ok () ∧ steps = requests.map fun request => .called (deleteCall connection request) (.ok ()) := by
  induction h with
  | done => exact ⟨rfl, rfl⟩
  | @stopped request rest result failure failed =>
    cases result with
    | ok _ => exact nomatch failed
    | error other => simp [deletion] at untroubled
  | @next request rest result outcome steps passed others ih =>
    obtain ⟨here, later⟩ := failures_append_eq_nil.mp untroubled
    cases result with
    | error failure => simp [deletion] at here
    | ok _ =>
      obtain ⟨rfl, rfl⟩ := ih later
      exact ⟨rfl, rfl⟩

/-- **A cleanup without failures** is known from the state it finds. -/
theorem CleanUp.untroubled {outcome : Except Failure Unit} (h : CleanUp k.clearing connection requests steps outcome)
    (untroubled : failures steps = []) :
    outcome = .ok () ∧ ∃ found, steps = cleanupSteps connection requests found := by
  cases h with
  | stopped cursors failed =>
    obtain ⟨rfl, -⟩ := clearSavedCursors_untroubled cursors (failures_append_eq_nil.mp untroubled).1
    exact nomatch failed
  | next cursors passed deletions =>
    obtain ⟨first, later⟩ := failures_append_eq_nil.mp untroubled
    obtain ⟨rfl, found, rfl⟩ := clearSavedCursors_untroubled cursors (failures_append_eq_nil.mp first).1
    obtain ⟨rfl, rfl⟩ := deletions.untroubled later
    refine ⟨rfl, found, ?_⟩
    rw [failureReports, List.append_nil, List.cons_append, cleanupSteps]

/-! ## Refreshes that clear cursors themselves -/

variable {inputs : JobInputs} {resources : Bundle} {job : Int} {catalog : Catalog}

theorem Opened.of_clearing (h : Opened k.clearing inputs resources steps) : Opened k inputs resources steps := by
  obtain ⟨gate, resolution⟩ := h
  exact .mk gate resolution

theorem Enqueued.of_clearing (h : Enqueued k.clearing inputs requests resources job steps) :
    Enqueued k inputs requests resources job steps := by
  obtain ⟨opened⟩ := h
  exact .mk opened.of_clearing

theorem Bumped.of_clearing (h : Bumped k.clearing inputs requests resources job steps) :
    Bumped k inputs requests resources job steps := by
  obtain ⟨enqueued, bump⟩ := h
  exact .mk enqueued.of_clearing bump

/-- **Up to the stamp it makes no difference who clears the cursors.** -/
theorem Stamped.of_clearing (h : Stamped k.clearing inputs requests resources job catalog steps) :
    Stamped k inputs requests resources job catalog steps := by
  obtain ⟨bumped, stamp⟩ := h
  exact .mk bumped.of_clearing stamp

/-- The call that stores the stamped configuration of a refresh. -/
def patchCall (inputs : JobInputs) (requests : List RefreshRequest) (resources : Bundle) (job : Int)
    (catalog : Catalog) : Call :=
  .updateConfig job (.refresh ((refreshConfig inputs requests resources).withCatalog catalog))

/-- **A refresh that makes its job without failures** stores the stamped configuration and cleans up. -/
theorem RefreshCourse.completed
    (h : RefreshCourse k.clearing inputs requests steps (.ok (some job))) (untroubled : failures steps = []) :
    ∃ s resources catalog found, Stamped k inputs requests resources job catalog s ∧
      steps = s ++ .called (patchCall inputs requests resources job catalog) (.ok ()) ::
        cleanupSteps inputs.connection.connectionId requests found := by
  generalize ho : (Except.ok (some job) : Except Failure (Option Int)) = outcome at h
  cases h with
  | patched stamped cleanUp =>
    rw [failures_append, failures_called, List.append_eq_nil_iff, List.append_eq_nil_iff] at untroubled
    obtain ⟨rfl, found, rfl⟩ := cleanUp.untroubled untroubled.2.2
    cases ho
    exact ⟨_, _, _, found, stamped.of_clearing, rfl⟩
  | _ => exact nomatch ho

end Services

end ConnectionJobs
