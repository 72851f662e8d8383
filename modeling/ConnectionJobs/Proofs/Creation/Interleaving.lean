import ConnectionJobs.Proofs.Creation.Clearing
import ConnectionJobs.Proofs.Generation.Interleaving

/-!
# Cleanups that interleave

A cleanup reads the saved state, strips the copy it has read and writes the copy back. Reading and writing are two
transactions, and nothing keeps the cleanup of another refresh from writing in between. What that one has written is
then lost: the copy was made before, so it still has the cursors that the other cleanup has removed.

Below, two refreshes of one connection take turns between any two of their steps, and no one else writes the saved
state. What they leave is clean of the requests of both, unless one overwrites the other; then the state has the
cursors that only the overwritten one was to remove.
-/

namespace ConnectionJobs

open Happening

/-! ## A saved state that is shared -/

/-- The access replaces the state. -/
def Access.isWrite : Access → Bool
  | read _ => false
  | write _ => true

/-- The access that is made to the saved state of a connection, and the creation that makes it. -/
def Happening.access? (connection : Uuid) : Happening → Option (Nat × Access)
  | did i step => (step.access? connection).map (i, ·)
  | finished _ => none

/-- The accesses to the saved state of a connection in a history, in order. -/
def accessesIn (connection : Uuid) (history : List Happening) : List (Nat × Access) :=
  history.filterMap (access? connection)

/-- **Every reading finds the state that is there**, from the one that is there first. -/
def Finds : Option SavedState → List (Nat × Access) → Prop
  | _, [] => True
  | state, (_, .read found) :: rest => found = state ∧ Finds state rest
  | _, (_, .write state) :: rest => Finds (some state) rest

/-- **The state that accesses leave**, from the one that is there first. -/
def leftBy : Option SavedState → List (Nat × Access) → Option SavedState
  | state, [] => state
  | state, (_, .read _) :: rest => leftBy state rest
  | _, (_, .write state) :: rest => leftBy (some state) rest

/-- The streams that a state has a cursor for, if there is a state. -/
def coveredIn (state : Option SavedState) : List StreamId := (state.map SavedState.covered).getD []

/-- **Two refreshes that share a saved state**, the creations 0 and 1 of a history: both run to their end without a
failure, and nothing else happens to the state, which is what every reading finds. -/
structure SharesState (connection : Uuid) (creations : Nat → Refresh) (initial : Option SavedState)
    (history : List Happening) : Prop where
  /-- Both are of one connection. -/
  same : ∀ i, (creations i).inputs.connection.connectionId = connection
  /-- Both make their job, and nothing fails in either. -/
  finish : ∀ i, i = 0 ∨ i = 1 → failures (stepsOf i history) = [] ∧ ∃ job,
    Runs (Services.ported.clearing.collaborators.createRefresh (creations i).inputs (creations i).requests)
      (stepsOf i history) (.ok (some job))
  /-- No one else does anything. -/
  only : ∀ i step, did i step ∈ history → i = 0 ∨ i = 1
  /-- The store answers what it holds. -/
  finds : Finds initial (accessesIn connection history)

/-- **Who takes turns** at the state, and whether by writing it. -/
def turns (accesses : List (Nat × Access)) : List (Nat × Bool) := accesses.map fun p => (p.1, p.2.isWrite)

/-- **A creation overwrites another** when it reads the state before the other writes it, and writes it after. -/
def Overwrites (turns : List (Nat × Bool)) (later earlier : Nat) : Prop :=
  [(later, false), (earlier, true), (later, true)].Sublist turns

instance (turns : List (Nat × Bool)) (later earlier : Nat) : Decidable (Overwrites turns later earlier) :=
  inferInstanceAs (Decidable (List.Sublist _ _))

/-- **Cursors come back** when the requests of one refresh are written over with a copy stripped of those of another
only: there is a stream with a cursor at first that only the former is requested for. -/
def Restores (initial : Option SavedState) (earlier later : List RefreshRequest) : Prop :=
  ∃ stream, stream ∈ earlier.map RefreshRequest.stream ∧ stream ∈ coveredIn initial ∧
    stream ∉ later.map RefreshRequest.stream

/-- **A state is clean of requests** when it has no cursor of a stream that they name. -/
def CleanOf (requests : List RefreshRequest) (state : Option SavedState) : Prop :=
  ∀ stream ∈ requests.map RefreshRequest.stream, stream ∉ coveredIn state

/-! ## Two lists that interleave -/

/-- **A list interleaves two others**: every element is the next of one of them, and says of which. -/
inductive Interleaves {α : Type} (i j : Nat) : List α → List α → List (Nat × α) → Prop
  /-- Nothing is left. -/
  | nil : Interleaves i j [] [] []
  /-- The next element is from the first list. -/
  | first {x : α} {xs ys : List α} {l : List (Nat × α)} (rest : Interleaves i j xs ys l) :
      Interleaves i j (x :: xs) ys ((i, x) :: l)
  /-- The next element is from the second list. -/
  | second {y : α} {xs ys : List α} {l : List (Nat × α)} (rest : Interleaves i j xs ys l) :
      Interleaves i j xs (y :: ys) ((j, y) :: l)

theorem Interleaves.symm {α : Type} {i j : Nat} {xs ys : List α} {l : List (Nat × α)}
    (h : Interleaves i j xs ys l) : Interleaves j i ys xs l := by
  induction h with
  | nil => exact .nil
  | first _ ih => exact .second ih
  | second _ ih => exact .first ih

/-- **The accesses of two creations interleave** in a history of both. -/
theorem interleaves_accessesIn {connection : Uuid} {history : List Happening}
    (only : ∀ i step, did i step ∈ history → i = 0 ∨ i = 1) :
    Interleaves 0 1 (accesses connection (stepsOf 0 history)) (accesses connection (stepsOf 1 history))
      (accessesIn connection history) := by
  induction history with
  | nil => exact .nil
  | cons happening rest ih =>
    have ih := ih fun i step h => only i step (List.mem_cons_of_mem _ h)
    obtain ⟨i, step⟩ | job := happening
    · -- A step is the next of its creation, and it is an access or none.
      have one : accesses connection [step] = (step.access? connection).toList := by
        cases h : step.access? connection <;> simp [accesses, h]
      obtain rfl | rfl : i = 0 ∨ i = 1 := only i step List.mem_cons_self
      · rw [stepsOf_did, show stepsOf 1 (did 0 step :: rest) = stepsOf 1 rest from rfl, ← List.singleton_append,
          accesses_append, one]
        cases h : step.access? connection with
        | none => simpa [accessesIn, access?, h] using ih
        | some access =>
          rw [accessesIn, List.filterMap_cons_some (show access? connection (did 0 step) = some (0, access) by
            simp [access?, h])]
          exact .first ih
      · rw [stepsOf_did, show stepsOf 0 (did 1 step :: rest) = stepsOf 0 rest from rfl, ← List.singleton_append,
          accesses_append, one]
        cases h : step.access? connection with
        | none => simpa [accessesIn, access?, h] using ih
        | some access =>
          rw [accessesIn, List.filterMap_cons_some (show access? connection (did 1 step) = some (1, access) by
            simp [access?, h])]
          exact .second ih
    · exact ih

/-! ## What two cleanups leave -/

/-- **How two cleanups can end** of which `i` reads the state first: the state found first, the turns they take and
the state they leave. -/
inductive Ending (i j : Nat) (a b : List RefreshRequest) :
    Option SavedState → List (Nat × Bool) → Option SavedState → Prop
  /-- There are no cursors to clear, and both leave the state alone. -/
  | idle {state : Option SavedState} (uncovered : coveredIn state = []) :
      Ending i j a b state [(i, false), (j, false)] state
  /-- The second reads what the first has written. -/
  | inTurn {state : SavedState} :
      Ending i j a b (some state) [(i, false), (i, true), (j, false), (j, true)] (some ((state.strip a).strip b))
  /-- Both read the same state, and the second writes last. -/
  | secondLast {state : SavedState} :
      Ending i j a b (some state) [(i, false), (j, false), (i, true), (j, true)] (some (state.strip b))
  /-- Both read the same state, and the first writes last. -/
  | firstLast {state : SavedState} :
      Ending i j a b (some state) [(i, false), (j, false), (j, true), (i, true)] (some (state.strip a))

section Cleanups

variable {i j : Nat} {a b : List RefreshRequest} {initial found : Option SavedState} {l : List (Nat × Access)}
  {turns' : List (Nat × Bool)} {final : Option SavedState}

/-- A cleanup that finds cursors writes the state stripped; one that finds none writes nothing. -/
theorem clearingWrites_cases (state : Option SavedState) :
    (coveredIn state = [] ∧ ∀ a, clearingWrites a state = []) ∨
      ∃ s, state = some s ∧ s.shape ≠ .legacy ∧ ∀ a, clearingWrites a state = [.write (s.strip a)] := by
  obtain _ | s := state
  · exact .inl ⟨rfl, fun _ => rfl⟩
  · by_cases legacy : s.shape = .legacy
    · refine .inl ⟨?_, fun _ => if_pos legacy⟩
      simp [coveredIn, SavedState.covered, SavedState.cursors, legacy]
    · exact .inr ⟨s, rfl, legacy, fun _ => if_neg legacy⟩

/-- **Every ending is one of these**: after the first reading the accesses are followed turn by turn. -/
theorem ending_of_interleaves
    (h : Interleaves i j (clearingWrites a initial) (.read found :: clearingWrites b found) l)
    (finds : Finds initial l) : Ending i j a b initial ((i, false) :: turns l) (leftBy initial l) := by
  obtain ⟨uncovered, none⟩ | ⟨s, rfl, known, one⟩ := clearingWrites_cases initial
  · rw [none a] at h
    cases h with
    | second h =>
      obtain ⟨rfl, -⟩ := finds
      rw [none b] at h
      cases h
      exact .idle uncovered
  · rw [one a] at h
    cases h with
    | first h =>
      cases h with
      | second h =>
        obtain ⟨rfl, -⟩ := finds
        rw [clearingWrites, if_neg (by rwa [SavedState.shape_strip])] at h
        cases h with
        | second h =>
          cases h
          exact .inTurn
    | second h =>
      obtain ⟨rfl, -⟩ := finds
      rw [one b] at h
      cases h with
      | first h =>
        cases h with
        | second h =>
          cases h
          exact .secondLast
      | second h =>
        cases h with
        | first h =>
          cases h
          exact .firstLast

/-- A state stripped for some requests is clean of others unless cursors come back. -/
theorem cleanOf_strip_iff {state : SavedState} :
    CleanOf a (some (state.strip b)) ↔ ¬ Restores (some state) a b := by
  have stripped : ∀ stream, stream ∈ coveredIn (some (state.strip b)) ↔
      stream ∈ coveredIn (some state) ∧ stream ∉ b.map RefreshRequest.stream := fun _ => SavedState.mem_covered_strip
  simp only [CleanOf, Restores, stripped, not_exists, not_and]

/-- No cursor of a request comes back to the requests themselves. -/
theorem not_restores_self : ¬ Restores initial a a := fun ⟨_, named, _, unnamed⟩ => unnamed named

/-- What is clean has no cursors to come back. -/
theorem CleanOf.not_restores (h : CleanOf a initial) : ¬ Restores initial a b := fun ⟨stream, named, covered, _⟩ =>
  h stream named covered

/-- **An ending is clean unless cursors come back** through an overwriting, which the turns show. -/
theorem Ending.clean_iff {final : Option SavedState} {t : List (Nat × Bool)} (h : Ending i j a b initial t final)
    (order : i = 0 ∧ j = 1 ∨ i = 1 ∧ j = 0) :
    CleanOf a final ∧ CleanOf b final ↔
      ¬ (Overwrites t j i ∧ Restores initial a b) ∧ ¬ (Overwrites t i j ∧ Restores initial b a) := by
  cases h with
  | idle uncovered =>
    have clean : ∀ requests, CleanOf requests initial := fun _ _ _ h => by
      rw [uncovered] at h
      exact List.not_mem_nil h
    have neither : ¬ Overwrites [(i, false), (j, false)] j i ∧ ¬ Overwrites [(i, false), (j, false)] i j := by
      obtain ⟨rfl, rfl⟩ | ⟨rfl, rfl⟩ := order <;> decide
    simp only [clean, neither, false_and, not_false_eq_true, and_self]
  | @inTurn s =>
    have first : CleanOf a (some (s.strip a)) := cleanOf_strip_iff.mpr not_restores_self
    have clean : CleanOf a (some ((s.strip a).strip b)) ∧ CleanOf b (some ((s.strip a).strip b)) :=
      ⟨cleanOf_strip_iff.mpr first.not_restores, cleanOf_strip_iff.mpr not_restores_self⟩
    have neither : ¬ Overwrites [(i, false), (i, true), (j, false), (j, true)] j i ∧
        ¬ Overwrites [(i, false), (i, true), (j, false), (j, true)] i j := by
      obtain ⟨rfl, rfl⟩ | ⟨rfl, rfl⟩ := order <;> decide
    simp only [clean, neither, false_and, not_false_eq_true, and_self]
  | @secondLast s =>
    have overwrites : Overwrites [(i, false), (j, false), (i, true), (j, true)] j i ∧
        ¬ Overwrites [(i, false), (j, false), (i, true), (j, true)] i j := by
      obtain ⟨rfl, rfl⟩ | ⟨rfl, rfl⟩ := order <;> decide
    simp only [cleanOf_strip_iff, overwrites, not_restores_self, false_and, true_and, not_false_eq_true, and_true]
  | @firstLast s =>
    have overwrites : ¬ Overwrites [(i, false), (j, false), (j, true), (i, true)] j i ∧
        Overwrites [(i, false), (j, false), (j, true), (i, true)] i j := by
      obtain ⟨rfl, rfl⟩ | ⟨rfl, rfl⟩ := order <;> decide
    simp only [cleanOf_strip_iff, overwrites, not_restores_self, false_and, true_and, not_false_eq_true]

end Cleanups

/-- The accesses of a refresh that shares its state are those of its cleanup. -/
theorem SharesState.accesses_eq {connection : Uuid} {creations : Nat → Refresh} {initial : Option SavedState}
    {history : List Happening} (shares : SharesState connection creations initial history) {i : Nat}
    (h : i = 0 ∨ i = 1) : ∃ found, accesses connection (stepsOf i history) =
      .read found :: clearingWrites (creations i).requests found := by
  obtain ⟨untroubled, job, run⟩ := shares.finish i h
  obtain ⟨s, resources, catalog, found, stamped, steps⟩ :=
    (Services.refreshCourse_of_runs run).completed untroubled
  rw [shares.same] at steps
  refine ⟨found, ?_⟩
  rw [steps, List.append_cons, accesses_append, accesses_cleanupSteps, accesses_eq_nil, List.nil_append]
  simpa [Services.patchCall, or_imp, forall_and] using stamped.opening.1

/-- **When two refreshes leave a clean state.** They do unless one overwrites the other and cursors come back: one
that the other was to remove, and it was not. -/
theorem clean_iff_of_sharesState {connection : Uuid} {creations : Nat → Refresh} {initial : Option SavedState}
    {history : List Happening} (shares : SharesState connection creations initial history) :
    CleanOf (creations 0).requests (leftBy initial (accessesIn connection history)) ∧
        CleanOf (creations 1).requests (leftBy initial (accessesIn connection history)) ↔
      ¬ (Overwrites (turns (accessesIn connection history)) 1 0 ∧
          Restores initial (creations 0).requests (creations 1).requests) ∧
        ¬ (Overwrites (turns (accessesIn connection history)) 0 1 ∧
          Restores initial (creations 1).requests (creations 0).requests) := by
  obtain ⟨first, hf⟩ := shares.accesses_eq (.inl rfl)
  obtain ⟨second, hs⟩ := shares.accesses_eq (.inr rfl)
  have interleaves : Interleaves 0 1 (accesses connection (stepsOf 0 history))
      (accesses connection (stepsOf 1 history)) (accessesIn connection history) := interleaves_accessesIn shares.only
  have finds := shares.finds
  rw [hf, hs] at interleaves
  generalize accessesIn connection history = l at interleaves finds ⊢
  -- One of the two reads first, and finds the state that is there.
  cases interleaves with
  | first rest =>
    obtain ⟨rfl, finds⟩ := finds
    exact (ending_of_interleaves rest finds).clean_iff (.inl ⟨rfl, rfl⟩)
  | second rest =>
    obtain ⟨rfl, finds⟩ := finds
    rw [and_comm, and_comm (a := ¬ _)]
    exact (ending_of_interleaves rest.symm finds).clean_iff (.inr ⟨rfl, rfl⟩)

/-! ## Two refreshes of two streams -/

/-- **The database answers a history** that goes on after another, step by step, and workers end jobs that there
are. -/
def Answered (connection : Uuid) : List Happening → List Happening → Prop
  | _, [] => True
  | before, did i step :: rest => Faithful connection before step ∧ Answered connection (before ++ [did i step]) rest
  | before, finished job :: rest => job ∈ jobsIn before ∧ Answered connection (before ++ [finished job]) rest

namespace TwoCleanups

/-- The streams of two refreshes. -/
def name : Nat → String
  | 0 => "users"
  | _ => "orders"

/-- A refresh of each. -/
def creations (i : Nat) : Refresh := ⟨default, [⟨default, name i, none⟩]⟩

/-- A state with cursors. -/
def saved (cursors : List StreamState) : SavedState := ⟨.stream, none, none, cursors⟩

/-- A cursor of each stream. -/
def both : List StreamState := [⟨"users", none, none⟩, ⟨"orders", none, none⟩]

/-- A refresh makes its job. -/
def making (i : Nat) (job : Int) : List Happening :=
  let config := Services.refreshConfig default (creations i).requests default
  [did i (.called (.eligibility default default default default) (.ok true)),
    did i (.called (.resolve default (.live default) default false) (.ok (default : Bundle))),
    did i (.called (.enqueue (default : Uuid).text (.refresh config)) (.ok (some job))),
    did i (.reported (enqueueReport default .refresh (some job))),
    did i (.called (.bump default job (creations i).requests) (.ok ())),
    did i (.called (.stamp default default job (creations i).requests) (.ok default)),
    did i (.called (.updateConfig job (.refresh (config.withCatalog default))) (.ok ()))]

/-- A refresh reads the state. -/
def reading (i : Nat) (cursors : List StreamState) : Happening :=
  did i (.called (.readState default) (.ok (some (saved cursors))))

/-- A refresh writes the cursors it has read, except its own. -/
def writing (i : Nat) (cursors : List StreamState) : Happening :=
  did i (.called (.writeState default (saved (retainedStreams (creations i).requests cursors))) (.ok ()))

/-- A refresh deletes its request. -/
def deleting (i : Nat) : Happening := did i (.called (.deleteRequest default (name i) none) (.ok ()))

/-- A refresh that does all of this makes its job without a failure. -/
theorem finish_of_stepsOf {history : List Happening} {i : Nat} (job : Int) (cursors : List StreamState)
    (steps : stepsOf i history =
      stepsOf i (making i job ++ [reading i cursors, writing i cursors, deleting i])) :
    failures (stepsOf i history) = [] ∧ ∃ job,
      Runs (Services.ported.clearing.collaborators.createRefresh (creations i).inputs (creations i).requests)
        (stepsOf i history) (.ok (some job)) := by
  rw [steps, making, reading, writing, deleting]
  simp only [List.cons_append, List.nil_append, stepsOf_did]
  refine ⟨rfl, job, ?_⟩
  change Program.Leads _ _ _
  exact .call (.call (.call (.report (.call (.call (.call (.call (.call (.call (.here _))))))))))

/-- **A race**: a worker ends the job of a refresh early, another refresh begins, and both read the state before
either writes it. -/
def race : List Happening :=
  making 0 1 ++ [finished 1] ++ making 1 2 ++ [reading 0 both, reading 1 both, writing 0 both, writing 1 both,
    deleting 0, deleting 1]

theorem sharesState_race : SharesState default creations (some (saved both)) race where
  same _ := rfl
  finish i h := by
    obtain rfl | rfl := h
    · exact finish_of_stepsOf 1 both rfl
    · exact finish_of_stepsOf 2 both rfl
  only i step h := by
    have sources : ∀ happening ∈ race, ∀ i step, happening = did i step → i = 0 ∨ i = 1 := by
      simp [race, making, reading, writing, deleting]
    exact sources _ h i step rfl
  finds := ⟨rfl, rfl, trivial⟩

theorem answered_race : Answered default [] race := by
  simp [race, making, reading, writing, deleting, Answered, Faithful, jobsIn, stepsIn, step?, Step.job?]

/-- **A cleared cursor can come back**, although nothing fails and every answer is the database's. -/
theorem exists_restored_cursor : ¬ ∀ connection creations initial history,
    SharesState connection creations initial history → Answered connection [] history →
      CleanOf (creations 0).requests (leftBy initial (accessesIn connection history)) ∧
        CleanOf (creations 1).requests (leftBy initial (accessesIn connection history)) := by
  intro clean
  obtain ⟨first, -⟩ := clean default creations (some (saved both)) race sharesState_race answered_race
  exact first ⟨"users", none⟩ (by decide) (by decide)

/-- **Turns**: the second refresh reads what the first has written. -/
def oneByOne : List Happening :=
  making 0 1 ++ [reading 0 both, writing 0 both, deleting 0, finished 1] ++ making 1 2 ++
    [reading 1 (retainedStreams (creations 0).requests both), writing 1 (retainedStreams (creations 0).requests both),
      deleting 1]

theorem sharesState_oneByOne : SharesState default creations (some (saved both)) oneByOne where
  same _ := rfl
  finish i h := by
    obtain rfl | rfl := h
    · exact finish_of_stepsOf 1 both rfl
    · exact finish_of_stepsOf 2 (retainedStreams (creations 0).requests both) rfl
  only i step h := by
    have sources : ∀ happening ∈ oneByOne, ∀ i step, happening = did i step → i = 0 ∨ i = 1 := by
      simp [oneByOne, making, reading, writing, deleting]
    exact sources _ h i step rfl
  finds := ⟨rfl, rfl, trivial⟩

/-- Refreshes that take turns leave the state clean. -/
theorem clean_oneByOne :
    CleanOf (creations 0).requests (leftBy (some (saved both)) (accessesIn default oneByOne)) ∧
      CleanOf (creations 1).requests (leftBy (some (saved both)) (accessesIn default oneByOne)) :=
  (clean_iff_of_sharesState sharesState_oneByOne).mpr ⟨fun h => absurd h.1 (by decide), fun h => absurd h.1 (by decide)⟩

end TwoCleanups

end ConnectionJobs
