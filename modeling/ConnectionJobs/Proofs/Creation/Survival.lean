import ConnectionJobs.Proofs.Creation.Clearing
import ConnectionJobs.Proofs.Job.RoundTrip
import ConnectionJobs.Proofs.State.Store
import ConnectionJobs.Proofs.State.Writable

/-!
# Which states a job survives

A refresh that has stored its stamped configuration has made its job, and its cleanup is best effort: a store that
fails is reported, and the creation goes on. But only a persistence failure is survived. So the question is what the
stores fail with, and that depends on what the database holds as the state of the connection.

Creations run here with the library's own cursor clearer (`Services.clearing`), and the calls of the cleanup are
answered by the library's own stores over a database that holds any cell and fails at any statement (`Served`). Every
such creation **keeps its job**, but for one kind of cell: a state that a driver hands over decoded, and that nests too
deeply to be written back once it is stripped. A state that is read from a text is never of that kind.
-/

namespace ConnectionJobs

open Sql.Dialogue (Yields)

/-! ## Cleanups over a database -/

/-- **A step of the cleanup is answered by the stores** over a database that holds a cell. -/
def Step.AnsweredBy (content : Option Sql.Cell) : Step → Prop
  | called (.readState connection) outcome =>
    Yields content ((Sql.stateStore Sql.Dialogue.engine).get connection).run outcome
  | called (.writeState connection state) outcome =>
    Yields content ((Sql.stateStore Sql.Dialogue.engine).put connection state).run outcome
  | called (.deleteRequest connection name space) outcome =>
    Yields content ((Sql.requestStore Sql.Dialogue.engine).delete connection name space).run outcome
  | _ => True

/-- **The cleanup is served** by the stores over a database that holds a cell as the state of the connection. -/
def Served (content : Option Sql.Cell) (steps : List Step) : Prop := ∀ step ∈ steps, step.AnsweredBy content

/-- **A refresh keeps its job**: once the stamped configuration is stored, its number is the answer and the deletion of
every request is attempted, in order, whatever fails in the cleanup. -/
def KeepsJob (inputs : JobInputs) (requests : List RefreshRequest) (content : Option Sql.Cell) : Prop :=
  ∀ steps outcome job config,
    Runs (Services.ported.clearing.collaborators.createRefresh inputs requests) steps outcome →
    Served content steps → .called (.updateConfig job config) (.ok ()) ∈ steps →
      outcome = .ok (some job) ∧
        (calls steps).filter Call.isDeletion = requests.map (deleteCall inputs.connection.connectionId)

/-- **A state that cannot be written back**: what the database holds is a state, and not a legacy one, and what
stripping leaves of it nests too deeply. -/
def Unwritable (requests : List RefreshRequest) (content : Option Sql.Cell) : Prop :=
  ∃ state, Sql.stateIn content = .ok (some state) ∧ state.shape ≠ .legacy ∧
    (state.strip requests).isWritable = false

section Stores

variable {content : Option Sql.Cell} {requests : List RefreshRequest} {connection : Uuid}

theorem isPersistence_of_lost {α : Type} {message : String} {failure : Failure}
    (h : ∃ fault, (.error failure : Except Failure α) = .error (Sql.lost message fault)) :
    failure.isPersistence = true := by
  obtain ⟨fault, same⟩ := h
  cases same
  rfl

/-- Whatever is wrong with a cell is a persistence failure. -/
theorem isPersistence_of_stateIn {failure : Failure} (h : Sql.stateIn content = .error failure) :
    failure.isPersistence = true := by
  unfold Sql.stateIn at h
  split at h
  · exact nomatch h
  · split at h
    · exact nomatch h
    · split at h
      · exact nomatch h
      · cases h
        rfl

/-- **Reading fails persistently.** -/
theorem isPersistence_of_readState {failure : Failure}
    (h : (Step.called (.readState connection) (.error failure)).AnsweredBy content) : failure.isPersistence = true := by
  obtain lost | same := Sql.yields_getState.mp h
  · exact isPersistence_of_lost lost
  · exact isPersistence_of_stateIn same.symm

/-- **Deleting fails persistently.** -/
theorem isPersistence_of_deleteRequest {name : String} {space : Option String} {failure : Failure}
    (h : (Step.called (.deleteRequest connection name space) (.error failure)).AnsweredBy content) :
    failure.isPersistence = true := by
  obtain lost | same := Sql.yields_deleteRequest.mp h
  · exact isPersistence_of_lost lost
  · exact nomatch same

/-- **Writing fails persistently**, when the state can be written. -/
theorem isPersistence_of_writeState {state : SavedState} {failure : Failure} (writable : state.isWritable = true)
    (h : (Step.called (.writeState connection state) (.error failure)).AnsweredBy content) :
    failure.isPersistence = true := by
  obtain lost | same := Sql.yields_putState.mp h
  · exact isPersistence_of_lost lost
  · rw [if_pos writable] at same
    exact nomatch same

/-- A state that is read is the one that is held, so it can be written back unless the cell is of the one kind. -/
theorem isWritable_of_readState {state : SavedState} (kept : ¬Unwritable requests content)
    (h : (Step.called (.readState connection) (.ok (some state))).AnsweredBy content) (known : state.shape ≠ .legacy) :
    (state.strip requests).isWritable = true := by
  obtain ⟨fault, lost⟩ | same := Sql.yields_getState.mp h
  · exact nomatch lost
  · by_contra unwritable
    exact kept ⟨state, same.symm, known, Bool.eq_false_iff.mpr unwritable⟩

/-- **No text holds such a state**, whether it is handed over as text or as bytes. -/
theorem not_unwritable_of_text {text : String} :
    ¬Unwritable requests (some (.value (.text text))) ∧ ¬Unwritable requests (some (.bytes text)) := by
  have writable : ∀ {state}, decodeText Decoder.savedState text = .valid state →
      (state.strip requests).isWritable ≠ false := fun decoded refused =>
    Bool.false_ne_true (refused.symm.trans (SavedState.isWritable_strip (isWritable_of_decodeText decoded)))
  constructor
  · rintro ⟨state, found, -, refused⟩
    exact writable (Sql.checkState_of_stateIn found) refused
  · rintro ⟨state, found, -, refused⟩
    exact writable (Sql.checkState_of_stateIn found) refused

end Stores

namespace Services

variable {content : Option Sql.Cell} {requests : List RefreshRequest} {connection : Uuid} {steps : List Step}

/-! ## The cleanup goes on -/

/-- **Clearing the cursors is survived**, and deletes nothing. -/
theorem cursors_survived {result : Except Failure Unit} (kept : ¬Unwritable requests content)
    (h : Runs (ported.clearing.collaborators.clearSavedCursors connection requests) steps result)
    (served : Served content steps) : survived result = .ok () ∧ (calls steps).filter Call.isDeletion = [] := by
  obtain ⟨failure, rfl, rfl⟩ | ⟨rfl, rfl⟩ | ⟨state, s, hs, rfl⟩ := runs_clearSavedCursors.mp h
  · exact ⟨if_pos (isPersistence_of_readState (served _ List.mem_cons_self)), rfl⟩
  · exact ⟨rfl, rfl⟩
  · obtain ⟨read, later⟩ := List.forall_mem_cons.mp served
    obtain ⟨-, rfl, rfl⟩ | ⟨known, rfl⟩ := runs_clearCursors.mp hs
    · exact ⟨rfl, rfl⟩
    · have writable := isWritable_of_readState kept read known
      refine ⟨survived_of_persistent fun failure same => ?_, rfl⟩
      subst same
      exact isPersistence_of_writeState writable (later _ List.mem_cons_self)

/-- Deletions by the store fail persistently. -/
theorem Deletions.failsPersistently {outcome : Except Failure Unit}
    (h : Deletions connection requests steps outcome) (served : Served content steps) :
    CleanupFailsPersistently steps := by
  intro call failure hm _
  obtain ⟨request, -, rfl⟩ := h.exists_of_mem (mem_calls.mpr ⟨_, hm⟩)
  exact isPersistence_of_deleteRequest (served _ hm)

/-- **A cleanup that is served goes on to its end.** -/
theorem CleanUp.survives {outcome : Except Failure Unit} (kept : ¬Unwritable requests content)
    (h : CleanUp ported.clearing connection requests steps outcome) (served : Served content steps) :
    outcome = .ok () ∧ (calls steps).filter Call.isDeletion = requests.map (deleteCall connection) := by
  cases h with
  | stopped cursors failed =>
    obtain ⟨passed, -⟩ := cursors_survived kept cursors fun step hm => served step (List.mem_append_left _ hm)
    exact nomatch passed.symm.trans failed
  | @next s t result outcome cursors passed deletions =>
    obtain ⟨-, none⟩ := cursors_survived kept cursors fun step hm =>
      served step (List.mem_append_left _ (List.mem_append_left _ hm))
    have servedDeletions : Served content t := fun step hm => served step (List.mem_append_right _ hm)
    obtain ⟨rfl, all, -⟩ := deletions.complete (deletions.failsPersistently servedDeletions)
    refine ⟨rfl, ?_⟩
    rw [calls_append, calls_append, calls_failureReports, List.append_nil, List.filter_append, none, all,
      List.nil_append, List.filter_eq_self]
    intro call hm
    obtain ⟨request, -, rfl⟩ := List.mem_map.mp hm
    rfl

/-! ## The job is kept -/

variable {inputs : JobInputs} {outcome : Except Failure (Option Int)} {job : Int} {config : JobConfig}

/-- **A configuration is stored by a refresh that goes on to its cleanup**, and by no other. -/
theorem RefreshCourse.exists_cleanUp (h : RefreshCourse ported.clearing inputs requests steps outcome)
    (patched : .called (.updateConfig job config) (.ok ()) ∈ steps) :
    ∃ s t resources catalog result, Stamped ported inputs requests resources job catalog s ∧
      CleanUp ported.clearing inputs.connection.connectionId requests t result ∧
      steps = s ++ .called (patchCall inputs requests resources job catalog) (.ok ()) :: t ∧
      outcome = result.map fun _ => some job := by
  cases h with
  | gateFailed gate =>
    obtain rfl := runs_ask.mp gate
    simp at patched
  | refused gate =>
    obtain rfl := runs_ask.mp gate
    simp at patched
  | unresolved gate resolution =>
    obtain rfl := runs_ask.mp gate
    obtain rfl := runs_ask.mp resolution
    simp at patched
  | queueFailed opened =>
    obtain rfl := opened_ported opened.of_clearing
    simp at patched
  | lost opened =>
    obtain rfl := opened_ported opened.of_clearing
    simp at patched
  | bumpFailed enqueued bump =>
    obtain ⟨opened⟩ := enqueued
    obtain rfl := opened_ported opened.of_clearing
    obtain rfl := runs_ask.mp bump
    simp at patched
  | stampFailed bumped stamp =>
    obtain ⟨⟨opened⟩, bump⟩ := bumped
    obtain rfl := opened_ported opened.of_clearing
    obtain rfl := runs_ask.mp bump
    obtain rfl := runs_ask.mp stamp
    simp at patched
  | patchFailed stamped =>
    have unpatched := stamped.of_clearing.opening.2 job config (.ok ())
    simp [unpatched] at patched
  | @patched s t resources number catalog result stamped cleanUp =>
    have unpatched := stamped.of_clearing.opening.2 job config (.ok ())
    have cleaning := cleanUp.cleaning fun state u result cursors => by
      obtain ⟨-, rfl, -⟩ | ⟨-, rfl⟩ := runs_clearCursors.mp cursors
      · simp
      · simp
    obtain before | here | after := (List.mem_append.mp patched).imp_right List.mem_cons.mp
    · exact absurd before unpatched
    · cases here
      exact ⟨s, t, resources, catalog, result, stamped.of_clearing, cleanUp, rfl, rfl⟩
    · exact absurd (cleaning _ (mem_calls.mpr ⟨_, after⟩)) (by simp)

/-- **A refresh that is served keeps its job.** -/
theorem keepsJob (kept : ¬Unwritable requests content) : KeepsJob inputs requests content := by
  intro steps outcome job config run served patched
  obtain ⟨s, t, resources, catalog, result, stamped, cleanUp, rfl, rfl⟩ :=
    (refreshCourse_of_runs run).exists_cleanUp patched
  obtain ⟨rfl, all⟩ := cleanUp.survives kept fun step hm =>
    served step (List.mem_append_right _ (List.mem_cons_of_mem _ hm))
  have none : (calls s).filter Call.isDeletion = [] := by
    obtain rfl := stamped_ported stamped
    rfl
  refine ⟨rfl, ?_⟩
  rw [calls_append, calls_called, List.filter_append, none, List.nil_append]
  exact all

/-! ## The job is lost -/

/-- A refresh whose database hands over a state that cannot be written back: nothing fails before the writing. -/
def lostSteps (inputs : JobInputs) (requests : List RefreshRequest) (state : SavedState) : List Step :=
  let connection := inputs.connection.connectionId
  [.called (gateCall inputs) (.ok true), .called (resolveCall inputs) (.ok (default : Bundle))] ++
    enqueueing connection (.refresh (refreshConfig inputs requests default)) (some 5) ++
    [.called (.bump connection 5 requests) (.ok ()),
      .called (.stamp inputs.connection.catalog connection 5 requests) (.ok default),
      .called (patchCall inputs requests default 5 default) (.ok ()),
      .called (.readState connection) (.ok (some state)),
      .called (.writeState connection (state.strip requests)) (.error .documentTooDeep)]

/-- **The refusal to write ends the creation**, and no request is deleted. -/
theorem runs_lostSteps {state : SavedState} (known : state.shape ≠ .legacy) :
    Runs (ported.clearing.collaborators.createRefresh inputs requests) (lostSteps inputs requests state)
      (.error .documentTooDeep) := by
  obtain ⟨shape, legacy, payload, streams⟩ := state
  change Program.Leads _ _ _
  cases shape with
  | legacy => exact absurd rfl known
  | global => exact .call (.call (.call (.report (.call (.call (.call (.call (.call (.here _)))))))))
  | stream => exact .call (.call (.call (.report (.call (.call (.call (.call (.call (.here _)))))))))

theorem served_lostSteps {state : SavedState} (found : Sql.stateIn content = .ok (some state))
    (unwritable : (state.strip requests).isWritable = false) :
    Served content (lostSteps inputs requests state) := by
  have read : (Step.called (.readState inputs.connection.connectionId) (.ok (some state))).AnsweredBy content :=
    Sql.yields_getState.mpr (.inr found.symm)
  have write : (Step.called (.writeState inputs.connection.connectionId (state.strip requests))
      (.error .documentTooDeep)).AnsweredBy content :=
    Sql.yields_putState.mpr (.inr (if_neg (Bool.eq_false_iff.mp unwritable)).symm)
  simpa [Served, lostSteps, patchCall, Step.AnsweredBy] using And.intro read write

/-- **A job is lost to a state that cannot be written back**: the creation fails after its job has been made and stored,
although no statement has failed, and no request is deleted. -/
theorem exists_lost_of_unwritable (unwritable : Unwritable requests content) :
    ∃ steps config, Runs (ported.clearing.collaborators.createRefresh inputs requests) steps (.error .documentTooDeep) ∧
      Served content steps ∧ .called (.updateConfig 5 config) (.ok ()) ∈ steps ∧
      (calls steps).filter Call.isDeletion = [] := by
  obtain ⟨state, found, known, refused⟩ := unwritable
  have patched : .called (patchCall inputs requests default 5 default) (.ok ()) ∈ lostSteps inputs requests state := by
    simp [lostSteps]
  exact ⟨_, _, runs_lostSteps known, served_lostSteps found refused, patched, rfl⟩

/-- **A refresh keeps its job, whatever its cleanup meets, exactly when the database holds no state that cannot be
written back.** No text holds one. -/
theorem keepsJob_iff (inputs : JobInputs) (requests : List RefreshRequest) (content : Option Sql.Cell) :
    (KeepsJob inputs requests content ↔ ¬Unwritable requests content) ∧
      ∀ text, KeepsJob inputs requests (some (.value (.text text))) ∧
        KeepsJob inputs requests (some (.bytes text)) := by
  refine ⟨⟨fun keeps unwritable => ?_, keepsJob⟩, fun text => ?_⟩
  · obtain ⟨steps, config, run, served, patched, -⟩ := exists_lost_of_unwritable unwritable
    exact nomatch (keeps steps _ 5 config run served patched).1
  · exact ⟨keepsJob not_unwritable_of_text.1, keepsJob not_unwritable_of_text.2⟩

end Services

/-! ## A database that is lost -/

namespace Outage

/-- The pending request for one stream. -/
def request : RefreshRequest := ⟨default, "users", none⟩

/-- A failure of the store of states. -/
def unread : Failure := Sql.lost "failed to read connection state" .operational

/-- A failure of the store of requests. -/
def undeleted : Failure := Sql.lost "failed to delete stream refresh" .operational

/-- A refresh whose database is lost when its job has been made: the state is not read, and the request stays. -/
def steps : List Step :=
  [.called (gateCall default) (.ok true), .called (resolveCall default) (.ok (default : Bundle))] ++
    Services.enqueueing default (.refresh (Services.refreshConfig default [request] default)) (some 5) ++
    [.called (.bump default 5 [request]) (.ok ()), .called (.stamp default default 5 [request]) (.ok default),
      .called (Services.patchCall default [request] default 5 default) (.ok ()),
      .called (.readState default) (.error unread), .reported (stateReport default unread),
      .called (deleteCall default request) (.error undeleted), .reported (requestReport default request undeleted)]

theorem runs_steps :
    Runs (Services.ported.clearing.collaborators.createRefresh default [request]) steps (.ok (some 5)) := by
  change Program.Leads _ _ _
  exact .call (.call (.call (.report (.call (.call (.call (.call (.report (.call (.report (.here _)))))))))))

theorem served_steps : Served none steps := by
  have read : (Step.called (.readState default) (.error unread)).AnsweredBy none :=
    Sql.yields_getState.mpr (.inl ⟨_, rfl⟩)
  have delete : (Step.called (.deleteRequest default "users" none) (.error undeleted)).AnsweredBy none :=
    Sql.yields_deleteRequest.mpr (.inl ⟨_, rfl⟩)
  simpa [Served, steps, Services.patchCall, deleteCall, request, Step.AnsweredBy] using And.intro read delete

/-- The deletion is attempted all the same. -/
theorem deletes_outage : (calls steps).filter Call.isDeletion = [deleteCall default request] := by
  have kept : ¬Unwritable [request] none := fun ⟨_, found, _⟩ => nomatch found
  have patched : .called (Services.patchCall default [request] default 5 default) (.ok ()) ∈ steps := by simp [steps]
  exact (((Services.keepsJob_iff default [request] none).1.mpr kept) steps _ 5 _ runs_steps served_steps patched).2

end Outage

/-! ## A cursor that nests too deeply -/

namespace DeepCursor

open Json (nested)

/-- A decoded state with one cursor, whose payload holds nested arrays. -/
def document (n : Nat) : Json :=
  .object [("state_type", .text "stream"),
    ("stream_states", .array [.object [("stream_name", .text "keep"), ("state", .object [("deep", nested n)])]])]

/-- The state it is checked to be. -/
def state (n : Nat) : SavedState := ⟨.stream, none, none, [⟨"keep", none, some [("deep", nested n)]⟩]⟩

/-- The cursor belongs to another stream than the one refreshed, so it has to be written back. -/
theorem unwritable {n : Nat} (deep : writableDepth ≤ n + 1) :
    Unwritable [Outage.request] (some (.value (document n))) := by
  refine ⟨state n, rfl, nofun, Bool.eq_false_iff.mpr fun writable => ?_⟩
  obtain ⟨-, -, cursors⟩ := SavedState.isWritable_iff.mp writable
  have fits := List.all_eq_true.mp cursors ⟨"keep", none, some [("deep", nested n)]⟩ List.mem_cons_self
  have shallow : (nested n).depth ≤ writableDepth - 1 := Json.heightOfMembers_le.mp (of_decide_eq_true fits) _
    List.mem_cons_self
  rw [Json.depth, Json.height_nested] at shallow
  exact absurd (deep.trans shallow) (by decide)

/-- **A job is lost to the cursor of a stream that is not refreshed**: the payload of three hundred nested arrays is
read as it is, and refused when it is to be written back. -/
theorem exists_lost_job :
    ∃ steps config,
      Runs (Services.ported.clearing.collaborators.createRefresh default [Outage.request]) steps
        (.error .documentTooDeep) ∧
      Served (some (.value (document 300))) steps ∧ .called (.updateConfig 5 config) (.ok ()) ∈ steps ∧
      (calls steps).filter Call.isDeletion = [] :=
  Services.exists_lost_of_unwritable (unwritable (by decide))

end DeepCursor

end ConnectionJobs
