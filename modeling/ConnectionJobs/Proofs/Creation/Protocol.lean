import ConnectionJobs.Proofs.Creation.Course
import Mathlib.Data.List.Basic

/-!
# The two-phase protocol of a refresh

A refresh goes through four phases, and each is a promise to whoever reads the stores. Nothing is written before
the gate and the resolver have agreed. The job is then put into the queue, once. Its generations are recorded and
its catalog is stamped under the number the queue gave it, one call after another and none after a failure. Only
when the stamped configuration is stored does the cleanup begin, and from then on nothing that a store does can
take the job back: every request is deleted or reported, in order.

The protocol is stated for every path of a creation whose components are ports themselves, so for every way in
which they can answer and fail. One thing is asked of them, which is what they promise: the ports of the cleanup
fail with persistence failures only.
-/

namespace ConnectionJobs

/-- The call deletes a request. -/
def Call.isDeletion : Call → Bool
  | deleteRequest _ _ _ => true
  | _ => false

namespace Step

/-- The event a step reports. -/
def event? : Step → Option Log.Event
  | called _ _ => none
  | reported event => some event

/-- **The warning a failed cleanup step owes**, and nothing for any other step. -/
def warning? (connection : Uuid) : Step → Option Log.Event
  | called (.readState _) (.error failure) => some (stateReport connection failure)
  | called (.clearCursors _ _ _) (.error failure) => some (stateReport connection failure)
  | called (.deleteRequest _ name space) (.error failure) =>
    some (requestReport connection ⟨connection, name, space⟩ failure)
  | _ => none

end Step

/-- The events reported among some steps, in order. -/
def events (steps : List Step) : List Log.Event := steps.filterMap Step.event?

/-- The failure that an outcome is. -/
def failureOf? {α : Type} : Except Failure α → Option Failure
  | .error failure => some failure
  | .ok _ => none

/-- The calls that failed among some steps, with their failures. -/
def failures (steps : List Step) : List (Call × Failure) :=
  steps.filterMap fun
    | .called call answer => (failureOf? answer).map (call, ·)
    | .reported _ => none

/-- The question whether refreshes are enabled. -/
@[simp] def gateCall (inputs : JobInputs) : Call :=
  .eligibility inputs.connection.workspaceId inputs.connection.connectionId inputs.source.definitionId
    inputs.destination.definitionId

/-- The question for the resources of the job. -/
@[simp] def resolveCall (inputs : JobInputs) : Call :=
  .resolve inputs.connection (.live inputs.source) inputs.destination false

/-- The call that deletes a request of a connection. -/
def deleteCall (connection : Uuid) (request : RefreshRequest) : Call :=
  .deleteRequest connection request.streamName request.streamNamespace

/-- **The job may be made**: the gate agrees, and the resources are resolved. -/
def Agreed (inputs : JobInputs) (steps : List Step) : Prop :=
  .called (gateCall inputs) (.ok true) ∈ steps ∧ ∃ resources, .called (resolveCall inputs) (.ok resources) ∈ steps

/-- **What the stores of the cleanup promise**: they fail with persistence failures only. -/
def CleanupFailsPersistently (steps : List Step) : Prop :=
  ∀ call failure, .called call (.error failure) ∈ steps → call.phase = .cleaning → failure.isPersistence = true

/-- **The protocol up to the cleanup**, kept by the steps of a refresh and its outcome. -/
structure Phased (inputs : JobInputs) (requests : List RefreshRequest) (steps : List Step)
    (outcome : Except Failure (Option Int)) : Prop where
  /-- The phases come one after another. -/
  ordered : (calls steps).Pairwise fun a b => a.phase.number ≤ b.phase.number
  /-- A gate that answers no is a refusal, and nothing is called after it. -/
  refused : .called (gateCall inputs) (.ok false) ∈ steps →
    (calls steps).getLast? = some (gateCall inputs) ∧
      outcome = .error (.refreshNotEligible inputs.connection.connectionId)
  /-- Before the cleanup a failure is the failure of the creation, and nothing is called after it. -/
  failed : ∀ call failure, (call, failure) ∈ failures steps → call.phase ≠ .cleaning →
    (calls steps).getLast? = some call ∧ outcome = .error failure
  /-- Without agreement nothing is asked of any store. -/
  untouched : ¬ Agreed inputs steps → ∀ call ∈ calls steps, call.phase = .opening
  /-- With agreement the job is put into the queue, once. -/
  enqueuedOnce : Agreed inputs steps → (calls steps).countP (·.phase = .queueing) = 1
  /-- When the queue has an active job already, nothing is called after it, and the creation answers nothing. -/
  lost : ∀ scope config, .called (.enqueue scope config) (.ok none) ∈ steps →
    (calls steps).getLast? = some (.enqueue scope config) ∧ outcome = .ok none
  /-- Bump, stamp and patch follow one another, under the number of the job. -/
  stamping : ∀ scope config job, .called (.enqueue scope config) (.ok (some job)) ∈ steps →
    ∃ patched, (calls steps).filter (·.phase = .stamping) <+:
      [.bump inputs.connection.connectionId job requests,
        .stamp inputs.connection.catalog inputs.connection.connectionId job requests, .updateConfig job patched]
  /-- A bump follows a job that the queue has taken. -/
  bumpAfter : ∀ connection job bumped answer, .called (.bump connection job bumped) answer ∈ steps →
    ∃ scope config, .called (.enqueue scope config) (.ok (some job)) ∈ steps
  /-- A stamp follows a bump that succeeded. -/
  stampAfter : ∀ catalog connection job refreshed answer,
    .called (.stamp catalog connection job refreshed) answer ∈ steps →
      .called (.bump connection job refreshed) (.ok ()) ∈ steps
  /-- A patch follows a stamp that succeeded, and stores the catalog stamped. -/
  patchAfter : ∀ job config answer, .called (.updateConfig job config) answer ∈ steps →
    .called (.stamp inputs.connection.catalog inputs.connection.connectionId job requests)
      (.ok config.catalog) ∈ steps

/-- **The two-phase protocol**, kept by the steps of a refresh and its outcome. -/
structure TwoPhase (inputs : JobInputs) (requests : List RefreshRequest) (steps : List Step)
    (outcome : Except Failure (Option Int)) : Prop extends Phased inputs requests steps outcome where
  /-- The cleanup begins after the patch has succeeded. -/
  cleaningAfter : ∀ before call answer after, steps = before ++ .called call answer :: after →
    call.phase = .cleaning → ∃ job config, .called (.updateConfig job config) (.ok ()) ∈ before
  /-- Once the patch has succeeded the job stays: the state is read, every request is deleted, in order, and
  every failed step is reported by one warning. -/
  cleaned : ∀ before job config after, steps = before ++ .called (.updateConfig job config) (.ok ()) :: after →
    outcome = .ok (some job) ∧
    (∀ call ∈ calls after, call.phase = .cleaning) ∧
    (calls after).head? = some (.readState inputs.connection.connectionId) ∧
    (calls after).filter Call.isDeletion = requests.map (deleteCall inputs.connection.connectionId) ∧
    events after = after.filterMap (Step.warning? inputs.connection.connectionId) ∧
    ∀ event ∈ events after, event.level = .warning

/-! ## Reading calls and events off -/

section Reading

variable {s t : List Step}

@[simp] theorem events_nil : events [] = [] := rfl

@[simp] theorem events_called (call : Call) (answer : Except Failure call.Answer) :
    events (.called call answer :: s) = events s := rfl

@[simp] theorem events_reported (event : Log.Event) : events (.reported event :: s) = event :: events s := rfl

@[simp] theorem events_append : events (s ++ t) = events s ++ events t := List.filterMap_append

/-- A failure among some steps is the failure of a step. -/
theorem mem_failures {call : Call} {failure : Failure} :
    (call, failure) ∈ failures s ↔ .called call (.error failure) ∈ s := by
  rw [failures, List.mem_filterMap]
  constructor
  · rintro ⟨step, h, hs⟩
    obtain _ | ⟨c, f | _⟩ := step
    · exact nomatch hs
    · cases hs
      exact h
    · exact nomatch hs
  · intro h
    exact ⟨_, h, rfl⟩

@[simp] theorem failures_nil : failures [] = [] := rfl

@[simp] theorem failures_reported (event : Log.Event) : failures (.reported event :: s) = failures s := rfl

@[simp] theorem failureOf?_ok {α : Type} (a : α) : failureOf? (.ok a) = none := rfl

@[simp] theorem failureOf?_error {α : Type} (failure : Failure) :
    failureOf? (.error failure : Except Failure α) = some failure := rfl

@[simp] theorem failures_called (call : Call) (answer : Except Failure call.Answer) :
    failures (.called call answer :: s) = ((failureOf? answer).map (call, ·)).toList ++ failures s := by
  cases answer <;> rfl

@[simp] theorem failures_append : failures (s ++ t) = failures s ++ failures t := List.filterMap_append

@[simp] theorem failures_failureReports {α : Type} (report : Failure → Log.Event) (result : Except Failure α) :
    failures (failureReports report result) = [] := by
  cases result with
  | ok _ => rfl
  | error failure => cases h : failure.isPersistence <;> simp [failureReports, h]

@[simp] theorem called_notMem_failureReports {α : Type} {call : Call} {answer : Except Failure call.Answer}
    (report : Failure → Log.Event) (result : Except Failure α) :
    .called call answer ∉ failureReports report result := by
  intro h
  have := mem_calls.mpr ⟨answer, h⟩
  rw [calls_failureReports] at this
  exact List.not_mem_nil this

end Reading

/-! ## The cleanup -/

/-- **What a cleanup owes**, step for step: it makes only calls of its own phase, and reports every failure. -/
structure Warned (connection : Uuid) (steps : List Step) : Prop where
  /-- Only calls of the cleanup are made. -/
  cleaning : ∀ call ∈ calls steps, call.phase = .cleaning
  /-- The events are the warnings owed. -/
  warnings : events steps = steps.filterMap (Step.warning? connection)
  /-- And they are warnings. -/
  level : ∀ event ∈ events steps, event.level = .warning

theorem Warned.append {connection : Uuid} {s t : List Step} (hs : Warned connection s)
    (ht : Warned connection t) : Warned connection (s ++ t) where
  cleaning := by
    rw [calls_append]
    exact List.forall_mem_append.mpr ⟨hs.cleaning, ht.cleaning⟩
  warnings := by rw [events_append, List.filterMap_append, hs.warnings, ht.warnings]
  level := by
    rw [events_append]
    exact List.forall_mem_append.mpr ⟨hs.level, ht.level⟩

/-- A call of the cleanup that does not fail owes nothing. -/
theorem warned_ok {connection : Uuid} {call : Call} {answer : call.Answer} (cleaning : call.phase = .cleaning) :
    Warned connection [.called call (.ok answer)] where
  cleaning := by simpa using cleaning
  warnings := by cases call <;> rfl
  level := by simp

/-- A call of the cleanup that fails persistently owes its report. -/
theorem warned_error {connection : Uuid} {call : Call} {failure : Failure} {report : Failure → Log.Event}
    (cleaning : call.phase = .cleaning) (persistent : failure.isPersistence = true)
    (owed : Step.warning? connection (.called call (.error failure)) = some (report failure))
    (level : (report failure).level = .warning) :
    Warned connection
      (.called call (.error failure) :: failureReports report (.error failure : Except Failure Unit)) := by
  have reports : failureReports report (.error failure : Except Failure Unit) = [.reported (report failure)] :=
    if_pos persistent
  rw [reports]
  refine ⟨by simpa using cleaning, ?_, by simpa using level⟩
  rw [List.filterMap_cons_some owed]
  rfl

/-- A persistence failure is survived. -/
theorem survived_of_persistent {result : Except Failure Unit}
    (h : ∀ failure, result = .error failure → failure.isPersistence = true) : survived result = .ok () := by
  cases result with
  | ok _ => rfl
  | error failure => exact if_pos (h failure rfl)

namespace Services

variable {connection : Uuid} {requests : List RefreshRequest} {steps : List Step}

/-- A deletion by a store that fails persistently. -/
theorem warned_deletion {request : RefreshRequest} {result : Except Failure Unit}
    (h : ∀ failure, result = .error failure → failure.isPersistence = true) :
    Warned connection (deletion connection request result) := by
  cases result with
  | ok _ => exact warned_ok rfl
  | error failure => exact warned_error rfl (h failure rfl) rfl rfl

/-- **Every request is deleted or reported**, by induction on the requests. -/
theorem Deletions.complete {outcome : Except Failure Unit} (h : Deletions connection requests steps outcome)
    (persistent : CleanupFailsPersistently steps) :
    outcome = .ok () ∧ calls steps = requests.map (deleteCall connection) ∧ Warned connection steps := by
  induction h with
  | done => exact ⟨rfl, rfl, by simp, rfl, by simp⟩
  | @stopped request rest result failure failed =>
    -- Only a failure of another kind ends a creation here.
    have passed : survived result = .ok () := survived_of_persistent fun failure hf => by
      subst hf
      exact persistent _ failure List.mem_cons_self rfl
    cases passed.symm.trans failed
  | @next request rest result outcome steps passed others ih =>
    have here : ∀ failure, result = .error failure → failure.isPersistence = true := fun failure hf => by
      subst hf
      exact persistent _ failure (List.mem_append_left _ List.mem_cons_self) rfl
    obtain ⟨ho, hc, hw⟩ := ih fun call failure hm => persistent call failure (List.mem_append_right _ hm)
    refine ⟨ho, ?_, (warned_deletion here).append hw⟩
    rw [calls_append, hc]
    simp [deletion, deleteCall]

/-- **The cursors are cleared or reported**, and the state is read first. -/
theorem cursors_complete {result : Except Failure Unit}
    (h : Runs (ported.collaborators.clearSavedCursors connection requests) steps result)
    (persistent : CleanupFailsPersistently steps) :
    survived result = .ok () ∧ (calls steps).head? = some (.readState connection) ∧
      (calls steps).filter Call.isDeletion = [] ∧
      Warned connection (steps ++ failureReports (stateReport connection) result) := by
  obtain ⟨failure, rfl, rfl⟩ | ⟨rfl, rfl⟩ | ⟨state, s, hs, rfl⟩ := runs_clearSavedCursors.mp h
  · have hp : failure.isPersistence = true := persistent _ failure List.mem_cons_self rfl
    exact ⟨if_pos hp, rfl, rfl, warned_error rfl hp rfl rfl⟩
  · exact ⟨rfl, rfl, rfl, warned_ok rfl⟩
  · obtain rfl := runs_ask.mp hs
    have here : ∀ failure, result = .error failure → failure.isPersistence = true := fun failure hf => by
      subst hf
      exact persistent _ failure (List.mem_cons_of_mem _ List.mem_cons_self) rfl
    refine ⟨survived_of_persistent here, rfl, rfl, ?_⟩
    have read : Warned connection [.called (.readState connection) (.ok state)] := warned_ok rfl
    refine read.append ?_
    cases result with
    | ok _ => exact warned_ok rfl
    | error failure => exact warned_error rfl (here failure rfl) rfl rfl

/-- **A cleanup whose stores fail persistently** never ends a creation: it reads the state, deletes every request
in order, and reports each failure by one warning. -/
theorem CleanUp.complete {outcome : Except Failure Unit} (h : CleanUp ported connection requests steps outcome)
    (persistent : CleanupFailsPersistently steps) :
    outcome = .ok () ∧ (calls steps).head? = some (.readState connection) ∧
      (calls steps).filter Call.isDeletion = requests.map (deleteCall connection) ∧ Warned connection steps := by
  cases h with
  | @stopped s result failure cursors failed =>
    obtain ⟨passed, -⟩ := cursors_complete cursors fun call failure hm =>
      persistent call failure (List.mem_append_left _ hm)
    exact nomatch passed.symm.trans failed
  | @next s t result outcome cursors passed deletions =>
    obtain ⟨-, hh, hd, hw⟩ := cursors_complete cursors fun call failure hm =>
      persistent call failure (List.mem_append_left _ (List.mem_append_left _ hm))
    obtain ⟨ho, hc, hw'⟩ := deletions.complete fun call failure hm =>
      persistent call failure (List.mem_append_right _ hm)
    refine ⟨ho, ?_, ?_, hw.append hw'⟩
    · rw [calls_append, calls_append, List.append_assoc, List.head?_append, hh, Option.some_or]
    · rw [calls_append, calls_append, calls_failureReports, List.append_nil, List.filter_append, hd, hc,
        List.nil_append, List.filter_eq_self]
      intro call hm
      obtain ⟨request, -, rfl⟩ := List.mem_map.mp hm
      rfl

/-! ## The phases before the cleanup -/

variable {inputs : JobInputs} {outcome : Except Failure (Option Int)}

theorem opened_ported {resources : Bundle} (h : Opened ported inputs resources steps) :
    steps = [.called (gateCall inputs) (.ok true), .called (resolveCall inputs) (.ok resources)] := by
  obtain ⟨gate, resolution⟩ := h
  obtain rfl := runs_ask.mp gate
  obtain rfl := runs_ask.mp resolution
  rfl

/-- A creation that ends before the cleanup keeps the protocol, when it keeps it up to there. -/
theorem twoPhase_of_stopped (phased : Phased inputs requests steps outcome)
    (nothingCleaned : ∀ call ∈ calls steps, call.phase ≠ .cleaning)
    (nothingPatched : ∀ job config, .called (.updateConfig job config) (.ok ()) ∉ steps) :
    TwoPhase inputs requests steps outcome where
  toPhased := phased
  cleaningAfter before call answer after h cleaning := by
    subst h
    exact absurd cleaning (nothingCleaned call (mem_calls.mpr ⟨answer, by simp⟩))
  cleaned before job config after h := by
    subst h
    exact absurd (by simp) (nothingPatched job config)

end Services

/-- **A cleanup keeps what came before it**: when a creation that has made its job goes on with calls of the
cleanup only, the protocol up to the cleanup still holds. -/
theorem Phased.followed {inputs : JobInputs} {requests : List RefreshRequest} {s t : List Step} {job : Int}
    (phased : Phased inputs requests s (.ok (some job))) (agreed : Agreed inputs s)
    (cleaning : ∀ call ∈ calls t, call.phase = .cleaning) : Phased inputs requests (s ++ t) (.ok (some job)) := by
  -- Every clause is about calls of earlier phases, and those are all in `s`.
  have earlier : ∀ call answer, .called call answer ∈ s ++ t → call.phase ≠ .cleaning →
      .called call answer ∈ s := fun call answer h hp =>
    (List.mem_append.mp h).resolve_right fun ht => hp (cleaning call (mem_calls.mpr ⟨answer, ht⟩))
  have agreed' : Agreed inputs (s ++ t) :=
    ⟨List.mem_append_left _ agreed.1, agreed.2.imp fun _ h => List.mem_append_left _ h⟩
  have others : ∀ phase, phase ≠ .cleaning → (calls t).filter (·.phase = phase) = [] := fun phase hp => by
    refine List.filter_eq_nil_iff.mpr fun call hc => ?_
    rw [decide_eq_true_eq, cleaning call hc]
    exact hp.symm
  constructor
  case ordered =>
    rw [calls_append, List.pairwise_append]
    refine ⟨phased.ordered, ?_, fun a _ b hb => ?_⟩
    · refine List.pairwise_of_forall_mem_list fun a ha b hb => ?_
      exact Nat.le_of_eq (by rw [cleaning a ha, cleaning b hb])
    · rw [cleaning b hb]
      cases a.phase <;> decide
  case refused => exact fun h => nomatch (phased.refused (earlier _ _ h nofun)).2
  case failed =>
    intro call failure h hp
    exact nomatch (phased.failed call failure (mem_failures.mpr (earlier _ _ (mem_failures.mp h) hp)) hp).2
  case untouched => exact fun h => absurd agreed' h
  case enqueuedOnce =>
    intro _
    rw [calls_append, List.countP_append, phased.enqueuedOnce agreed, List.countP_eq_length_filter,
      others _ (by decide), List.length_nil]
  case lost => exact fun scope config h => nomatch (phased.lost scope config (earlier _ _ h nofun)).2
  case stamping =>
    intro scope config number h
    rw [calls_append, List.filter_append, others _ (by decide), List.append_nil]
    exact phased.stamping scope config number (earlier _ _ h nofun)
  case bumpAfter =>
    intro connection number bumped answer h
    obtain ⟨scope, config, he⟩ := phased.bumpAfter _ _ _ _ (earlier _ _ h nofun)
    exact ⟨scope, config, List.mem_append_left _ he⟩
  case stampAfter =>
    exact fun _ _ _ _ _ h => List.mem_append_left _ (phased.stampAfter _ _ _ _ _ (earlier _ _ h nofun))
  case patchAfter => exact fun _ _ _ h => List.mem_append_left _ (phased.patchAfter _ _ _ (earlier _ _ h nofun))

namespace Services

variable {inputs : JobInputs} {requests : List RefreshRequest} {steps : List Step}
  {outcome : Except Failure (Option Int)}

theorem stamped_ported {resources : Bundle} {job : Int} {catalog : Catalog}
    (h : Stamped ported inputs requests resources job catalog steps) :
    steps = [.called (gateCall inputs) (.ok true), .called (resolveCall inputs) (.ok resources)] ++
      enqueueing inputs.connection.connectionId (.refresh (refreshConfig inputs requests resources)) (some job) ++
      [.called (.bump inputs.connection.connectionId job requests) (.ok ())] ++
      [.called (.stamp inputs.connection.catalog inputs.connection.connectionId job requests) (.ok catalog)] := by
  obtain ⟨⟨⟨opened⟩, bump⟩, stamp⟩ := h
  obtain rfl := opened_ported opened
  obtain rfl := runs_ask.mp bump
  obtain rfl := runs_ask.mp stamp
  rfl

/-- The job may be made when its catalog is stamped. -/
theorem Stamped.agreed {resources : Bundle} {job : Int} {catalog : Catalog}
    (h : Stamped ported inputs requests resources job catalog steps) : Agreed inputs steps := by
  obtain rfl := stamped_ported h
  exact ⟨by simp, resources, by simp⟩

/-- **The protocol is kept up to the patch**, and by a patch that fails. -/
theorem Stamped.phased {resources : Bundle} {job : Int} {catalog : Catalog}
    (h : Stamped ported inputs requests resources job catalog steps) (result : Except Failure Unit) :
    Phased inputs requests (steps ++ .called (.updateConfig job
        (.refresh ((refreshConfig inputs requests resources).withCatalog catalog))) result ::
      failureReports (fun _ => patchReport job) result) (result.map fun _ => some job) := by
  obtain rfl := stamped_ported h
  constructor
  case patchAfter =>
    intro number config answer h
    obtain ⟨⟨rfl, rfl⟩, -⟩ : (number = job ∧ config = _) ∧ answer = result := by simpa using h
    exact List.mem_append_left _ (List.mem_append_right _ List.mem_cons_self)
  all_goals cases result <;> simp +contextual [Agreed, Except.map]

/-- Up to the patch nothing is cleaned and nothing is patched. -/
theorem Stamped.opening {resources : Bundle} {job : Int} {catalog : Catalog}
    (h : Stamped ported inputs requests resources job catalog steps) :
    (∀ call ∈ calls steps, call.phase ≠ .cleaning) ∧
      ∀ job config answer, .called (.updateConfig job config) answer ∉ steps := by
  obtain rfl := stamped_ported h
  exact ⟨by simp, by simp⟩

/-- **Every course keeps the protocol.** Up to the cleanup a course is a list of steps known one by one. -/
theorem RefreshCourse.twoPhase (h : RefreshCourse ported inputs requests steps outcome)
    (persistent : CleanupFailsPersistently steps) : TwoPhase inputs requests steps outcome := by
  cases h with
  | gateFailed gate =>
    obtain rfl := runs_ask.mp gate
    refine twoPhase_of_stopped ?_ (by simp) (by simp)
    constructor <;> simp [Agreed]
  | refused gate =>
    obtain rfl := runs_ask.mp gate
    refine twoPhase_of_stopped ?_ (by simp) (by simp)
    constructor <;> simp [Agreed]
  | unresolved gate resolution =>
    obtain rfl := runs_ask.mp gate
    obtain rfl := runs_ask.mp resolution
    refine twoPhase_of_stopped ?_ (by simp) (by simp)
    constructor <;> simp [Agreed]
  | queueFailed opened =>
    obtain rfl := opened_ported opened
    refine twoPhase_of_stopped ?_ (by simp) (by simp)
    constructor <;> simp [Agreed]
  | lost opened =>
    obtain rfl := opened_ported opened
    refine twoPhase_of_stopped ?_ (by simp) (by simp)
    constructor <;> simp [Agreed]
  | bumpFailed enqueued bump =>
    obtain ⟨opened⟩ := enqueued
    obtain rfl := opened_ported opened
    obtain rfl := runs_ask.mp bump
    refine twoPhase_of_stopped ?_ (by simp) (by simp)
    constructor <;> simp +contextual [Agreed]
  | stampFailed bumped stamp =>
    obtain ⟨⟨opened⟩, bump⟩ := bumped
    obtain rfl := opened_ported opened
    obtain rfl := runs_ask.mp bump
    obtain rfl := runs_ask.mp stamp
    refine twoPhase_of_stopped ?_ (by simp) (by simp)
    constructor <;> simp +contextual [Agreed]
  | patchFailed stamped =>
    obtain ⟨uncleaned, unpatched⟩ := stamped.opening
    refine twoPhase_of_stopped (stamped.phased (.error _)) ?_ ?_
    · simpa [or_imp, forall_and] using uncleaned
    · simpa using fun number config => unpatched number config (.ok ())
  | @patched s t resources job catalog result stamped cleanUp =>
    obtain ⟨rfl, head, deletions, warned⟩ := cleanUp.complete fun call failure h =>
      persistent call failure (List.mem_append_right _ (List.mem_cons_of_mem _ h))
    obtain ⟨uncleaned, unpatched⟩ := stamped.opening
    refine ⟨?_, fun before call answer after h cleaning => ?_, fun before number config after h => ?_⟩
    · rw [List.append_cons]
      refine (stamped.phased (.ok ())).followed ?_ warned.cleaning
      exact ⟨List.mem_append_left _ stamped.agreed.1, stamped.agreed.2.imp fun _ h => List.mem_append_left _ h⟩
    · rw [List.append_cons] at h
      have first : .called call answer ∉ s ++ [.called (.updateConfig job
          (.refresh ((refreshConfig inputs requests resources).withCatalog catalog))) (.ok ())] := by
        intro hm
        obtain hm | hm := List.mem_append.mp hm
        · exact uncleaned call (mem_calls.mpr ⟨answer, hm⟩) cleaning
        · cases List.mem_singleton.mp hm
          cases cleaning
      obtain ⟨r, rfl, -⟩ := exists_of_append_eq h first
      exact ⟨job, _, List.mem_append_left _ (List.mem_append_right _ List.mem_cons_self)⟩
    · obtain ⟨r, -, ht⟩ := exists_of_append_eq h (unpatched number config (.ok ()))
      -- The patch that `h` splits at is the only one, since the cleanup makes none.
      have only : r = [] := by
        cases r with
        | nil => rfl
        | cons step rest =>
          rw [List.cons_append, List.cons.injEq] at ht
          have hm : Call.updateConfig number config ∈ calls t := by rw [ht.2]; simp
          cases warned.cleaning _ hm
      rw [only, List.nil_append, List.cons.injEq] at ht
      obtain ⟨hs, rfl⟩ := ht
      cases hs
      exact ⟨rfl, warned.cleaning, head, deletions, warned.warnings, warned.level⟩

/-- **A refresh follows the two-phase protocol**, whatever its ports answer and whichever of them fail. -/
theorem createRefresh_twoPhase (h : Runs (ported.collaborators.createRefresh inputs requests) steps outcome)
    (persistent : CleanupFailsPersistently steps) : TwoPhase inputs requests steps outcome :=
  (refreshCourse_of_runs h).twoPhase persistent

/-- A failure of a store. -/
def lostConnection : Failure := .persistence "connection lost" none

/-- The steps of a refresh of two streams, when the store of states fails and so does the first deletion. -/
def troubledSteps (inputs : JobInputs) (first second : RefreshRequest) (failure : Failure) : List Step :=
  let connection := inputs.connection.connectionId
  [.called (gateCall inputs) (.ok true), .called (resolveCall inputs) (.ok (default : Bundle))] ++
    enqueueing connection (.refresh (refreshConfig inputs [first, second] default)) (some 7) ++
    [.called (.bump connection 7 [first, second]) (.ok ()),
      .called (.stamp inputs.connection.catalog connection 7 [first, second]) (.ok default),
      .called (.updateConfig 7 (.refresh ((refreshConfig inputs [first, second] default).withCatalog default)))
        (.ok ()),
      .called (.readState connection) (.error failure), .reported (stateReport connection failure),
      .called (deleteCall connection first) (.error failure), .reported (requestReport connection first failure),
      .called (deleteCall connection second) (.ok ())]

/-- The job of a refresh is answered although two steps of its cleanup fail. -/
theorem createRefresh_twoPhase_troubled :
    TwoPhase default [default, default] (troubledSteps default default default lostConnection) (.ok (some 7)) := by
  have run : Runs (ported.collaborators.createRefresh default [default, default])
      (troubledSteps default default default lostConnection) (.ok (some 7)) := by
    change Program.Leads _ _ _
    exact .call (.call (.call (.report (.call (.call (.call (.call
      (.report (.call (.report (.call (.here _))))))))))))
  refine createRefresh_twoPhase run fun call failure h _ => ?_
  have failed := mem_failures.mpr h
  obtain ⟨-, rfl⟩ | ⟨-, rfl⟩ : (call = _ ∧ failure = _) ∨ call = _ ∧ failure = _ := by
    simpa [troubledSteps, deleteCall] using failed
  all_goals rfl

end Services
end ConnectionJobs
