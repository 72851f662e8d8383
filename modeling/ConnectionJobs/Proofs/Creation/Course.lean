import ConnectionJobs.Proofs.Program

/-!
# The courses of a creation

A creation ends at its first failure, until the cleanup of a refresh, which survives failures. So each creation
has a short list of **courses**, one for each step it can end at. Below, every part of a creation gets its runs
described once; the course of a whole creation is then one of a few rows of such runs.

The components are left open (`Services`): a course says in which order they run and what is done with their
answers, whether a component is a single call or runs over a store.
-/

namespace ConnectionJobs

/-! ## The phases -/

/-- **The phases** of a refresh. -/
inductive Phase where
  /-- Finding out whether and how to make the job. -/
  | opening
  /-- Putting the job into the queue. -/
  | queueing
  /-- Recording generations and storing the stamped catalog. -/
  | stamping
  /-- Clearing cursors and deleting requests. -/
  | cleaning
  deriving DecidableEq

/-- The place of a phase among the others. -/
@[simp] def Phase.number : Phase → Nat
  | opening => 0
  | queueing => 1
  | stamping => 2
  | cleaning => 3

/-- **The phase** that a call belongs to: the queue, the store of generations, and the stores of states and
requests each have a phase of their own, and everything else comes first. -/
@[simp] def Call.phase : Call → Phase
  | switch _ _ | text _ _ | defaults _ _ _ | eligibility _ _ _ _ | resolve _ _ _ _ => .opening
  | enqueue _ _ => .queueing
  | updateConfig _ _ | bump _ _ _ | stamp _ _ _ _ | currentGenerations _ | insertGenerations _ _ _ => .stamping
  | readState _ | writeState _ _ | clearCursors _ _ _ | deleteRequest _ _ _ => .cleaning

/-! ## Reports -/

/-- **The reports about an outcome**: one about a persistence failure, none about anything else. -/
def failureReports {α : Type} (report : Failure → Log.Event) : Except Failure α → List Step
  | .error failure => if failure.isPersistence then [.reported (report failure)] else []
  | .ok _ => []

/-- **What is left of an outcome** that a best-effort step survives. -/
def survived : Except Failure Unit → Except Failure Unit
  | .error failure => if failure.isPersistence then .ok () else .error failure
  | .ok _ => .ok ()

@[simp] theorem calls_failureReports {α : Type} (report : Failure → Log.Event) (result : Except Failure α) :
    calls (failureReports report result) = [] := by
  cases result with
  | ok _ => rfl
  | error failure => cases h : failure.isPersistence <;> simp [failureReports, h]

/-- **A best-effort step**: a persistence failure of it is reported, and that is all that comes of it. -/
theorem runs_bestEffort {step : Attempt Program Unit} {report : Failure → Log.Event} {steps : List Step}
    {outcome : Except Failure Unit} :
    Runs (onPersistenceFailure step fun failure => ExceptT.lift (Program.surroundings.log (report failure)))
        steps outcome ↔
      ∃ s result, Runs step s result ∧ steps = s ++ failureReports report result ∧ outcome = survived result := by
  rw [runs_onPersistenceFailure]
  constructor
  · rintro (⟨h, hp⟩ | ⟨failure, s, t, hs, hp, ht, rfl⟩)
    · refine ⟨steps, outcome, h, ?_, ?_⟩
      · cases outcome with
        | ok _ => exact (List.append_nil _).symm
        | error failure => simp [failureReports, hp failure rfl]
      · cases outcome with
        | ok _ => rfl
        | error failure => simp [survived, hp failure rfl]
    · obtain ⟨rfl, rfl⟩ := runs_log.mp ht
      exact ⟨s, .error failure, hs, by simp [failureReports, hp], by simp [survived, hp]⟩
  · rintro ⟨s, result, hs, rfl, rfl⟩
    cases result with
    | ok _ =>
      rw [failureReports, List.append_nil]
      exact .inl ⟨hs, fun _ h => nomatch h⟩
    | error failure =>
      cases hp : failure.isPersistence with
      | false =>
        refine .inl ⟨by simpa [failureReports, survived, hp] using hs, fun other h => ?_⟩
        obtain rfl : failure = other := by simpa [survived, hp] using h
        exact hp
      | true =>
        refine .inr ⟨failure, s, [.reported (report failure)], hs, hp, runs_log.mpr ⟨rfl, ?_⟩, ?_⟩
        · simp [survived, hp]
        · simp [failureReports, hp]

namespace Services

variable {k : Services Program} {steps : List Step}

/-! ## The parts -/

/-- **Putting a job into the queue** is one call, and a report unless it fails. -/
theorem runs_enqueue {connection : Uuid} {config : JobConfig} {outcome : Except Failure (Option Int)} :
    Runs (k.collaborators.enqueue connection config) steps outcome ↔
      (∃ failure, outcome = .error failure ∧ steps = [.called (.enqueue connection.text config) (.error failure)]) ∨
        ∃ answer, outcome = .ok answer ∧
          steps = [.called (.enqueue connection.text config) (.ok answer),
            .reported (enqueueReport connection config.kind answer)] := by
  unfold Collaborators.enqueue Collaborators.report
  simp only [runs_bind, runs_pure]
  constructor
  · rintro (⟨failure, h, rfl⟩ | ⟨answer, s, t, hs, (⟨_, h, -⟩ | ⟨_, u, v, hu, ⟨rfl, rfl⟩, rfl⟩), rfl⟩)
    · exact .inl ⟨failure, rfl, runs_ask.mp h⟩
    · exact nomatch (runs_log.mp h).2
    · obtain rfl := runs_ask.mp hs
      obtain ⟨rfl, -⟩ := runs_log.mp hu
      exact .inr ⟨answer, rfl, rfl⟩
  · rintro (⟨failure, rfl, rfl⟩ | ⟨answer, rfl, rfl⟩)
    · exact .inl ⟨failure, runs_ask.mpr rfl, rfl⟩
    · exact .inr ⟨answer, _, _, runs_ask.mpr rfl, .inr ⟨(), _, _, runs_log.mpr ⟨rfl, rfl⟩, ⟨rfl, rfl⟩, rfl⟩, rfl⟩

/-- **Patching** a job is one call; a persistence failure is reported, and every failure stays. -/
theorem runs_patch {job : Int} {config : JobConfig} {outcome : Except Failure Unit} :
    Runs (k.collaborators.patch job config) steps outcome ↔
      steps = .called (.updateConfig job config) outcome :: failureReports (fun _ => patchReport job) outcome := by
  unfold Collaborators.patch Collaborators.report
  rw [runs_onPersistenceFailure]
  simp only [runs_bind, runs_throw]
  constructor
  · rintro (⟨h, hp⟩ | ⟨failure, s, t, hs, hp, (⟨_, h, -⟩ | ⟨_, u, v, hu, ⟨rfl, rfl⟩, rfl⟩), rfl⟩)
    · obtain rfl := runs_ask.mp h
      cases outcome with
      | ok _ => rfl
      | error failure => simp [failureReports, hp failure rfl]
    · exact nomatch (runs_log.mp h).2
    · -- The handler reports and throws the failure again, so it never answers.
      obtain rfl := runs_ask.mp hs
      obtain ⟨rfl, -⟩ := runs_log.mp hu
      simp [failureReports, hp]
  · rintro rfl
    cases outcome with
    | ok _ => exact .inl ⟨runs_ask.mpr rfl, fun _ h => nomatch h⟩
    | error failure =>
      cases hp : failure.isPersistence with
      | false =>
        refine .inl ⟨runs_ask.mpr (by simp [failureReports, hp]), fun other h => ?_⟩
        cases h
        exact hp
      | true =>
        refine .inr ⟨failure, _, _, runs_ask.mpr rfl, hp,
          .inr ⟨(), _, _, runs_log.mpr ⟨rfl, rfl⟩, ⟨rfl, rfl⟩, rfl⟩, ?_⟩
        simp [failureReports, hp]

/-- **Clearing the saved cursors** is one reading of the state, and the clearing when there is one. -/
theorem runs_clearSavedCursors {connection : Uuid} {requests : List RefreshRequest}
    {outcome : Except Failure Unit} :
    Runs (k.collaborators.clearSavedCursors connection requests) steps outcome ↔
      (∃ failure, outcome = .error failure ∧ steps = [.called (.readState connection) (.error failure)]) ∨
        (outcome = .ok () ∧ steps = [.called (.readState connection) (.ok none)]) ∨
          ∃ state s, Runs (k.clearCursors connection state requests) s outcome ∧
            steps = .called (.readState connection) (.ok (some state)) :: s := by
  unfold Collaborators.clearSavedCursors
  rw [runs_bind]
  constructor
  · rintro (⟨failure, h, rfl⟩ | ⟨answer, s, t, hs, ht, rfl⟩)
    · exact .inl ⟨failure, rfl, runs_ask.mp h⟩
    · obtain rfl := runs_ask.mp hs
      cases answer with
      | none =>
        obtain ⟨rfl, rfl⟩ := runs_pure.mp ht
        exact .inr (.inl ⟨rfl, rfl⟩)
      | some state => exact .inr (.inr ⟨state, t, ht, rfl⟩)
  · rintro (⟨failure, rfl, rfl⟩ | ⟨rfl, rfl⟩ | ⟨state, s, hs, rfl⟩)
    · exact .inl ⟨failure, runs_ask.mpr rfl, rfl⟩
    · exact .inr ⟨none, _, [], runs_ask.mpr rfl, runs_pure.mpr ⟨rfl, rfl⟩, rfl⟩
    · exact .inr ⟨some state, _, s, runs_ask.mpr rfl, hs, rfl⟩

/-- The steps of deleting a request with a given result. -/
def deletion (connection : Uuid) (request : RefreshRequest) (result : Except Failure Unit) : List Step :=
  .called (.deleteRequest connection request.streamName request.streamNamespace) result ::
    failureReports (requestReport connection request) result

/-- **Deleting requests**, in order, until one deletion fails in a way that is not survived. -/
inductive Deletions (connection : Uuid) : List RefreshRequest → List Step → Except Failure Unit → Prop
  /-- There is nothing to delete. -/
  | done : Deletions connection [] [] (.ok ())
  /-- A deletion ends the creation. -/
  | stopped {request : RefreshRequest} {rest : List RefreshRequest} {result : Except Failure Unit}
      {failure : Failure} (failed : survived result = .error failure) :
      Deletions connection (request :: rest) (deletion connection request result) (.error failure)
  /-- A deletion succeeds or is survived. -/
  | next {request : RefreshRequest} {rest : List RefreshRequest} {result outcome : Except Failure Unit}
      {steps : List Step} (passed : survived result = .ok ()) (others : Deletions connection rest steps outcome) :
      Deletions connection (request :: rest) (deletion connection request result ++ steps) outcome

theorem deletions_of_runs {connection : Uuid} {requests : List RefreshRequest} {outcome : Except Failure Unit}
    (h : Runs (k.collaborators.deleteRequests connection requests) steps outcome) :
    Deletions connection requests steps outcome := by
  induction requests generalizing steps with
  | nil =>
    obtain ⟨rfl, rfl⟩ := runs_pure.mp h
    exact .done
  | cons request rest ih =>
    rw [Collaborators.deleteRequests, runs_bind] at h
    obtain ⟨failure, h, rfl⟩ | ⟨_, s, t, hs, ht, rfl⟩ := h
    · obtain ⟨_, result, hr, rfl, hf⟩ := runs_bestEffort.mp h
      obtain rfl := runs_ask.mp hr
      exact .stopped hf.symm
    · obtain ⟨_, result, hr, rfl, hp⟩ := runs_bestEffort.mp hs
      obtain rfl := runs_ask.mp hr
      exact .next hp.symm (ih ht)

/-- Deletions call for nothing but the deletion of their requests. -/
theorem Deletions.exists_of_mem {connection : Uuid} {requests : List RefreshRequest} {outcome : Except Failure Unit}
    {call : Call} (h : Deletions connection requests steps outcome) (hm : call ∈ calls steps) :
    ∃ request ∈ requests, call = .deleteRequest connection request.streamName request.streamNamespace := by
  have one : ∀ {request result}, call ∈ calls (deletion connection request result) →
      call = .deleteRequest connection request.streamName request.streamNamespace := by simp [deletion]
  induction h with
  | done => exact absurd hm List.not_mem_nil
  | stopped _ => exact ⟨_, List.mem_cons_self, one hm⟩
  | next _ _ ih =>
    rw [calls_append, List.mem_append] at hm
    obtain here | later := hm
    · exact ⟨_, List.mem_cons_self, one here⟩
    · obtain ⟨request, inside, same⟩ := ih later
      exact ⟨request, List.mem_cons_of_mem _ inside, same⟩

/-- **The cleanup**: the saved cursors, then the requests. -/
inductive CleanUp (k : Services Program) (connection : Uuid) (requests : List RefreshRequest) :
    List Step → Except Failure Unit → Prop
  /-- The saved cursors end the creation. -/
  | stopped {s : List Step} {result : Except Failure Unit} {failure : Failure}
      (cursors : Runs (k.collaborators.clearSavedCursors connection requests) s result)
      (failed : survived result = .error failure) :
      CleanUp k connection requests (s ++ failureReports (stateReport connection) result) (.error failure)
  /-- The saved cursors are cleared, or a failure of that is survived. -/
  | next {s t : List Step} {result outcome : Except Failure Unit}
      (cursors : Runs (k.collaborators.clearSavedCursors connection requests) s result)
      (passed : survived result = .ok ()) (deletions : Deletions connection requests t outcome) :
      CleanUp k connection requests (s ++ failureReports (stateReport connection) result ++ t) outcome

theorem cleanUp_of_runs {connection : Uuid} {requests : List RefreshRequest} {outcome : Except Failure Unit}
    (h : Runs (k.collaborators.cleanUp connection requests) steps outcome) :
    CleanUp k connection requests steps outcome := by
  rw [Collaborators.cleanUp, runs_bind] at h
  obtain ⟨failure, h, rfl⟩ | ⟨_, s, t, hs, ht, rfl⟩ := h
  · obtain ⟨_, result, hr, rfl, hf⟩ := runs_bestEffort.mp h
    exact .stopped hr hf.symm
  · obtain ⟨_, result, hr, rfl, hp⟩ := runs_bestEffort.mp hs
    exact .next hr hp.symm (deletions_of_runs ht)

/-- **A cleanup makes calls of its own phase only**, when the clearing of cursors does. -/
theorem CleanUp.cleaning {connection : Uuid} {requests : List RefreshRequest} {outcome : Except Failure Unit}
    (clearing : ∀ state s result, Runs (k.clearCursors connection state requests) s result →
      ∀ call ∈ calls s, call.phase = .cleaning)
    (h : CleanUp k connection requests steps outcome) : ∀ call ∈ calls steps, call.phase = .cleaning := by
  have cursors : ∀ {s result}, Runs (k.collaborators.clearSavedCursors connection requests) s result →
      ∀ call ∈ calls (s ++ failureReports (stateReport connection) result), call.phase = .cleaning := by
    intro s result h
    rw [calls_append, calls_failureReports, List.append_nil]
    obtain ⟨_, -, rfl⟩ | ⟨-, rfl⟩ | ⟨state, t, ht, rfl⟩ := runs_clearSavedCursors.mp h
    · simp
    · simp
    · rw [calls_called]
      exact List.forall_mem_cons.mpr ⟨rfl, clearing state t result ht⟩
  cases h with
  | stopped h _ => exact cursors h
  | next h _ deletions =>
    rw [calls_append]
    refine List.forall_mem_append.mpr ⟨cursors h, fun call hm => ?_⟩
    obtain ⟨_, -, rfl⟩ := deletions.exists_of_mem hm
    rfl

/-- A clearer that is a port is called, and that is all. -/
theorem cleaning_of_ask {connection : Uuid} {state : SavedState} {requests : List RefreshRequest}
    {result : Except Failure Unit} (h : Runs (Program.ask (.clearCursors connection state requests)) steps result) :
    ∀ call ∈ calls steps, call.phase = .cleaning := by
  obtain rfl := runs_ask.mp h
  simp

/-! ## Whole creations -/

/-- The steps of putting a job into the queue, when the queue answers. -/
@[simp] def enqueueing (connection : Uuid) (config : JobConfig) (answer : Option Int) : List Step :=
  [.called (.enqueue connection.text config) (.ok answer),
    .reported (enqueueReport connection config.kind answer)]

/-- The configuration a refresh is enqueued with, once its resources are resolved. -/
def refreshConfig (inputs : JobInputs) (requests : List RefreshRequest) (resources : Bundle) : RefreshConfig :=
  buildRefresh inputs.connection inputs.source inputs.destination inputs.sourceImage inputs.destinationImage
    resources requests inputs.webhooks none

/-- The configuration a sync is enqueued with, once its resources are resolved. -/
def syncConfig (inputs : JobInputs) (resources : Bundle) : SyncConfig :=
  buildSync inputs.connection inputs.source inputs.destination inputs.sourceImage inputs.destinationImage
    resources inputs.webhooks none

/-- **A refresh that may be enqueued**: refreshes are enabled, and the resources are resolved. -/
inductive Opened (k : Services Program) (inputs : JobInputs) (resources : Bundle) : List Step → Prop
  /-- The gate answers, and then the resolver. -/
  | mk {s t : List Step} (gate : Runs (k.collaborators.isEligibleFor inputs) s (.ok true))
      (resolution : Runs (k.resolve inputs.connection (.live inputs.source) inputs.destination false) t
        (.ok resources)) : Opened k inputs resources (s ++ t)

/-- **A refresh whose job is in the queue.** -/
inductive Enqueued (k : Services Program) (inputs : JobInputs) (requests : List RefreshRequest)
    (resources : Bundle) (job : Int) : List Step → Prop
  /-- The queue answers the number of the job. -/
  | mk {s : List Step} (opened : Opened k inputs resources s) :
      Enqueued k inputs requests resources job (s ++ enqueueing inputs.connection.connectionId
        (.refresh (refreshConfig inputs requests resources)) (some job))

/-- **A refresh whose generations are bumped.** -/
inductive Bumped (k : Services Program) (inputs : JobInputs) (requests : List RefreshRequest)
    (resources : Bundle) (job : Int) : List Step → Prop
  /-- The bump succeeds. -/
  | mk {s t : List Step} (enqueued : Enqueued k inputs requests resources job s)
      (bump : Runs (k.bump inputs.connection.connectionId job requests) t (.ok ())) :
      Bumped k inputs requests resources job (s ++ t)

/-- **A refresh whose catalog is stamped.** -/
inductive Stamped (k : Services Program) (inputs : JobInputs) (requests : List RefreshRequest)
    (resources : Bundle) (job : Int) (catalog : Catalog) : List Step → Prop
  /-- The stamped catalog is there. -/
  | mk {s t : List Step} (bumped : Bumped k inputs requests resources job s)
      (stamp : Runs (k.stamp inputs.connection.catalog inputs.connection.connectionId job requests) t
        (.ok catalog)) : Stamped k inputs requests resources job catalog (s ++ t)

/-- **The courses of a refresh creation**, by the step at which it ends. -/
inductive RefreshCourse (k : Services Program) (inputs : JobInputs) (requests : List RefreshRequest) :
    List Step → Except Failure (Option Int) → Prop
  /-- The gate fails. -/
  | gateFailed {s : List Step} {failure : Failure}
      (gate : Runs (k.collaborators.isEligibleFor inputs) s (.error failure)) :
      RefreshCourse k inputs requests s (.error failure)
  /-- Refreshes are not enabled. -/
  | refused {s : List Step} (gate : Runs (k.collaborators.isEligibleFor inputs) s (.ok false)) :
      RefreshCourse k inputs requests s (.error (.refreshNotEligible inputs.connection.connectionId))
  /-- The resources are not resolved. -/
  | unresolved {s t : List Step} {failure : Failure}
      (gate : Runs (k.collaborators.isEligibleFor inputs) s (.ok true))
      (resolution : Runs (k.resolve inputs.connection (.live inputs.source) inputs.destination false) t
        (.error failure)) : RefreshCourse k inputs requests (s ++ t) (.error failure)
  /-- The queue fails. -/
  | queueFailed {s : List Step} {resources : Bundle} {failure : Failure} (opened : Opened k inputs resources s) :
      RefreshCourse k inputs requests (s ++ [.called (.enqueue inputs.connection.connectionId.text
        (.refresh (refreshConfig inputs requests resources))) (.error failure)]) (.error failure)
  /-- The connection has an active job. -/
  | lost {s : List Step} {resources : Bundle} (opened : Opened k inputs resources s) :
      RefreshCourse k inputs requests (s ++ enqueueing inputs.connection.connectionId
        (.refresh (refreshConfig inputs requests resources)) none) (.ok none)
  /-- The generations are not bumped. -/
  | bumpFailed {s t : List Step} {resources : Bundle} {job : Int} {failure : Failure}
      (enqueued : Enqueued k inputs requests resources job s)
      (bump : Runs (k.bump inputs.connection.connectionId job requests) t (.error failure)) :
      RefreshCourse k inputs requests (s ++ t) (.error failure)
  /-- The catalog is not stamped. -/
  | stampFailed {s t : List Step} {resources : Bundle} {job : Int} {failure : Failure}
      (bumped : Bumped k inputs requests resources job s)
      (stamp : Runs (k.stamp inputs.connection.catalog inputs.connection.connectionId job requests) t
        (.error failure)) : RefreshCourse k inputs requests (s ++ t) (.error failure)
  /-- The stamped configuration is not stored. -/
  | patchFailed {s : List Step} {resources : Bundle} {job : Int} {catalog : Catalog} {failure : Failure}
      (stamped : Stamped k inputs requests resources job catalog s) :
      RefreshCourse k inputs requests (s ++ .called (.updateConfig job
          (.refresh ((refreshConfig inputs requests resources).withCatalog catalog))) (.error failure) ::
        failureReports (fun _ => patchReport job) (.error failure : Except Failure Unit)) (.error failure)
  /-- The job is made, and the cleanup runs. -/
  | patched {s t : List Step} {resources : Bundle} {job : Int} {catalog : Catalog}
      {outcome : Except Failure Unit} (stamped : Stamped k inputs requests resources job catalog s)
      (cleanUp : CleanUp k inputs.connection.connectionId requests t outcome) :
      RefreshCourse k inputs requests (s ++ .called (.updateConfig job
          (.refresh ((refreshConfig inputs requests resources).withCatalog catalog))) (.ok ()) :: t)
        (outcome.map fun _ => some job)

/-- What a refresh does once its job is in the queue. -/
theorem refreshCourse_of_enqueued {inputs : JobInputs} {requests : List RefreshRequest} {resources : Bundle}
    {job : Int} {s t : List Step} {outcome : Except Failure (Option Int)}
    (enqueued : Enqueued k inputs requests resources job s)
    (h : Runs (do
      k.collaborators.bump inputs.connection.connectionId job requests
      let catalog ← k.collaborators.stamp inputs.connection.catalog inputs.connection.connectionId job requests
      k.collaborators.patch job (.refresh ((refreshConfig inputs requests resources).withCatalog catalog))
      k.collaborators.cleanUp inputs.connection.connectionId requests
      return some job) t outcome) :
    RefreshCourse k inputs requests (s ++ t) outcome := by
  rw [runs_bind] at h
  obtain ⟨_, hb, rfl⟩ | ⟨_, s₁, t₁, hb, h, rfl⟩ := h
  · exact .bumpFailed enqueued hb
  -- From here on the steps so far are one list, which is all that the later courses mention.
  have bumped : Bumped k inputs requests resources job (s ++ s₁) := .mk enqueued hb
  rw [← List.append_assoc]
  generalize s ++ s₁ = s at bumped ⊢
  rw [runs_bind] at h
  obtain ⟨_, hc, rfl⟩ | ⟨catalog, s₂, t₂, hc, h, rfl⟩ := h
  · exact .stampFailed bumped hc
  have stamped : Stamped k inputs requests resources job catalog (s ++ s₂) := .mk bumped hc
  rw [← List.append_assoc]
  generalize s ++ s₂ = s at stamped ⊢
  rw [runs_bind] at h
  obtain ⟨_, hp, rfl⟩ | ⟨_, s₃, t₃, hp, h, rfl⟩ := h
  · obtain rfl := runs_patch.mp hp
    exact .patchFailed stamped
  obtain rfl := runs_patch.mp hp
  rw [runs_bind] at h
  obtain ⟨failure, hc, rfl⟩ | ⟨_, s₄, t₄, hc, h, rfl⟩ := h
  · exact .patched stamped (cleanUp_of_runs hc)
  · obtain ⟨rfl, rfl⟩ := runs_pure.mp h
    rw [List.append_nil]
    exact .patched stamped (cleanUp_of_runs hc)

/-- **Every run of a refresh creation is one of its courses.** -/
theorem refreshCourse_of_runs {inputs : JobInputs} {requests : List RefreshRequest}
    {outcome : Except Failure (Option Int)}
    (h : Runs (k.collaborators.createRefresh inputs requests) steps outcome) :
    RefreshCourse k inputs requests steps outcome := by
  rw [Collaborators.createRefresh, runs_bind] at h
  obtain ⟨_, hg, rfl⟩ | ⟨eligible, s₁, t₁, hg, h, rfl⟩ := h
  · exact .gateFailed hg
  cases eligible with
  | false =>
    rw [if_neg Bool.false_ne_true, runs_bind] at h
    obtain ⟨_, ht, rfl⟩ | ⟨_, _, _, ht, -⟩ := h
    · obtain ⟨rfl, hf⟩ := runs_throw.mp ht
      cases hf
      rw [List.append_nil]
      exact .refused hg
    · exact nomatch (runs_throw.mp ht).2
  | true =>
    rw [if_pos rfl, runs_bind] at h
    obtain ⟨_, hr, rfl⟩ | ⟨resources, s₂, t₂, hr, h, rfl⟩ := h
    · exact .unresolved hg hr
    have opened : Opened k inputs resources (s₁ ++ s₂) := .mk hg hr
    rw [← List.append_assoc]
    generalize s₁ ++ s₂ = s at opened ⊢
    rw [runs_bind] at h
    obtain ⟨_, hq, rfl⟩ | ⟨answer, s₃, t₃, hq, h, rfl⟩ := h
    · obtain ⟨_, hf, rfl⟩ | ⟨_, hf, -⟩ := runs_enqueue.mp hq
      · cases hf
        exact .queueFailed opened
      · exact nomatch hf
    obtain ⟨_, hf, -⟩ | ⟨_, hf, rfl⟩ := runs_enqueue.mp hq
    · exact nomatch hf
    cases hf
    cases answer with
    | none =>
      obtain ⟨rfl, rfl⟩ := runs_pure.mp h
      rw [List.append_nil]
      exact .lost opened
    | some job =>
      have enqueued : Enqueued k inputs requests resources job _ := .mk opened
      rw [← List.append_assoc]
      exact refreshCourse_of_enqueued enqueued h

/-- **A sync whose job is in the queue.** -/
inductive SyncEnqueued (k : Services Program) (inputs : JobInputs) (resources : Bundle) (job : Int) :
    List Step → Prop
  /-- The resolver answers, and then the queue. -/
  | mk {s : List Step}
      (resolution : Runs (k.resolve inputs.connection (.live inputs.source) inputs.destination false) s
        (.ok resources)) :
      SyncEnqueued k inputs resources job
        (s ++ enqueueing inputs.connection.connectionId (.sync (syncConfig inputs resources)) (some job))

/-- **The courses of a sync creation**, by the step at which it ends. -/
inductive SyncCourse (k : Services Program) (inputs : JobInputs) :
    List Step → Except Failure (Option Int) → Prop
  /-- The resources are not resolved. -/
  | unresolved {s : List Step} {failure : Failure}
      (resolution : Runs (k.resolve inputs.connection (.live inputs.source) inputs.destination false) s
        (.error failure)) : SyncCourse k inputs s (.error failure)
  /-- The queue fails. -/
  | queueFailed {s : List Step} {resources : Bundle} {failure : Failure}
      (resolution : Runs (k.resolve inputs.connection (.live inputs.source) inputs.destination false) s
        (.ok resources)) :
      SyncCourse k inputs (s ++ [.called (.enqueue inputs.connection.connectionId.text
        (.sync (syncConfig inputs resources))) (.error failure)]) (.error failure)
  /-- The connection has an active job. -/
  | lost {s : List Step} {resources : Bundle}
      (resolution : Runs (k.resolve inputs.connection (.live inputs.source) inputs.destination false) s
        (.ok resources)) :
      SyncCourse k inputs (s ++ enqueueing inputs.connection.connectionId
        (.sync (syncConfig inputs resources)) none) (.ok none)
  /-- The gate fails. -/
  | gateFailed {s t : List Step} {resources : Bundle} {job : Int} {failure : Failure}
      (enqueued : SyncEnqueued k inputs resources job s)
      (gate : Runs (k.collaborators.isEligibleFor inputs) t (.error failure)) :
      SyncCourse k inputs (s ++ t) (.error failure)
  /-- Refreshes are not enabled, and the job stays as it is. -/
  | unstamped {s t : List Step} {resources : Bundle} {job : Int}
      (enqueued : SyncEnqueued k inputs resources job s)
      (gate : Runs (k.collaborators.isEligibleFor inputs) t (.ok false)) :
      SyncCourse k inputs (s ++ t ++ [.reported (unstampedReport job)]) (.ok (some job))
  /-- The catalog is not stamped. -/
  | stampFailed {s t u : List Step} {resources : Bundle} {job : Int} {failure : Failure}
      (enqueued : SyncEnqueued k inputs resources job s)
      (gate : Runs (k.collaborators.isEligibleFor inputs) t (.ok true))
      (stamp : Runs (k.stamp inputs.connection.catalog inputs.connection.connectionId job []) u
        (.error failure)) : SyncCourse k inputs (s ++ t ++ u) (.error failure)
  /-- The catalog is stamped, and storing it has a result. -/
  | stamped {s t u : List Step} {resources : Bundle} {job : Int} {catalog : Catalog}
      {result : Except Failure Unit} (enqueued : SyncEnqueued k inputs resources job s)
      (gate : Runs (k.collaborators.isEligibleFor inputs) t (.ok true))
      (stamp : Runs (k.stamp inputs.connection.catalog inputs.connection.connectionId job []) u
        (.ok catalog)) :
      SyncCourse k inputs (s ++ t ++ u ++ .called (.updateConfig job
          (.sync ((syncConfig inputs resources).withCatalog catalog))) result ::
        failureReports (fun _ => patchReport job) result) (result.map fun _ => some job)

/-- What a sync does once its job is in the queue. -/
theorem syncCourse_of_enqueued {inputs : JobInputs} {resources : Bundle} {job : Int} {s t : List Step}
    {outcome : Except Failure (Option Int)} (enqueued : SyncEnqueued k inputs resources job s)
    (h : Runs (do
      if ← k.collaborators.isEligibleFor inputs then
        let catalog ← k.collaborators.stamp inputs.connection.catalog inputs.connection.connectionId job []
        k.collaborators.patch job (.sync ((syncConfig inputs resources).withCatalog catalog))
      else
        k.collaborators.report (unstampedReport job)
      return some job) t outcome) :
    SyncCourse k inputs (s ++ t) outcome := by
  rw [runs_bind] at h
  obtain ⟨_, hg, rfl⟩ | ⟨eligible, s₁, t₁, hg, h, rfl⟩ := h
  · exact .gateFailed enqueued hg
  rw [← List.append_assoc]
  cases eligible with
  | false =>
    rw [if_neg Bool.false_ne_true, runs_bind] at h
    obtain ⟨_, hr, -⟩ | ⟨_, _, _, hr, h, rfl⟩ := h
    · exact nomatch (runs_log.mp hr).2
    · obtain ⟨rfl, -⟩ := runs_log.mp hr
      obtain ⟨rfl, rfl⟩ := runs_pure.mp h
      exact .unstamped enqueued hg
  | true =>
    rw [if_pos rfl, runs_bind] at h
    obtain ⟨_, hc, rfl⟩ | ⟨catalog, s₂, t₂, hc, h, rfl⟩ := h
    · exact .stampFailed enqueued hg hc
    rw [← List.append_assoc]
    rw [runs_bind] at h
    obtain ⟨failure, hp, rfl⟩ | ⟨_, s₃, t₃, hp, h, rfl⟩ := h
    · obtain rfl := runs_patch.mp hp
      exact .stamped enqueued hg hc
    · obtain rfl := runs_patch.mp hp
      obtain ⟨rfl, rfl⟩ := runs_pure.mp h
      rw [List.append_nil]
      exact .stamped enqueued hg hc

/-- **Every run of a sync creation is one of its courses.** -/
theorem syncCourse_of_runs {inputs : JobInputs} {outcome : Except Failure (Option Int)}
    (h : Runs (k.collaborators.createSync inputs) steps outcome) : SyncCourse k inputs steps outcome := by
  rw [Collaborators.createSync, runs_bind] at h
  obtain ⟨_, hr, rfl⟩ | ⟨resources, s₁, t₁, hr, h, rfl⟩ := h
  · exact .unresolved hr
  rw [runs_bind] at h
  obtain ⟨_, hq, rfl⟩ | ⟨answer, s₂, t₂, hq, h, rfl⟩ := h
  · obtain ⟨_, hf, rfl⟩ | ⟨_, hf, -⟩ := runs_enqueue.mp hq
    · cases hf
      exact .queueFailed hr
    · exact nomatch hf
  obtain ⟨_, hf, -⟩ | ⟨_, hf, rfl⟩ := runs_enqueue.mp hq
  · exact nomatch hf
  cases hf
  cases answer with
  | none =>
    obtain ⟨rfl, rfl⟩ := runs_pure.mp h
    rw [List.append_nil]
    exact .lost hr
  | some job =>
    have enqueued : SyncEnqueued k inputs resources job _ := .mk hr
    rw [← List.append_assoc]
    exact syncCourse_of_enqueued enqueued h

end Services
end ConnectionJobs
