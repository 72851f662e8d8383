import ConnectionJobs.Proofs.Creation.Configuration
import ConnectionJobs.Proofs.Creation.Protocol
import ConnectionJobs.Proofs.Job.RoundTrip
import ConnectionJobs.Proofs.Queue.Dialogue

/-!
# A patch that fails

The last thing a creation does for a job in the queue is to replace its stored configuration by the stamped one. When
that fails, the job keeps its plain catalog, and the only trace of it is one report at the level of errors, in the
context of the job. The failure is raised again, and no cleanup is begun.

A queue can fail to replace a configuration in two ways: it cannot write, or there is no such job any more. The
creation reports failures of the first kind alone. A job that has gone ends it all the same, with the failure raised
and nothing cleaned, but without any report (`announces_iff_of_patch_failed`).

Creations run here with all their own components. What they do before the patch is *early*: it reports no error, and
it is neither the patch nor the cleanup. So the reports of errors among all steps are those that follow the patch.
-/

namespace ConnectionJobs

/-! ## Before the patch -/

/-- **An early step** reports no error, and is no patch and no part of the cleanup. -/
def Step.IsEarly : Step → Prop
  | reported event => event.level ≠ .error
  | called (.updateConfig _ _) _ => False
  | called call _ => call.phase ≠ .cleaning

/-- Some steps are all early. -/
def Early (steps : List Step) : Prop := ∀ step ∈ steps, step.IsEarly

section Early

variable {s t : List Step}

theorem early_nil : Early [] := fun _ h => absurd h List.not_mem_nil

theorem Early.cons {step : Step} (here : step.IsEarly) (later : Early t) : Early (step :: t) :=
  List.forall_mem_cons.mpr ⟨here, later⟩

theorem Early.append (hs : Early s) (ht : Early t) : Early (s ++ t) := List.forall_mem_append.mpr ⟨hs, ht⟩

theorem early_enqueue {scope : String} {config : JobConfig} {answer : Except Failure (Option Int)} :
    Early [.called (.enqueue scope config) answer] :=
  .cons nofun early_nil

theorem early_enqueueing (connection : Uuid) (config : JobConfig) (answer : Option Int) :
    Early (Services.enqueueing connection config answer) :=
  .cons nofun (.cons nofun early_nil)

theorem Early.notMem_patch (early : Early s) {job : Int} {config : JobConfig} {answer : Except Failure Unit} :
    .called (.updateConfig job config) answer ∉ s := fun h => early _ h

theorem Early.uncleaned (early : Early s) : ∀ call ∈ calls s, call.phase ≠ .cleaning := fun call h cleaning => by
  obtain ⟨answer, hs⟩ := mem_calls.mp h
  have here := early _ hs
  cases call with
  | updateConfig _ _ => exact here
  | _ => exact here cleaning

end Early

/-! ## Parts of a creation that are early -/

/-- **An attempt takes only early steps**, whatever it is answered. -/
def Opens {α : Type} (attempt : Attempt Program α) : Prop := ∀ steps outcome, Runs attempt steps outcome → Early steps

section Opens

variable {α β : Type}

theorem opens_pure (a : α) : Opens (pure a) := fun steps outcome h => by
  obtain ⟨rfl, -⟩ := runs_pure.mp h
  exact early_nil

theorem opens_ask {call : Call} (early : ∀ answer, (Step.called call answer).IsEarly) : Opens (Program.ask call) :=
  fun steps outcome h => by
    obtain rfl := runs_ask.mp h
    exact .cons (early outcome) early_nil

theorem Opens.bind {m : Attempt Program α} {f : α → Attempt Program β} (hm : Opens m) (hf : ∀ a, Opens (f a)) :
    Opens (m >>= f) := fun steps outcome h => by
  obtain ⟨_, h, -⟩ | ⟨a, s, t, hs, ht, rfl⟩ := runs_bind.mp h
  · exact hm _ _ h
  · exact (hm _ _ hs).append (hf a _ _ ht)

theorem Opens.map {m : Attempt Program α} (hm : Opens m) (f : α → β) : Opens (f <$> m) := by
  rw [map_eq_bind]
  exact hm.bind fun a => opens_pure (f a)

/-- Reports below the level of errors are early. -/
theorem early_reportAll {events : List Log.Event} (mild : ∀ event ∈ events, event.level ≠ .error) {steps : List Step}
    (h : (Log.reportAll Program.surroundings.log events).Takes steps ()) : Early steps := by
  induction events generalizing steps with
  | nil =>
    obtain ⟨rfl, -⟩ := Program.takes_done.mp h
    exact early_nil
  | cons event rest ih =>
    obtain ⟨here, later⟩ := List.forall_mem_cons.mp mild
    obtain ⟨_, s, t, hs, ht, rfl⟩ := Program.takes_andThen.mp h
    cases hs with
    | report hs =>
      obtain ⟨rfl, -⟩ := Program.takes_done.mp hs
      exact .cons here (ih later ht)

/-- A malformed override is reported as a warning. -/
theorem opens_parseOverride (category payload : String) :
    Opens (ExceptT.lift (parseOverride Program.surroundings.log category payload)) := fun steps outcome h => by
  obtain ⟨_, takes, -⟩ := runs_lift.mp h
  obtain ⟨_, s, t, hs, ht, rfl⟩ := Program.takes_andThen.mp takes
  obtain ⟨rfl, -⟩ := Program.takes_done.mp ht
  rw [List.append_nil]
  refine early_reportAll (fun event he => ?_) hs
  cases reading : OverrideReading.ofPayload payload with
  | malformed problems =>
    rw [reading] at he
    obtain rfl := List.mem_singleton.mp he
    exact (nofun : Log.Level.warning ≠ .error)
  | _ =>
    rw [reading] at he
    exact absurd he List.not_mem_nil

theorem opens_text (flag : Flag String) (context : Flag.Context) :
    Opens (Program.surroundings.flags.text flag context) :=
  opens_ask fun _ => nofun

theorem opens_evaluateOverride (context : Flag.Context) (category : String) (flag : Flag String) :
    Opens (evaluateOverride Program.surroundings.log Program.surroundings.flags context category flag) :=
  (opens_text flag context).bind fun payload => opens_parseOverride category payload

theorem opens_lookup (role : Role) (subType : Option String) (variant : String) :
    Opens (Program.surroundings.defaults.lookup role subType variant) :=
  opens_ask fun _ => nofun

theorem opens_assemblePolicy (context : Flag.Context) (includeSource : Bool) :
    Opens (assemblePolicy Program.surroundings.log Program.surroundings.flags context includeSource) := by
  have shared : ∀ sourceOverride, Opens _ := fun sourceOverride =>
    (opens_text .resourceVariant context).bind fun variant =>
      (opens_evaluateOverride context "ORCHESTRATOR" .orchestratorOverrides).bind fun orchestratorOverride =>
        (opens_evaluateOverride context "DESTINATION" .destinationOverrides).bind fun destinationOverride =>
          opens_pure (Policy.mk variant orchestratorOverride sourceOverride destinationOverride)
  unfold assemblePolicy
  cases includeSource with
  | true => exact (opens_evaluateOverride context "SOURCE" .sourceOverrides).bind shared
  | false => exact (opens_pure none).bind shared

theorem opens_resolveWith (policy : Policy) (connection : Connection) (source : SourceSide)
    (destination : ConnectorDefinition) (isReset : Bool) :
    Opens (resolveWith Program.surroundings.defaults policy connection source destination isReset) := by
  have lookup : ∀ role, Opens (Program.surroundings.defaults.lookup role source.subType? policy.variant) :=
    fun role => opens_lookup role _ _
  have others : ∀ bundle : Quantities → Quantities → Quantities → Quantities → Bundle, Opens _ := fun bundle =>
    (lookup .destinationStdin).bind fun stdin => (lookup .destinationStdout).bind fun stdout =>
      (lookup .destinationStderr).bind fun stderr => (lookup .heartbeat).bind fun heartbeat =>
        opens_pure (bundle stdin stdout stderr heartbeat)
  unfold resolveWith
  cases participatingSource source isReset with
  | none =>
    exact (lookup .orchestrator).bind fun _ => (lookup .destination).bind fun _ => (opens_pure none).bind fun _ => others _
  | some definition =>
    have sources : Opens (some <$> resolveSource Program.surroundings.defaults policy connection source.subType?
        definition) :=
      Opens.map ((lookup .source).bind fun _ => (lookup .sourceStdout).bind fun _ => (lookup .sourceStderr).bind fun _ =>
        opens_pure _) _
    exact (lookup .orchestrator).bind fun _ => (lookup .destination).bind fun _ => sources.bind fun _ => others _

/-- **Resolving resources is early.** -/
theorem opens_resolveResources (connection : Connection) (source : SourceSide) (destination : ConnectorDefinition)
    (isReset : Bool) :
    Opens (resolveResources Program.surroundings.log Program.surroundings.flags Program.surroundings.defaults connection
      source destination isReset) :=
  (opens_assemblePolicy _ _).bind fun policy => opens_resolveWith policy connection source destination isReset

end Opens

namespace Services

variable {inputs : JobInputs} {requests : List RefreshRequest} {resources : Bundle} {job : Int} {steps : List Step}
  {catalog : Catalog} {outcome : Except Failure (Option Int)}

theorem opens_gate (inputs : JobInputs) : Opens (configured.collaborators.isEligibleFor inputs) :=
  fun steps answer h => by
    obtain rfl := runs_gate.mp h
    exact .cons nofun early_nil

theorem early_bump {result : Except Failure Unit}
    (h : Runs (configured.bump inputs.connection.connectionId job requests) steps result) : Early steps := by
  cases bumpCourse_of_runs h with
  | idle _ => exact early_nil
  | unread => exact .cons nofun early_nil
  | handed => exact .cons nofun (.cons nofun early_nil)

theorem early_stamp {answer : Except Failure Catalog}
    (h : Runs (configured.stamp catalog inputs.connection.connectionId job requests) steps answer) : Early steps := by
  obtain ⟨_, rfl, -⟩ | ⟨_, rfl, -⟩ := runs_stampCatalog.mp h
  · exact .cons nofun early_nil
  · exact .cons nofun early_nil

theorem Opened.early (h : Opened configured inputs resources steps) : Early steps := by
  obtain ⟨gate, resolution⟩ := h
  exact (opens_gate inputs _ _ gate).append (opens_resolveResources _ _ _ _ _ _ resolution)

theorem Enqueued.early (h : Enqueued configured inputs requests resources job steps) : Early steps := by
  obtain ⟨opened⟩ := h
  exact opened.early.append (early_enqueueing _ _ _)

theorem Bumped.early (h : Bumped configured inputs requests resources job steps) : Early steps := by
  obtain ⟨enqueued, bump⟩ := h
  exact enqueued.early.append (early_bump bump)

theorem Stamped.early (h : Stamped configured inputs requests resources job catalog steps) : Early steps := by
  obtain ⟨bumped, stamp⟩ := h
  exact bumped.early.append (early_stamp stamp)

theorem SyncEnqueued.early (h : SyncEnqueued configured inputs resources job steps) : Early steps := by
  obtain ⟨resolution⟩ := h
  exact (opens_resolveResources _ _ _ _ _ _ resolution).append (early_enqueueing _ _ _)

/-- The cleanup clears cursors with calls of its own phase. -/
theorem CleanUp.cleaning_of_configured {connection : Uuid} {result : Except Failure Unit}
    (h : CleanUp configured connection requests steps result) : ∀ call ∈ calls steps, call.phase = .cleaning := by
  refine h.cleaning fun state s result hs => ?_
  change Runs (ConnectionJobs.clearCursors _ _ connection state requests) s result at hs
  unfold ConnectionJobs.clearCursors at hs
  split at hs
  · obtain ⟨rfl, -⟩ := runs_log.mp hs
    simp
  all_goals
    obtain rfl := runs_ask.mp hs
    simp

end Services

/-! ## Up to the patch and after it -/

/-- **The courses of a creation**, by what becomes of its patch. -/
inductive PatchCourse : List Step → Except Failure (Option Int) → Prop
  /-- The creation ends before. -/
  | unpatched {s : List Step} {outcome : Except Failure (Option Int)} (early : Early s) : PatchCourse s outcome
  /-- The patch fails, and so does the creation; all that follows is the report. -/
  | failed {s : List Step} {job : Int} {config : JobConfig} {failure : Failure} (early : Early s) :
      PatchCourse (s ++ .called (.updateConfig job config) (.error failure) ::
        failureReports (fun _ => patchReport job) (.error failure : Except Failure Unit)) (.error failure)
  /-- The patch succeeds, and only the cleanup follows. -/
  | patched {s t : List Step} {job : Int} {config : JobConfig} {outcome : Except Failure (Option Int)} (early : Early s)
      (cleaning : ∀ call ∈ calls t, call.phase = .cleaning) :
      PatchCourse (s ++ .called (.updateConfig job config) (.ok ()) :: t) outcome

namespace Services

variable {inputs : JobInputs} {requests : List RefreshRequest} {steps : List Step}
  {outcome : Except Failure (Option Int)}

theorem RefreshCourse.patch (h : RefreshCourse configured inputs requests steps outcome) : PatchCourse steps outcome := by
  cases h with
  | gateFailed gate => exact .unpatched (opens_gate inputs _ _ gate)
  | refused gate => exact .unpatched (opens_gate inputs _ _ gate)
  | unresolved gate resolution =>
    exact .unpatched ((opens_gate inputs _ _ gate).append (opens_resolveResources _ _ _ _ _ _ resolution))
  | queueFailed opened => exact .unpatched (opened.early.append early_enqueue)
  | lost opened => exact .unpatched (opened.early.append (early_enqueueing _ _ _))
  | bumpFailed enqueued bump => exact .unpatched (enqueued.early.append (early_bump bump))
  | stampFailed bumped stamp => exact .unpatched (bumped.early.append (early_stamp stamp))
  | patchFailed stamped => exact .failed stamped.early
  | patched stamped cleanUp => exact .patched stamped.early cleanUp.cleaning_of_configured

theorem SyncCourse.patch (h : SyncCourse configured inputs steps outcome) : PatchCourse steps outcome := by
  cases h with
  | unresolved resolution => exact .unpatched (opens_resolveResources _ _ _ _ _ _ resolution)
  | queueFailed resolution =>
    exact .unpatched ((opens_resolveResources _ _ _ _ _ _ resolution).append early_enqueue)
  | lost resolution =>
    exact .unpatched ((opens_resolveResources _ _ _ _ _ _ resolution).append (early_enqueueing _ _ _))
  | gateFailed enqueued gate => exact .unpatched (enqueued.early.append (opens_gate inputs _ _ gate))
  | unstamped enqueued gate =>
    exact .unpatched ((enqueued.early.append (opens_gate inputs _ _ gate)).append (.cons nofun early_nil))
  | stampFailed enqueued gate stamp =>
    exact .unpatched ((enqueued.early.append (opens_gate inputs _ _ gate)).append (early_stamp stamp))
  | @stamped s t u _ _ _ result enqueued gate stamp =>
    have early : Early (s ++ t ++ u) := (enqueued.early.append (opens_gate inputs _ _ gate)).append (early_stamp stamp)
    cases result with
    | error failure => exact .failed early
    | ok _ => exact .patched early (by simp [failureReports])

end Services

section Creation

variable {creation : CreationCall} {steps : List Step} {outcome : Except Failure (Option Int)}

/-- **Every creation is of one of these courses.** A reset makes no patch at all. -/
theorem patchCourse_of_runs (h : Runs (creation.attempt Program.surroundings.collaborators) steps outcome) :
    PatchCourse steps outcome := by
  cases creation with
  | sync inputs => exact (Services.syncCourse_of_runs (k := .configured) h).patch
  | refresh inputs requests => exact (Services.refreshCourse_of_runs (k := .configured) h).patch
  | reset connection destination image streams =>
    change Runs (Services.configured.collaborators.createReset connection destination image streams) steps outcome at h
    rw [Collaborators.createReset, runs_bind] at h
    obtain ⟨_, h, -⟩ | ⟨_, s, t, hs, ht, rfl⟩ := h
    · exact .unpatched (opens_resolveResources _ _ _ _ _ _ h)
    · have resolved := opens_resolveResources _ _ _ _ _ _ hs
      obtain ⟨_, -, rfl⟩ | ⟨_, -, rfl⟩ := Services.runs_enqueue.mp ht
      · exact .unpatched (resolved.append early_enqueue)
      · exact .unpatched (resolved.append (early_enqueueing _ _ _))

/-! ## What is reported -/

/-- The reports at the level of errors among some steps. -/
def errorReports (steps : List Step) : List Log.Event := (events steps).filter fun event => event.level = .error

theorem errorReports_append {s t : List Step} : errorReports (s ++ t) = errorReports s ++ errorReports t := by
  rw [errorReports, events_append, List.filter_append, errorReports, errorReports]

theorem Early.errorReports {s : List Step} (early : Early s) : errorReports s = [] := by
  refine List.filter_eq_nil_iff.mpr fun event he => ?_
  obtain ⟨step, hs, same⟩ := List.mem_filterMap.mp he
  obtain _ | _ := step
  · cases same
    exact fun level => early _ hs (of_decide_eq_true level)
  · exact nomatch same

/-- After a patch that fails, the only report of an error is about a persistence failure. -/
theorem errorReports_patch {job : Int} {config : JobConfig} {failure : Failure} :
    errorReports (.called (.updateConfig job config) (.error failure) ::
      failureReports (fun _ => patchReport job) (.error failure : Except Failure Unit)) =
        if failure.isPersistence then [patchReport job] else [] := by
  rw [errorReports, events_called, failureReports]
  cases failure.isPersistence <;> rfl

/-- **What a creation owes when its patch fails**: one error is reported, in the context of the job, the failure is
raised again, and no cleanup is begun. -/
structure Announces (job : Int) (failure : Failure) (steps : List Step)
    (outcome : Except Failure (Option Int)) : Prop where
  /-- There is one report of an error, and it is in the context of the job. -/
  reported : ∃ event, errorReports steps = [event] ∧ event.context = jobContext job
  /-- The failure is that of the creation. -/
  raised : outcome = .error failure
  /-- The stores of states and requests are left alone. -/
  uncleaned : ∀ call ∈ calls steps, call.phase ≠ .cleaning

/-- **A patch that fails is announced exactly when it fails persistently.** Whatever the failure is, it is raised again,
and nothing is called after the patch; but when it is of another kind, no error is reported. -/
theorem announces_iff_of_patch_failed {job : Int} {config : JobConfig} {failure : Failure}
    (h : Runs (creation.attempt Program.surroundings.collaborators) steps outcome)
    (failed : .called (.updateConfig job config) (.error failure) ∈ steps) :
    outcome = .error failure ∧ (calls steps).getLast? = some (.updateConfig job config) ∧
      (∀ call ∈ calls steps, call.phase ≠ .cleaning) ∧
      errorReports steps = (if failure.isPersistence then [patchReport job] else []) ∧
      (Announces job failure steps outcome ↔ failure.isPersistence = true) := by
  cases patchCourse_of_runs h with
  | unpatched early => exact absurd failed early.notMem_patch
  | patched early cleaning =>
    obtain hs | hs := List.mem_append.mp failed
    · exact absurd hs early.notMem_patch
    · obtain same | ht := List.mem_cons.mp hs
      · exact nomatch same
      · exact nomatch cleaning _ (mem_calls.mpr ⟨_, ht⟩)
  | @failed s number patched other early =>
    obtain ⟨⟨rfl, rfl⟩, rfl⟩ : (job = number ∧ config = patched) ∧ failure = other := by
      simpa [early.notMem_patch] using failed
    have uncleaned : ∀ call ∈ calls (s ++ .called (.updateConfig job config) (.error failure) ::
        failureReports (fun _ => patchReport job) (.error failure : Except Failure Unit)), call.phase ≠ .cleaning := by
      rw [calls_append, calls_called, calls_failureReports]
      exact List.forall_mem_append.mpr ⟨early.uncleaned, List.forall_mem_singleton.mpr nofun⟩
    have reports : errorReports (s ++ .called (.updateConfig job config) (.error failure) ::
        failureReports (fun _ => patchReport job) (.error failure : Except Failure Unit)) =
          if failure.isPersistence then [patchReport job] else [] := by
      rw [errorReports_append, early.errorReports, errorReports_patch, List.nil_append]
    refine ⟨rfl, ?_, uncleaned, reports, fun announced => ?_, fun persistent => ?_⟩
    · rw [calls_append, calls_called, calls_failureReports, List.getLast?_concat]
    · obtain ⟨event, one, -⟩ := announced.reported
      by_contra other
      rw [reports, if_neg other] at one
      exact nomatch one
    · exact ⟨⟨patchReport job, by rw [reports, if_pos persistent], rfl⟩, rfl, uncleaned⟩

end Creation

/-- **A job that has gone cannot be patched**: where the update gives no row, the queue of the library rolls it back and
fails with that. -/
theorem Sql.leads_updateConfig_of_gone {job : Int} {config : JobConfig} {text : String}
    (written : config.text? = some text) :
    ((jobQueue Dialogue.engine).updateConfig job config).run.Leads
      [⟨.start .writing, .ok ()⟩, ⟨.execute (.updateConfig text job), .ok (idTable none)⟩, ⟨.finish .rollback, .ok ()⟩]
      (.done (.error (.jobNotFound job))) := by
  rw [run_updateConfig, updateDialogue, written]
  exact .ask (.ask (.ask (.here _)))

namespace UnstoredStamp

/-- The configuration of a sync with its stamped catalog. -/
def config : JobConfig :=
  .sync ((Services.syncConfig default MistypedSwitch.bundle).withCatalog
    ((default : JobInputs).connection.catalog.stamp default 5 []))

/-- The steps of a sync whose patch fails. -/
def steps (failure : Failure) : List Step :=
  MistypedSwitch.resolving ++
    Services.enqueueing default (.sync (Services.syncConfig default MistypedSwitch.bundle)) (some 5) ++
    [.called (activationCall default) (.ok true), .called (.currentGenerations default) (.ok default)] ++
    .called (.updateConfig 5 config) (.error failure) ::
      failureReports (fun _ => patchReport 5) (.error failure : Except Failure Unit)

/-- A write that fails. -/
def unwritten : Failure := .persistence "failed to update job config" (some (.fault .operational))

theorem runs_steps (failure : Failure) :
    Runs ((CreationCall.sync default).attempt Program.surroundings.collaborators) (steps failure) (.error failure) := by
  change Program.Leads _ _ _
  refine .call (.call (.call (.call (.call (.call (.call (.call (.call (.call (.call (.call (.call
    (.call (.report (.call (.call (.call ?_)))))))))))))))))
  -- What is left is the report, if there is one.
  cases failure with
  | persistence message cause => exact .report (.here _)
  | _ => exact .here _

/-- The write that fails is announced. -/
theorem announces_unwritten :
    Runs ((CreationCall.sync default).attempt Program.surroundings.collaborators) (steps unwritten)
        (.error unwritten) ∧
      Announces 5 unwritten (steps unwritten) (.error unwritten) := by
  have failed : .called (.updateConfig 5 config) (.error unwritten) ∈ steps unwritten :=
    List.mem_append_right _ List.mem_cons_self
  have run := runs_steps unwritten
  exact ⟨run, (announces_iff_of_patch_failed run failed).2.2.2.2.mpr rfl⟩

/-- **A job that has gone is not announced**: the queue finds no job to patch, the creation ends with that failure, and
no error is reported. -/
theorem not_announces_gone :
    (∃ exchanges, ((Sql.jobQueue Sql.Dialogue.engine).updateConfig 5 config).run.Leads exchanges
        (.done (.error (.jobNotFound 5)))) ∧
      Runs ((CreationCall.sync default).attempt Program.surroundings.collaborators) (steps (.jobNotFound 5))
        (.error (.jobNotFound 5)) ∧
      .called (.updateConfig 5 config) (.error (.jobNotFound 5)) ∈ steps (.jobNotFound 5) ∧
      errorReports (steps (.jobNotFound 5)) = [] ∧
      ¬Announces 5 (.jobNotFound 5) (steps (.jobNotFound 5)) (.error (.jobNotFound 5)) := by
  have silent : errorReports (steps (.jobNotFound 5)) = [] := rfl
  have written := JobConfig.text?_of_shallow (c := config) (by decide +kernel)
  have failed : .called (.updateConfig 5 config) (.error (.jobNotFound 5)) ∈ steps (.jobNotFound 5) :=
    List.mem_append_right _ List.mem_cons_self
  refine ⟨⟨_, Sql.leads_updateConfig_of_gone written⟩, runs_steps _, failed, silent, fun announced => ?_⟩
  obtain ⟨event, one, -⟩ := announced.reported
  exact nomatch silent.symm.trans one

end UnstoredStamp

end ConnectionJobs
