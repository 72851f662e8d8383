import ConnectionJobs.Proofs.Generation.Recording
import ConnectionJobs.Proofs.Resource.Asking

/-!
# Creations whose configuration fails

Before a job is made, flags and resource defaults are asked, and a question can fail: an operator may have set a
switch to a text. A refresh and a reset ask everything before they turn to the queue, so a mistake in the
configuration costs them nothing but the job. A sync asks one thing late. Whether refreshes are enabled matters to
it only when its catalog is to be stamped, and by then the job is in the queue; when that question fails, the
caller gets the failure and never learns the number of the job.

Creations run here with all their own components (`Services.configured`), over flags and defaults that may answer
anything. A static configuration, which answers from a flag table and a defaults catalog, is one of these.
-/

namespace ConnectionJobs

/-- **A question about the configuration**: a flag, or the defaults of a role. -/
def Call.isConfiguration : Call → Bool
  | switch _ _ | text _ _ | defaults _ _ _ => true
  | _ => false

/-- The questions that resources depend on: all but the switches. -/
def Call.isResourceQuestion : Call → Bool
  | text _ _ | defaults _ _ _ => true
  | _ => false

/-- **The answers of a static configuration**: flags come from a table, and defaults from a catalog. -/
structure Configured (table : FlagTable) (catalog : DefaultsCatalog) (steps : List Step) : Prop where
  /-- A switch is the table's, and so is its failure. -/
  switch : ∀ flag context answer, .called (.switch flag context) answer ∈ steps →
    answer = (table.evaluateSwitch flag context).mapError .mistypedFlag
  /-- A text is the table's, and so is its failure. -/
  text : ∀ flag context answer, .called (.text flag context) answer ∈ steps →
    answer = (table.evaluateText flag context).mapError .mistypedFlag
  /-- Defaults are the catalog's. -/
  defaults : ∀ role subType variant answer, .called (.defaults role subType variant) answer ∈ steps →
    answer = .ok (catalog.lookup role subType variant)

/-- The question whether refreshes are enabled for the connection of a job. -/
abbrev activationCall (inputs : JobInputs) : Call :=
  .switch Flag.activateRefreshes (eligibilityContext (some inputs.connection.workspaceId)
    (some inputs.connection.connectionId) (some inputs.source.definitionId) (some inputs.destination.definitionId))

/-- Some steps put a job into the queue, or try to. -/
def Enqueues (steps : List Step) : Prop := ∃ scope config, Call.enqueue scope config ∈ calls steps

/-! ## Attempts that make calls of one kind -/

/-- **An attempt makes only calls of a kind**, and a call of it that fails fails the attempt. -/
structure Confined {α : Type} (kind : Call → Bool) (attempt : Attempt Program α) : Prop where
  /-- The calls are of the kind. -/
  made : ∀ {steps outcome}, Runs attempt steps outcome → ∀ call ∈ calls steps, kind call = true
  /-- A failure of a call is the failure of the attempt. -/
  failed : ∀ {steps outcome}, Runs attempt steps outcome →
    ∀ call failure, .called call (.error failure) ∈ steps → outcome = .error failure

section Confined

variable {α β : Type} {kind : Call → Bool}

theorem Confined.bind {m : Attempt Program α} {f : α → Attempt Program β} (hm : Confined kind m)
    (hf : ∀ a, Confined kind (f a)) : Confined kind (m >>= f) where
  made h call hc := by
    obtain ⟨_, h, -⟩ | ⟨a, s, t, hs, ht, rfl⟩ := runs_bind.mp h
    · exact hm.made h call hc
    · rw [calls_append, List.mem_append] at hc
      exact hc.elim (hm.made hs call) ((hf a).made ht call)
  failed h call failure hc := by
    obtain ⟨_, first, rfl⟩ | ⟨a, s, t, hs, ht, rfl⟩ := runs_bind.mp h
    · cases hm.failed first call failure hc
      rfl
    · obtain hc | hc := List.mem_append.mp hc
      · exact nomatch hm.failed hs call failure hc
      · exact (hf a).failed ht call failure hc

/-- An attempt that follows a script of one kind makes only calls of the kind. -/
theorem Scripted.confined {script : List Call} {attempt : Attempt Program α} (scripted : Scripted script attempt)
    (all : ∀ call ∈ script, kind call = true) : Confined kind attempt where
  made h call hm := all call ((scripted.made h).subset hm)
  failed h := scripted.fails h

end Confined

/-! ## The components -/

/-- **Resources depend on texts and defaults only**: the scripts of a resolution hold nothing else. -/
theorem confined_resolveResources (connection : Connection) (source : SourceSide) (destination : ConnectorDefinition)
    (isReset : Bool) :
    Confined Call.isResourceQuestion (resolveResources Program.surroundings.log Program.surroundings.flags
      Program.surroundings.defaults connection source destination isReset) := by
  refine ((scripted_assemblePolicy connection source destination isReset).confined ?_).bind fun policy =>
    (scripted_resolveWith connection source destination isReset policy).confined ?_
  · intro call hm
    obtain ⟨flag, -, rfl⟩ := List.mem_map.mp hm
    rfl
  · intro call hm
    obtain ⟨role, -, rfl⟩ := List.mem_map.mp hm
    rfl

/-- **Creations with all their own components**, over ports that decide nothing. -/
def Services.configured : Services Program where
  resolve := Program.surroundings.collaborators.resolve
  isEligible := Program.surroundings.collaborators.isEligible
  stamp := Program.surroundings.collaborators.stamp
  bump := Program.surroundings.collaborators.bump
  clearCursors := Program.surroundings.collaborators.clearCursors

/-! ## Creations that no question disturbs

Once the queue is asked, only the stores are, and no failure of theirs is about the configuration. -/

/-- **No question about the configuration fails** among some steps. -/
def Undisturbed (steps : List Step) : Prop :=
  ∀ call failure, .called call (.error failure) ∈ steps → call.isConfiguration = false

section Undisturbed

variable {s t : List Step}

theorem Undisturbed.append (hs : Undisturbed s) (ht : Undisturbed t) : Undisturbed (s ++ t) :=
  fun call failure h => (List.mem_append.mp h).elim (hs call failure) (ht call failure)

theorem undisturbed_nil : Undisturbed [] := fun _ _ h => absurd h List.not_mem_nil

theorem Undisturbed.reported {event : Log.Event} (ht : Undisturbed t) : Undisturbed (.reported event :: t) := by
  intro call failure h
  exact ht call failure ((List.mem_cons.mp h).resolve_left nofun)

/-- Calls on stores have nothing to do with the configuration. -/
theorem Undisturbed.called {call : Call} {answer : Except Failure call.Answer} (hc : call.isConfiguration = false)
    (ht : Undisturbed t) : Undisturbed (.called call answer :: t) := by
  intro other failure h
  obtain h | h := List.mem_cons.mp h
  · cases h
    exact hc
  · exact ht other failure h

theorem undisturbed_failureReports {α : Type} (report : Failure → Log.Event) (result : Except Failure α) :
    Undisturbed (failureReports report result) := by
  intro call failure h
  have := mem_calls.mpr ⟨_, h⟩
  rw [calls_failureReports] at this
  exact absurd this List.not_mem_nil

/-- An attempt that answers is undisturbed: a question that fails would fail it. -/
theorem Confined.undisturbed {α : Type} {kind : Call → Bool} {attempt : Attempt Program α} {a : α}
    (confined : Confined kind attempt) (h : Runs attempt s (.ok a)) : Undisturbed s :=
  fun call failure hm => nomatch confined.failed h call failure hm

end Undisturbed

namespace Services

variable {inputs : JobInputs} {requests : List RefreshRequest} {resources : Bundle} {job : Int}
  {steps : List Step} {connection : Uuid}

theorem undisturbed_enqueueing (config : JobConfig) (answer : Option Int) :
    Undisturbed (enqueueing connection config answer) :=
  .called rfl (.reported undisturbed_nil)

theorem undisturbed_bump {outcome : Except Failure Unit}
    (h : Runs (configured.bump connection job requests) steps outcome) : Undisturbed steps := by
  cases bumpCourse_of_runs h with
  | idle _ => exact undisturbed_nil
  | unread => exact .called rfl undisturbed_nil
  | handed => exact .called rfl (.called rfl undisturbed_nil)

theorem undisturbed_stamp {catalog : Catalog} {outcome : Except Failure Catalog}
    (h : Runs (configured.stamp catalog connection job requests) steps outcome) : Undisturbed steps := by
  obtain ⟨_, rfl, -⟩ | ⟨_, rfl, -⟩ := runs_stampCatalog.mp h
  · exact .called rfl undisturbed_nil
  · exact .called rfl undisturbed_nil

theorem undisturbed_clearCursors {state : SavedState} {outcome : Except Failure Unit}
    (h : Runs (configured.clearCursors connection state requests) steps outcome) : Undisturbed steps := by
  change Runs (ConnectionJobs.clearCursors _ _ connection state requests) steps outcome at h
  unfold ConnectionJobs.clearCursors at h
  split at h
  · obtain ⟨rfl, -⟩ := runs_log.mp h
    exact .reported undisturbed_nil
  all_goals
    obtain rfl := runs_ask.mp h
    exact .called rfl undisturbed_nil

theorem Deletions.undisturbed {outcome : Except Failure Unit} (h : Deletions connection requests steps outcome) :
    Undisturbed steps := by
  have one : ∀ request result, Undisturbed (deletion connection request result) := fun request result =>
    .called rfl (undisturbed_failureReports _ result)
  induction h with
  | done => exact undisturbed_nil
  | stopped _ => exact one _ _
  | next _ _ ih => exact (one _ _).append ih

theorem CleanUp.undisturbed {outcome : Except Failure Unit}
    (h : CleanUp configured connection requests steps outcome) : Undisturbed steps := by
  have cursors : ∀ {s result}, Runs (configured.collaborators.clearSavedCursors connection requests) s result →
      Undisturbed (s ++ failureReports (stateReport connection) result) := fun h => by
    refine .append ?_ (undisturbed_failureReports _ _)
    obtain ⟨_, -, rfl⟩ | ⟨-, rfl⟩ | ⟨_, _, hs, rfl⟩ := runs_clearSavedCursors.mp h
    · exact .called rfl undisturbed_nil
    · exact .called rfl undisturbed_nil
    · exact .called rfl (undisturbed_clearCursors hs)
  cases h with
  | stopped h _ => exact cursors h
  | next h _ deletions => exact (cursors h).append deletions.undisturbed

/-- The gate asks one question, the switch that enables refreshes. -/
theorem runs_gate {answer : Except Failure Bool} :
    Runs (configured.collaborators.isEligibleFor inputs) steps answer ↔
      steps = [.called (activationCall inputs) answer] :=
  runs_ask

theorem undisturbed_gate {eligible : Bool}
    (h : Runs (configured.collaborators.isEligibleFor inputs) steps (.ok eligible)) : Undisturbed steps := by
  obtain rfl := runs_gate.mp h
  intro call failure hm
  exact nomatch List.mem_singleton.mp hm

theorem Opened.undisturbed (h : Opened configured inputs resources steps) : Undisturbed steps := by
  obtain ⟨gate, resolution⟩ := h
  exact (undisturbed_gate gate).append ((confined_resolveResources _ _ _ _).undisturbed resolution)

theorem Enqueued.undisturbed (h : Enqueued configured inputs requests resources job steps) :
    Undisturbed steps := by
  obtain ⟨opened⟩ := h
  exact opened.undisturbed.append (undisturbed_enqueueing _ _)

theorem Stamped.undisturbed {catalog : Catalog}
    (h : Stamped configured inputs requests resources job catalog steps) : Undisturbed steps := by
  obtain ⟨⟨enqueued, bump⟩, stamp⟩ := h
  exact (enqueued.undisturbed.append (undisturbed_bump bump)).append (undisturbed_stamp stamp)

/-! ## Where a question can fail -/

/-- **The steps of a resolution that fails** are questions, and the one that failed fails it. -/
theorem questions_of_unresolved {connection : Connection} {source : SourceSide} {destination : ConnectorDefinition}
    {isReset : Bool} {failure : Failure}
    (h : Runs (configured.resolve connection source destination isReset) steps (.error failure)) :
    (∀ call ∈ calls steps, call.isResourceQuestion = true) ∧
      ∀ call other, .called call (.error other) ∈ steps → other = failure :=
  have confined := confined_resolveResources connection source destination isReset
  ⟨confined.made h, fun call other hm => by cases confined.failed h call other hm; rfl⟩

/-- **A refresh is disturbed before it turns to the queue**, and ends there. -/
theorem RefreshCourse.disturbed {outcome : Except Failure (Option Int)}
    (h : RefreshCourse configured inputs requests steps outcome) :
    Undisturbed steps ∨ ¬ Enqueues steps ∧
      ∀ call failure, .called call (.error failure) ∈ steps → outcome = .error failure := by
  cases h with
  | gateFailed gate =>
    obtain rfl := runs_gate.mp gate
    refine .inr ⟨?_, fun call failure hm => ?_⟩
    · rintro ⟨_, _, hm⟩
      exact nomatch List.mem_singleton.mp hm
    · cases List.mem_singleton.mp hm
      rfl
  | refused gate => exact .inl (undisturbed_gate gate)
  | unresolved gate resolution =>
    obtain rfl := runs_gate.mp gate
    obtain ⟨questions, failed⟩ := questions_of_unresolved resolution
    refine .inr ⟨?_, fun call failure hm => ?_⟩
    · rintro ⟨scope, config, hm⟩
      rw [List.singleton_append, calls_called] at hm
      exact nomatch questions _ ((List.mem_cons.mp hm).resolve_left nofun)
    · rw [failed call failure ((List.mem_cons.mp hm).resolve_left nofun)]
  | queueFailed opened => exact .inl (opened.undisturbed.append (.called rfl undisturbed_nil))
  | lost opened => exact .inl (opened.undisturbed.append (undisturbed_enqueueing _ _))
  | bumpFailed enqueued bump => exact .inl (enqueued.undisturbed.append (undisturbed_bump bump))
  | stampFailed bumped stamp =>
    obtain ⟨enqueued, bump⟩ := bumped
    exact .inl ((enqueued.undisturbed.append (undisturbed_bump bump)).append (undisturbed_stamp stamp))
  | patchFailed stamped => exact .inl (stamped.undisturbed.append (.called rfl (undisturbed_failureReports _ _)))
  | patched stamped cleanUp => exact .inl (stamped.undisturbed.append (.called rfl cleanUp.undisturbed))

/-- A reset is disturbed before it turns to the queue, and ends there. -/
theorem disturbed_createReset {connection : Connection} {destination : ConnectorDefinition} {image : ConnectorImage}
    {streams : List StreamId} {outcome : Except Failure (Option Int)}
    (h : Runs (configured.collaborators.createReset connection destination image streams) steps outcome) :
    Undisturbed steps ∨ ¬ Enqueues steps ∧
      ∀ call failure, .called call (.error failure) ∈ steps → outcome = .error failure := by
  rw [Collaborators.createReset, runs_bind] at h
  obtain ⟨_, h, rfl⟩ | ⟨_, s, t, hs, ht, rfl⟩ := h
  · obtain ⟨questions, failed⟩ := questions_of_unresolved h
    refine .inr ⟨?_, fun call failure hm => by rw [failed call failure hm]⟩
    rintro ⟨scope, config, hm⟩
    exact Bool.false_ne_true (questions _ hm)
  · have resolved : Undisturbed s := (confined_resolveResources _ _ _ _).undisturbed hs
    obtain ⟨_, -, rfl⟩ | ⟨_, -, rfl⟩ := runs_enqueue.mp ht
    · exact .inl (resolved.append (.called rfl undisturbed_nil))
    · exact .inl (resolved.append (undisturbed_enqueueing _ _))

theorem SyncEnqueued.undisturbed (h : SyncEnqueued configured inputs resources job steps) :
    Undisturbed steps ∧ Enqueues steps := by
  obtain ⟨resolution⟩ := h
  refine ⟨((confined_resolveResources _ _ _ _).undisturbed resolution).append (undisturbed_enqueueing _ _), ?_⟩
  exact ⟨_, _, mem_calls.mpr ⟨_, List.mem_append_right _ List.mem_cons_self⟩⟩

/-- **A sync is disturbed at one of two places**: while it resolves its resources, which are no switches, or, with
its job in the queue, by the switch that enables refreshes. -/
theorem SyncCourse.disturbed {outcome : Except Failure (Option Int)}
    (h : SyncCourse configured inputs steps outcome) :
    Undisturbed steps ∨
      ((∀ call ∈ calls steps, call.isResourceQuestion = true) ∧
        ∀ call failure, .called call (.error failure) ∈ steps → outcome = .error failure) ∨
      ∃ s failure, Undisturbed s ∧ Enqueues s ∧ outcome = .error failure ∧
        steps = s ++ [.called (activationCall inputs) (.error failure)] := by
  cases h with
  | unresolved resolution =>
    obtain ⟨questions, failed⟩ := questions_of_unresolved resolution
    exact .inr (.inl ⟨questions, fun call failure hm => by rw [failed call failure hm]⟩)
  | queueFailed resolution =>
    exact .inl (((confined_resolveResources _ _ _ _).undisturbed resolution).append (.called rfl undisturbed_nil))
  | lost resolution =>
    exact .inl (((confined_resolveResources _ _ _ _).undisturbed resolution).append (undisturbed_enqueueing _ _))
  | gateFailed enqueued gate =>
    obtain rfl := runs_gate.mp gate
    exact .inr (.inr ⟨_, _, enqueued.undisturbed.1, enqueued.undisturbed.2, rfl, rfl⟩)
  | unstamped enqueued gate =>
    exact .inl ((enqueued.undisturbed.1.append (undisturbed_gate gate)).append (.reported undisturbed_nil))
  | stampFailed enqueued gate stamp =>
    exact .inl ((enqueued.undisturbed.1.append (undisturbed_gate gate)).append (undisturbed_stamp stamp))
  | stamped enqueued gate stamp =>
    exact .inl (((enqueued.undisturbed.1.append (undisturbed_gate gate)).append (undisturbed_stamp stamp)).append
      (.called rfl (undisturbed_failureReports _ _)))

end Services

/-- Over a static configuration, the activation switch fails when the flag table holds something else than a switch. -/
theorem Configured.mistyped {table : FlagTable} {catalog : DefaultsCatalog} {steps : List Step} {inputs : JobInputs}
    {failure : Failure} (static : Configured table catalog steps)
    (failed : .called (activationCall inputs) (.error failure) ∈ steps) :
    ∃ context mistyped, table.evaluateSwitch Flag.activateRefreshes context = .error mistyped ∧
      failure = .mistypedFlag mistyped := by
  have answer := static.switch _ _ _ failed
  cases result : table.evaluateSwitch Flag.activateRefreshes _ with
  | ok on =>
    rw [result] at answer
    exact nomatch answer
  | error mistyped =>
    rw [result] at answer
    cases answer
    exact ⟨_, mistyped, result, rfl⟩

/-- **When a configuration that fails leaves a job behind.** A question about the configuration that fails, a flag
or a default, is the failure of the creation. The queue has been asked by then in one case only: the creation is a
sync, and the question is whether refreshes are enabled. Over a static configuration, that takes a flag table which
holds something else than a switch for this flag. -/
theorem enqueues_iff_of_configuration_failed {creation : CreationCall} {steps : List Step}
    {outcome : Except Failure (Option Int)} {call : Call} {failure : Failure}
    (runs : Runs (creation.attempt Program.surroundings.collaborators) steps outcome)
    (failed : .called call (.error failure) ∈ steps) (configuration : call.isConfiguration = true) :
    outcome = .error failure ∧
      (Enqueues steps ↔ ∃ inputs, creation = .sync inputs ∧ call = activationCall inputs) ∧
      ∀ table catalog, Configured table catalog steps → Enqueues steps →
        ∃ context mistyped, table.evaluateSwitch Flag.activateRefreshes context = .error mistyped ∧
          failure = .mistypedFlag mistyped := by
  have disturbed : ¬ Undisturbed steps := fun h => by
    rw [h call failure failed] at configuration
    exact nomatch configuration
  suffices main : outcome = .error failure ∧
      (Enqueues steps ↔ ∃ inputs, creation = .sync inputs ∧ call = activationCall inputs) by
    refine ⟨main.1, main.2, fun table catalog static enqueues => ?_⟩
    obtain ⟨inputs, -, rfl⟩ := main.2.mp enqueues
    exact static.mistyped failed
  cases creation with
  | sync inputs =>
    obtain h | ⟨questions, ends⟩ | ⟨s, other, quiet, enqueues, rfl, rfl⟩ :=
      (Services.syncCourse_of_runs (k := Services.configured) runs).disturbed
    · exact absurd h disturbed
    · refine ⟨ends call failure failed, ?_, ?_⟩
      · rintro ⟨_, _, hm⟩
        exact nomatch questions _ hm
      · rintro ⟨_, -, rfl⟩
        exact nomatch questions _ (mem_calls.mpr ⟨_, failed⟩)
    · obtain before | last := List.mem_append.mp failed
      · rw [quiet call failure before] at configuration
        exact nomatch configuration
      · cases List.mem_singleton.mp last
        obtain ⟨scope, config, hm⟩ := enqueues
        refine ⟨rfl, fun _ => ⟨inputs, rfl, rfl⟩, fun _ => ⟨scope, config, ?_⟩⟩
        rw [calls_append]
        exact List.mem_append_left _ hm
  | refresh inputs requests =>
    have course := Services.refreshCourse_of_runs (k := Services.configured) runs
    obtain ⟨unasked, ends⟩ := course.disturbed.resolve_left disturbed
    exact ⟨ends call failure failed, fun h => absurd h unasked, fun ⟨_, h, _⟩ => nomatch h⟩
  | reset connection destination image streams =>
    obtain ⟨unasked, ends⟩ := (Services.disturbed_createReset runs).resolve_left disturbed
    exact ⟨ends call failure failed, fun h => absurd h unasked, fun ⟨_, h, _⟩ => nomatch h⟩

/-! ## A switch set to a text -/

namespace MistypedSwitch

/-- A flag table in which the switch that enables refreshes is a text. -/
def table : FlagTable := ⟨[(Flag.activateRefreshes.key, .text "yes")], []⟩

/-- A catalog without entries. -/
def catalog : DefaultsCatalog := ⟨default, []⟩

/-- What the table does to the switch. -/
def mistyped : Flag.Mistyped := ⟨Flag.activateRefreshes.key, .text "yes"⟩

/-- The resources of a sync job, none of which is set. -/
def bundle : Bundle :=
  { (default : Bundle) with
    key := ⟨"default", none⟩, source := some default, sourceStdout := some default, sourceStderr := some default }

/-- The flags that a sync job reads its resources from, and their texts. -/
def texts : List (Flag String × String) :=
  [(.sourceOverrides, ""), (.resourceVariant, "default"), (.orchestratorOverrides, ""), (.destinationOverrides, "")]

/-- The roles of a sync job, in the order in which their defaults are asked for. -/
def roles : List Role :=
  [.orchestrator, .destination, .source, .sourceStdout, .sourceStderr, .destinationStdin, .destinationStdout,
    .destinationStderr, .heartbeat]

/-- The steps of a sync whose resources are resolved. -/
def resolving : List Step :=
  texts.map (fun (flag, text) => .called (.text flag (resourceContext default (.live default) default)) (.ok text)) ++
    roles.map fun role => .called (.defaults role none "default") (.ok (default : Quantities))

/-- **A sync that leaves its job behind.** -/
def steps : List Step :=
  resolving ++ Services.enqueueing default (.sync (Services.syncConfig default bundle)) (some 1) ++
    [.called (activationCall default) (.error (.mistypedFlag mistyped))]

theorem runs_steps :
    Runs ((CreationCall.sync default).attempt Program.surroundings.collaborators) steps
      (.error (.mistypedFlag mistyped)) := by
  change Program.Leads _ _ _
  exact .call (.call (.call (.call (.call (.call (.call (.call (.call (.call (.call (.call (.call
    (.call (.report (.call (.here _))))))))))))))))

/-- The table and the catalog have answered every question. -/
theorem configured_steps : Configured table catalog steps where
  switch flag context answer h := by
    obtain ⟨⟨rfl, rfl⟩, rfl⟩ : (flag = _ ∧ context = _) ∧ answer = _ := by
      simpa [steps, resolving, texts, roles] using h
    rfl
  text flag context answer h := by
    obtain ⟨entry, he, rfl, rfl, rfl⟩ : ∃ entry ∈ texts, flag = entry.1 ∧
        context = resourceContext default (.live default) default ∧ answer = .ok entry.2 := by
      simp [steps, resolving, texts, roles] at h ⊢
      tauto
    simp only [texts, List.mem_cons, List.not_mem_nil, or_false] at he
    obtain rfl | rfl | rfl | rfl := he <;> rfl
  defaults role subType variant answer h := by
    obtain ⟨rfl, rfl, rfl⟩ : subType = none ∧ variant = "default" ∧ answer = .ok default := by
      simp [steps, resolving, texts, roles] at h
      tauto
    rfl

/-- **A static configuration can leave a job behind.** -/
theorem exists_enqueues_of_configuration_failed :
    ¬ ∀ (creation : CreationCall) (table : FlagTable) (catalog : DefaultsCatalog) (steps : List Step)
      (outcome : Except Failure (Option Int)) (call : Call) (failure : Failure),
      Runs (creation.attempt Program.surroundings.collaborators) steps outcome → Configured table catalog steps →
        .called call (.error failure) ∈ steps → call.isConfiguration = true → ¬ Enqueues steps := by
  intro never
  have failed : .called (activationCall default) (.error (.mistypedFlag mistyped)) ∈ steps :=
    List.mem_append_right _ List.mem_cons_self
  have taken : Enqueues steps :=
    ⟨_, _, mem_calls.mpr ⟨_, List.mem_append_left _ (List.mem_append_right _ List.mem_cons_self)⟩⟩
  exact never _ table catalog steps _ _ _ runs_steps configured_steps failed rfl taken

/-- The caller of this sync gets the failure of the switch, and its job is in the queue. -/
theorem enqueues_mistypedSwitch :
    Runs ((CreationCall.sync default).attempt Program.surroundings.collaborators) steps
        (.error (.mistypedFlag mistyped)) ∧ Enqueues steps := by
  have failed : .called (activationCall default) (.error (.mistypedFlag mistyped)) ∈ steps :=
    List.mem_append_right _ List.mem_cons_self
  obtain ⟨-, left, -⟩ := enqueues_iff_of_configuration_failed runs_steps failed rfl
  exact ⟨runs_steps, left.mpr ⟨default, rfl, rfl⟩⟩

end MistypedSwitch

end ConnectionJobs
