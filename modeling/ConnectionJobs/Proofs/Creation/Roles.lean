import ConnectionJobs.Proofs.Creation.Reach
import ConnectionJobs.Proofs.Job.Decoding
import ConnectionJobs.Proofs.Resource.Asking

/-!
# The roles of a job follow its kind

A reset reads from nowhere, so no container of it is a source. That a source takes part is decided twice while
resources are resolved, once for the flags and once for the roles, and the answer then passes through the bundle, the
configuration and the document unchanged. So it can be read off any of them: a role of the source is missing from the
bundle, it is not among the roles that are listed, and it is `null` in the document.

The lemmas go along this way, from the bundle to the document, and each is about every bundle or every configuration.
The kind of job enters at the end only, where a creation says whether it has a source.
-/

namespace ConnectionJobs

/-- **A source takes part** in a job that is no reset and has a live source. -/
theorem isSome_participatingSource {source : SourceSide} {isReset : Bool} :
    (participatingSource source isReset).isSome = true ↔ isReset = false ∧ ∃ definition, source = .live definition := by
  unfold participatingSource
  cases isReset <;> cases source <;> simp [SourceSide.definition?]

/-- The roles that a bundle lists are those it has quantities for. -/
theorem Bundle.map_fst_roles (b : Bundle) :
    b.roles.map Prod.fst = Role.all.filter fun role => (b.quantities? role).isSome := by
  rw [Bundle.roles, List.map_filterMap, ← List.filterMap_eq_filter]
  refine List.filterMap_congr fun role _ => ?_
  cases h : b.quantities? role <;> simp [h, Option.guard]

/-- **What the document of a configuration holds for a role.** -/
def JobConfig.roleMember? (config : JobConfig) (role : Role) : Option Json :=
  (Keyed.find? "sync_resource_requirements" config.toJson.heldMembers).bind fun bundle =>
    Keyed.find? role.name bundle.heldMembers

/-- The document holds the quantities of the role, or `null` when it has none. -/
theorem JobConfig.roleMember?_eq (config : JobConfig) (role : Role) :
    config.roleMember? role = some (Json.optional Quantities.toJson (config.resources.quantities? role)) := by
  cases config <;> cases role <;> rfl

/-! ## What is enqueued -/

section Enqueued

variable {creation : CreationCall} {steps : List Step}

/-- **What a creation enqueues** is the configuration of its kind, with the resources it has resolved, and all that it
asks about resources it asks while it resolves them. -/
theorem Reaches.enqueued {scope : String} {config : JobConfig} (reaches : Reaches creation steps)
    (enqueued : .enqueue scope config ∈ calls steps) :
    ∃ resources t, Runs creation.resolution t (.ok resources) ∧ config = creation.config resources ∧
      ∀ call ∈ calls steps, call.isResourceQuestion = true → call ∈ calls t := by
  cases reaches with
  | opening questions => exact nomatch questions _ enqueued
  | @queue s t u resources answer switches resolved rest =>
    simp only [calls_append, calls_called, List.mem_append, List.mem_cons] at enqueued ⊢
    refine ⟨resources, t, resolved, ?_, ?_⟩
    · obtain (hs | ht) | here | hu := enqueued
      · exact nomatch switches _ hs
      · exact nomatch questions_of_resolution resolved _ ht
      · exact (Call.enqueue.inj here).2
      · exact (rest _ hu).elim
    · rintro call ((hs | ht) | rfl | hu) question
      · obtain ⟨flag, context, rfl⟩ := switches call hs
        exact nomatch question
      · exact ht
      · exact nomatch question
      · rw [(rest call hu).isResourceQuestion] at question
        exact nomatch question

/-- **A reset has no source**, as far as its configuration and the steps of its creation tell. -/
structure Sourceless (config : ResetConfig) (steps : List Step) : Prop where
  /-- There are no quantities for the roles of the source. -/
  absent : ∀ role, role.isSource = true → config.resources.quantities? role = none
  /-- The roles that are listed are all the others. -/
  listed : config.resources.roles.map Prod.fst = Role.all.filter fun role => !role.isSource
  /-- In the document the roles of the source are `null`. -/
  null : ∀ role, role.isSource = true → (JobConfig.reset config).roleMember? role = some .null
  /-- The resources are keyed by no source type. -/
  untyped : config.resources.key.subType = none
  /-- The quantities that stand outside the bundle are those of the orchestrator. -/
  orchestrator : config.orchestratorQuantities = config.resources.orchestrator
  /-- No user has built the source. -/
  prebuilt : config.customSource = false
  /-- The override of the source is not asked for. -/
  unasked : ∀ context, .text .sourceOverrides context ∉ calls steps
  /-- No role of the source is looked up. -/
  unlooked : ∀ role subType variant, .defaults role subType variant ∈ calls steps → role.isSource = false

/-- The script of a reset asks for no override of a source. -/
theorem sourceOverrides_notMem_script {connection : Connection} {source : SourceSide} {destination : ConnectorDefinition}
    {key : BundleKey} (context : Flag.Context) :
    .text .sourceOverrides context ∉ resolutionScript connection source destination true key := by
  intro h
  have asked : Flag.sourceOverrides.key ∈ (Flag.asked source true).map Flag.key := by
    rw [← flags_resolutionScript key]
    exact List.mem_filterMap.mpr ⟨_, h, rfl⟩
  exact absurd asked (by decide : Flag.sourceOverrides.key ∉ [Flag.resourceVariant.key, Flag.orchestratorOverrides.key,
    Flag.destinationOverrides.key])

/-- The script of a reset looks up no role of a source. -/
theorem isSource_of_mem_script {connection : Connection} {source : SourceSide} {destination : ConnectorDefinition}
    {key : BundleKey} {role : Role} {subType : Option String} {variant : String}
    (h : .defaults role subType variant ∈ resolutionScript connection source destination true key) :
    role.isSource = false := by
  have looked : role ∈ Role.lookedUp source true := by
    rw [← roles_resolutionScript key]
    exact List.mem_filterMap.mpr ⟨_, h, rfl⟩
  have others : ∀ role ∈ [Role.orchestrator, .destination, .destinationStdin, .destinationStdout, .destinationStderr,
    .heartbeat], role.isSource = false := by decide
  exact others role looked

/-- **A reset that is resolved has no source.** -/
theorem sourceless_of_resolved {connection : Connection} {destination : ConnectorDefinition} {image : ConnectorImage}
    {streams : List StreamId} {resources : Bundle} {steps t : List Step}
    (resolved : Runs (CreationCall.resolution (.reset connection destination image streams)) t (.ok resources))
    (asked : ∀ call ∈ calls steps, call.isResourceQuestion = true → call ∈ calls t) :
    Sourceless (buildReset connection destination image resources streams) steps := by
  obtain ⟨untyped, script, present⟩ := shape_of_resolved resolved
  have absent : ∀ role, role.isSource = true → resources.quantities? role = none := fun role source => by
    rw [← Option.not_isSome_iff_eq_none, present role, source]
    exact Bool.false_ne_true
  refine ⟨absent, ?_, fun role source => ?_, untyped, rfl, rfl, fun context hm => ?_, fun role subType variant hm => ?_⟩
  · rw [Bundle.map_fst_roles]
    refine List.filter_congr fun role _ => ?_
    rw [show (buildReset connection destination image resources streams).resources = resources from rfl, present role]
    exact Bool.or_false _
  · rw [JobConfig.roleMember?_eq]
    exact congrArg (some ∘ Json.optional Quantities.toJson) (absent role source)
  · exact sourceOverrides_notMem_script context (script ▸ asked _ hm rfl)
  · exact isSource_of_mem_script (script ▸ asked _ hm rfl)

/-- **A sync or a refresh that is resolved has every role.** -/
theorem map_fst_roles_of_resolved {resources : Bundle} {t : List Step} (live : creation.isReset = false)
    (resolved : Runs creation.resolution t (.ok resources)) : resources.roles.map Prod.fst = Role.all := by
  have present : (participatingSource creation.source creation.isReset).isSome = true := by
    cases creation with
    | sync inputs => rfl
    | refresh inputs requests => rfl
    | reset connection destination image streams => exact nomatch live
  rw [Bundle.map_fst_roles, List.filter_eq_self]
  intro role _
  rw [(shape_of_resolved resolved).2.2 role, present, Bool.or_true]

/-- **The roles of the source follow the kind of job**, whatever the ports do. The configuration that a reset puts into
the queue has no source in any form, and one of a sync or a refresh has all roles. In general a resolution answers all
roles of the source or none of them: all when the job is no reset and there is a source, and none otherwise. -/
theorem sourceRoles_follow_kind :
    (∀ creation steps outcome scope config,
      Runs (CreationCall.attempt Program.surroundings.collaborators creation) steps outcome →
        .enqueue scope config ∈ calls steps →
        (creation.isReset = true → ∃ reset, config = .reset reset ∧ Sourceless reset steps) ∧
          (creation.isReset = false → config.resources.roles.map Prod.fst = Role.all)) ∧
    ∀ connection source destination isReset steps bundle,
      Runs (resolveResources Program.surroundings.log Program.surroundings.flags Program.surroundings.defaults connection
        source destination isReset) steps (.ok bundle) →
      ∀ role, role.isSource = true →
        ((bundle.quantities? role).isSome = true ↔ isReset = false ∧ ∃ definition, source = .live definition) := by
  refine ⟨fun creation steps outcome scope config runs enqueued => ?_,
    fun connection source destination isReset steps bundle runs role isSource => ?_⟩
  · obtain ⟨resources, t, resolved, rfl, asked⟩ := (reaches_of_runs runs).enqueued enqueued
    cases creation with
    | sync inputs => exact ⟨nofun, fun live => map_fst_roles_of_resolved live resolved⟩
    | refresh inputs requests => exact ⟨nofun, fun live => map_fst_roles_of_resolved live resolved⟩
    | reset connection destination image streams =>
      exact ⟨fun _ => ⟨_, rfl, sourceless_of_resolved resolved asked⟩, nofun⟩
  · rw [(shape_of_resolved runs).2.2 role, isSource]
    exact isSome_participatingSource

end Enqueued

/-! ## A reset and a sync -/

namespace LargeReset

/-- The configuration of the reset. -/
def config : ResetConfig := buildReset default default default bundle []

/-- The steps of the whole reset. -/
def created : List Step := steps ++ Services.enqueueing default (.reset config) (some 1)

theorem runs_created :
    Runs (CreationCall.attempt Program.surroundings.collaborators (.reset default default default [])) created
      (.ok (some 1)) := by
  change Program.Leads _ _ _
  exact .call (.call (.call (.call (.call (.call (.call (.call (.call (.call (.report (.here _)))))))))))

/-- This reset has no source, and the sync whose switch is a text has all roles. -/
theorem sourceRoles_created :
    (Runs (CreationCall.attempt Program.surroundings.collaborators (.reset default default default [])) created
        (.ok (some 1)) ∧ ∃ reset, JobConfig.reset config = .reset reset ∧ Sourceless reset created) ∧
      (Runs (CreationCall.attempt Program.surroundings.collaborators (.sync default)) MistypedSwitch.steps
          (.error (.mistypedFlag MistypedSwitch.mistyped)) ∧ MistypedSwitch.bundle.roles.map Prod.fst = Role.all) ∧
        (bundle.quantities? .source).isSome = false := by
  have reset : .enqueue (default : Uuid).text (.reset config) ∈ calls created :=
    mem_calls.mpr ⟨_, List.mem_append_right _ List.mem_cons_self⟩
  have sync : .enqueue (default : Uuid).text (.sync (Services.syncConfig default MistypedSwitch.bundle)) ∈
      calls MistypedSwitch.steps :=
    mem_calls.mpr ⟨_, List.mem_append_left _ (List.mem_append_right _ List.mem_cons_self)⟩
  have source := sourceRoles_follow_kind.2 default (.absent "reset") default true steps bundle runs_steps .source rfl
  exact ⟨⟨runs_created, (sourceRoles_follow_kind.1 _ _ _ _ _ runs_created reset).1 rfl⟩,
    ⟨MistypedSwitch.runs_steps, (sourceRoles_follow_kind.1 _ _ _ _ _ MistypedSwitch.runs_steps sync).2 rfl⟩,
    Bool.eq_false_iff.mpr fun present => nomatch (source.mp present).1⟩

end LargeReset

end ConnectionJobs
