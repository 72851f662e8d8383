import ConnectionJobs.Proofs.Flag.Precedence
import ConnectionJobs.Proofs.Resource.Merging
import ConnectionJobs.Resource.Resolution

/-!
# The precedence of resource tiers

Where a quantity of a role comes from is decided in several places: a flag table gives texts, a text says what is
overridden, a definition declares requirements, a catalog falls back from one entry to another, and tiers are merged
twice. Put together they say something simple. Every role has one list of tiers (`roleTiers`), and each of its six
quantities is the first one set in that list.

Flags and defaults are answered from tables here, over any lawful effect. All that a resolution does then is to
report malformed overrides, and it always answers.
-/

namespace ConnectionJobs

/-! ## Tiers -/

/-- **The flags that resources depend on.** -/
def Flag.resources : List (Flag String) :=
  [sourceOverrides, resourceVariant, orchestratorOverrides, destinationOverrides]

/-- **A table holds texts** under a key: what it has for the flag, and for single entities, is well typed. -/
structure FlagTable.HoldsTexts (table : FlagTable) (key : String) : Prop where
  /-- The value is a text. -/
  value : ∀ value, Keyed.find? key table.values = some value → ∃ text, value = .text text
  /-- The overrides are texts. -/
  override : ∀ entries label value, Keyed.find? key table.overrides = some entries →
    Keyed.find? label entries = some value → ∃ text, value = .text text

/-- **The text a table has for a flag**: the override of the most specific entity, or else the value, or else the
default. -/
def FlagTable.textFor (table : FlagTable) (flag : Flag String) (context : Flag.Context) : String :=
  (((table.override? flag.key context).or (Keyed.find? flag.key table.values)).bind FlagValue.text?).getD flag.fallback

/-- **The runtime override** in a text, which is nothing when the text is blank or malformed. -/
def overrideTier (payload : String) : Option Quantities :=
  if Text.isBlankText payload then none
  else
    match decodeText Decoder.override payload with
    | .valid q => some q
    | .invalid _ => none

/-- **What a definition declares** for sync jobs: its first entry for them, and then its quantities for all jobs. -/
def declaredTiers (definition : Option ConnectorDefinition) : List (Option Quantities) :=
  let requirements := definition.bind (·.requirements)
  [requirements.bind fun r => (r.perJobType.find? fun entry => entry.1 == .sync).map Prod.snd,
    requirements.bind (·.general)]

namespace DefaultsCatalog

/-- The entry at one place of the catalog. -/
def entryAt (c : DefaultsCatalog) (variant : String) (role : Role) (subType : String) : Option Quantities :=
  ((Keyed.find? variant c.variants).bind (Keyed.find? role.name)).bind (Keyed.find? subType)

/-- **The entry found** in four steps: first the variant is held on to, and then the source type. -/
def entryTier (c : DefaultsCatalog) (role : Role) (subType variant : String) : Option Quantities :=
  (c.entryAt variant role subType).or <| (c.entryAt variant role "default").or <|
    (c.entryAt "default" role subType).or <| c.entryAt "default" role "default"

end DefaultsCatalog

section Tiers

variable (table : FlagTable) (catalog : DefaultsCatalog) (connection : Connection) (source : SourceSide)
  (destination : ConnectorDefinition)

/-- The runtime override under a flag, for a job. -/
def flagTier (flag : Flag String) : Option Quantities :=
  overrideTier (table.textFor flag (resourceContext connection source destination))

/-- The default tiers of a role: the entry of the catalog for the type of the source, and the base quantities. -/
def defaultTiers (role : Role) : List (Option Quantities) :=
  let variant := table.textFor .resourceVariant (resourceContext connection source destination)
  [catalog.entryTier role (source.subType?.getD "default") variant, some catalog.base]

/-- **The tiers of a role**, the first of which takes precedence. -/
def roleTiers (role : Role) : List (Option Quantities) :=
  let defaults := defaultTiers table catalog connection source destination role
  match role with
  | .source =>
    [flagTier table connection source destination .sourceOverrides, connection.requirements] ++
      declaredTiers source.definition? ++ defaults
  | .destination =>
    [flagTier table connection source destination .destinationOverrides, connection.requirements] ++
      declaredTiers (some destination) ++ defaults
  | .orchestrator =>
    [flagTier table connection source destination .orchestratorOverrides, connection.requirements] ++ defaults
  | _ => defaults

end Tiers

/-! ## The catalog -/

namespace DefaultsCatalog

/-- A name is tried first, and then the fallback. -/
theorem findSome?_candidates {α : Type} (f : String → Option α) (requested : String) :
    (candidates requested).findSome? f = (f requested).or (f "default") := by
  by_cases h : requested = "default"
  · subst h
    rw [show candidates "default" = ["default"] from rfl, List.findSome?_singleton, Option.or_self]
  · rw [show candidates requested = [requested, "default"] from if_neg h, List.findSome?_cons,
      List.findSome?_singleton]
    cases f requested <;> rfl

/-- **The catalog is searched in four steps.** -/
theorem entry_eq (c : DefaultsCatalog) (role : Role) (subType : Option String) (variant : String) :
    entry? c role subType variant = c.entryTier role (subType.getD "default") variant := by
  have held : ∀ v, ((c.roleTable? v role).bind fun table =>
      (candidates (subType.getD fallbackName)).findSome? fun s => Keyed.find? s table) =
        (c.entryAt v role (subType.getD "default")).or (c.entryAt v role "default") := fun v => by
    rw [entryAt, entryAt, roleTable?]
    cases (Keyed.find? v c.variants).bind (Keyed.find? role.name) with
    | none => rfl
    | some table => exact findSome?_candidates _ _
  rw [ entry?, findSome?_candidates, held, held, entryTier, Option.or_assoc]

end DefaultsCatalog

/-! ## Flags -/

namespace FlagTable

variable {table : FlagTable}

/-- An override that a table has for a context is the override of an entity. -/
theorem exists_of_override? {key : String} {context : Flag.Context} {value : FlagValue}
    (h : table.override? key context = some value) : ∃ entries label,
      Keyed.find? key table.overrides = some entries ∧ Keyed.find? label entries = some value := by
  obtain ⟨kind, -, found⟩ := List.exists_of_findSome?_eq_some h
  obtain ⟨label, -, found⟩ := Option.bind_eq_some_iff.mp found
  cases he : Keyed.find? key table.overrides with
  | none =>
    rw [he] at found
    exact nomatch found
  | some entries =>
    rw [he] at found
    exact ⟨entries, label, rfl, found⟩

/-- **A table that holds texts answers a text.** -/
theorem evaluateText_of_holdsTexts {flag : Flag String} (holds : table.HoldsTexts flag.key) (context : Flag.Context) :
    table.evaluateText flag context = .ok (table.textFor flag context) := by
  have typed : ∀ value, (table.override? flag.key context).or (Keyed.find? flag.key table.values) = some value →
      ∃ text, value = .text text := fun value h => by
    obtain h | ⟨-, h⟩ := Option.or_eq_some_iff.mp h
    · obtain ⟨entries, label, he, hl⟩ := exists_of_override? h
      exact holds.override entries label value he hl
    · exact holds.value value h
  rw [evaluateText, textAt, resolve_eq, textFor]
  cases found : (table.override? flag.key context).or (Keyed.find? flag.key table.values) with
  | none => rfl
  | some value =>
    obtain ⟨text, rfl⟩ := typed value found
    rfl

end FlagTable

/-! ## Attempts that report and answer -/

section Answers

variable {n : Type → Type} [Monad n] [LawfulMonad n] {α β : Type}

/-- **An attempt reports some events and answers**, and that is all it does. -/
def Answers (log : Log.Sink n) (attempt : Attempt n α) (reports : List Log.Event) (answer : α) : Prop :=
  attempt.run = do
    Log.reportAll log reports
    return .ok answer

variable (log : Log.Sink n)

theorem reportAll_append (first second : List Log.Event) :
    Log.reportAll log (first ++ second) =
      (Log.reportAll log first >>= fun _ => Log.reportAll log second) := by
  induction first with
  | nil => simp [Log.reportAll]
  | cons event rest ih => simp [Log.reportAll, ih]

theorem answers_pure (a : α) : Answers log (pure a) [] a := by
  rw [Answers, Log.reportAll, pure_bind]
  rfl

variable {log}

/-- Two attempts in a row report one after the other. -/
theorem Answers.bind {m : Attempt n α} {f : α → Attempt n β} {reports later : List Log.Event} {a : α} {b : β}
    (hm : Answers log m reports a) (hf : Answers log (f a) later b) :
    Answers log (m >>= f) (reports ++ later) b := by
  rw [Answers] at hm hf
  rw [Answers, ExceptT.run_bind, hm, bind_assoc, reportAll_append, bind_assoc]
  congr 1
  funext _
  rw [pure_bind]
  exact hf

end Answers

/-! ## Resolution -/

theorem quantities?_ofPayload (payload : String) :
    (OverrideReading.ofPayload payload).quantities? = overrideTier payload := by
  unfold OverrideReading.ofPayload overrideTier
  split
  · rfl
  · cases decodeText Decoder.override payload <;> rfl

section Resolution

variable {n : Type → Type} [Monad n] [LawfulMonad n] (log : Log.Sink n) {table : FlagTable}
  {catalog : DefaultsCatalog} (connection : Connection) (source : SourceSide) (destination : ConnectorDefinition)

/-- A flag that the table has a text for is answered by it. -/
theorem answers_text {flag : Flag String} (holds : table.HoldsTexts flag.key) (context : Flag.Context) :
    Answers log (table.source.text flag context) [] (table.textFor flag context) := by
  have text : table.source.text flag context = (pure (table.textFor flag context) : Attempt n String) := by
    change ExceptT.mk (pure ((table.evaluateText flag context).mapError Failure.mistypedFlag)) = _
    rw [FlagTable.evaluateText_of_holdsTexts holds]
    rfl
  rw [text]
  exact answers_pure log _

/-- What a text says is overridden is answered, and what is wrong with it is reported. -/
theorem answers_parseOverride (category payload : String) :
    Answers log (ExceptT.lift (parseOverride log category payload))
      ((OverrideReading.ofPayload payload).reports category payload) (overrideTier payload) := by
  rw [Answers, ← quantities?_ofPayload]
  simp [parseOverride]

/-- An override flag is answered by the quantities in its text. -/
theorem answers_evaluateOverride {flag : Flag String} (holds : table.HoldsTexts flag.key) (context : Flag.Context)
    (category : String) : ∃ reports, Answers log (evaluateOverride log table.source context category flag) reports
      (overrideTier (table.textFor flag context)) :=
  ⟨_, (answers_text log holds context).bind (answers_parseOverride log category _)⟩

/-- **The policy of a job**, as a table has it. -/
theorem answers_assemblePolicy (holds : ∀ flag ∈ Flag.resources, table.HoldsTexts flag.key) (includeSource : Bool) :
    ∃ reports, Answers log
      (assemblePolicy log table.source (resourceContext connection source destination) includeSource) reports
      { variant := table.textFor .resourceVariant (resourceContext connection source destination)
        orchestratorOverride := flagTier table connection source destination .orchestratorOverrides
        sourceOverride :=
          if includeSource then flagTier table connection source destination .sourceOverrides else none
        destinationOverride := flagTier table connection source destination .destinationOverrides } := by
  have variant := answers_text log (holds .resourceVariant (by simp [Flag.resources]))
    (resourceContext connection source destination)
  obtain ⟨second, orchestratorOverride⟩ := answers_evaluateOverride log
    (holds .orchestratorOverrides (by simp [Flag.resources])) (resourceContext connection source destination)
    "ORCHESTRATOR"
  obtain ⟨third, destinationOverride⟩ := answers_evaluateOverride log
    (holds .destinationOverrides (by simp [Flag.resources])) (resourceContext connection source destination)
    "DESTINATION"
  cases includeSource with
  | true =>
    obtain ⟨first, sourceOverride⟩ := answers_evaluateOverride log
      (holds .sourceOverrides (by simp [Flag.resources])) (resourceContext connection source destination) "SOURCE"
    exact ⟨_, sourceOverride.bind (variant.bind (orchestratorOverride.bind (destinationOverride.bind
      (answers_pure log _))))⟩
  | false =>
    exact ⟨_, (answers_pure log none).bind (variant.bind (orchestratorOverride.bind (destinationOverride.bind
      (answers_pure log _))))⟩

/-- The default of a role merges its two default tiers. -/
theorem lookup_eq (role : Role) :
    catalog.lookup role source.subType? (table.textFor .resourceVariant
      (resourceContext connection source destination)) =
        .merge (defaultTiers table catalog connection source destination role) := by
  rw [DefaultsCatalog.lookup, DefaultsCatalog.entry_eq]
  rfl

/-- The tiers of a connector are its override, the connection's quantities and what its definition declares. -/
theorem connectorTiers_eq (override : Option Quantities) (definition : ConnectorDefinition) :
    connectorTiers override connection definition =
      [override, connection.requirements] ++ declaredTiers (some definition) := by
  cases h : definition.requirements <;>
    simp [connectorTiers, declaredTiers, DefinitionRequirements.tiers, DefinitionRequirements.forJobType, h]

/-- **The bundle of a job**, each role of which merges its tiers. -/
def tieredBundle (table : FlagTable) (catalog : DefaultsCatalog) (connection : Connection) (source : SourceSide)
    (destination : ConnectorDefinition) (isReset : Bool) : Bundle :=
  let merged := fun role => Quantities.merge (roleTiers table catalog connection source destination role)
  let live := (participatingSource source isReset).isSome
  { key := ⟨table.textFor .resourceVariant (resourceContext connection source destination), source.subType?⟩
    orchestrator := merged .orchestrator
    destination := merged .destination
    destinationStdin := merged .destinationStdin
    destinationStdout := merged .destinationStdout
    destinationStderr := merged .destinationStderr
    heartbeat := merged .heartbeat
    source := if live then some (merged .source) else none
    sourceStdout := if live then some (merged .sourceStdout) else none
    sourceStderr := if live then some (merged .sourceStderr) else none }

theorem quantities?_tieredBundle (isReset : Bool) (role : Role) :
    (tieredBundle table catalog connection source destination isReset).quantities? role =
      if role.isSource ∧ participatingSource source isReset = none then none
      else some (.merge (roleTiers table catalog connection source destination role)) := by
  cases h : participatingSource source isReset <;> cases role <;>
    simp [tieredBundle, Bundle.quantities?, Role.isSource, h]

/-- **Resolving over a catalog** answers that bundle, and reports nothing. -/
theorem answers_resolveWith (isReset : Bool) :
    Answers log (resolveWith catalog.source
      { variant := table.textFor .resourceVariant (resourceContext connection source destination)
        orchestratorOverride := flagTier table connection source destination .orchestratorOverrides
        sourceOverride := if (participatingSource source isReset).isSome then
          flagTier table connection source destination .sourceOverrides else none
        destinationOverride := flagTier table connection source destination .destinationOverrides }
      connection source destination isReset) [] (tieredBundle table catalog connection source destination isReset) := by
  -- The default of a role is merged on its own first, and then as the last tier of the role.
  have orchestrator : .merge [flagTier table connection source destination .orchestratorOverrides,
      connection.requirements, some (.merge (defaultTiers table catalog connection source destination .orchestrator))] =
        Quantities.merge (roleTiers table catalog connection source destination .orchestrator) :=
    Quantities.merge_append_merge [_, _] _
  have main : .merge ([flagTier table connection source destination .destinationOverrides,
      connection.requirements] ++ declaredTiers (some destination) ++
        [some (.merge (defaultTiers table catalog connection source destination .destination))]) =
          Quantities.merge (roleTiers table catalog connection source destination .destination) :=
    Quantities.merge_append_merge _ _
  cases h : participatingSource source isReset with
  | none =>
    simp only [resolveWith, DefaultsCatalog.source, pure_bind, h, lookup_eq, connectorTiers_eq]
    rw [orchestrator, main, tieredBundle, h]
    exact answers_pure log _
  | some definition =>
    have live : source.definition? = some definition := by
      unfold participatingSource at h
      split at h
      · exact nomatch h
      · exact h
    have reader : .merge ([flagTier table connection source destination .sourceOverrides,
        connection.requirements] ++ declaredTiers (some definition) ++
          [some (.merge (defaultTiers table catalog connection source destination .source))]) =
            Quantities.merge (roleTiers table catalog connection source destination .source) := by
      rw [← live]
      exact Quantities.merge_append_merge _ _
    simp only [resolveWith, resolveSource, DefaultsCatalog.source, pure_bind, h, lookup_eq, connectorTiers_eq, map_pure,
      Option.isSome_some, if_true, Option.map_some]
    rw [orchestrator, main, reader, tieredBundle, h]
    exact answers_pure log _

end Resolution

/-- **Every quantity comes from the first tier that sets it.** When a table has only texts for the flags that
resources depend on, resolution does nothing but report and answer a bundle. The bundle has every role except the
source roles of a job without a source, and each of the six quantities of a role is the first one set in the tiers
of the role; it is not set when no tier sets it. -/
theorem resolveResources_precedence {n : Type → Type} [Monad n] [LawfulMonad n] (log : Log.Sink n) (table : FlagTable)
    (catalog : DefaultsCatalog) (connection : Connection) (source : SourceSide) (destination : ConnectorDefinition)
    (isReset : Bool) (holds : ∀ flag ∈ Flag.resources, table.HoldsTexts flag.key) :
    ∃ bundle reports,
      Answers log (resolveResources log table.source catalog.source connection source destination isReset)
        reports bundle ∧
      ∀ role, if role.isSource ∧ participatingSource source isReset = none then bundle.quantities? role = none
        else ∃ q, bundle.quantities? role = some q ∧ ∀ field ∈ Quantities.fields,
          field q = (roleTiers table catalog connection source destination role).findSome? (·.bind field) := by
  obtain ⟨reports, policy⟩ := answers_assemblePolicy log connection source destination holds
    (participatingSource source isReset).isSome
  refine ⟨_, _, policy.bind (answers_resolveWith log connection source destination isReset), fun role => ?_⟩
  rw [quantities?_tieredBundle]
  split
  · rfl
  · exact ⟨_, rfl, fun field h => Quantities.field_merge h _⟩

/-- A table that asks for large resources. -/
def largeTable : FlagTable := ⟨[(Flag.resourceVariant.key, .text "large")], []⟩

/-- A catalog with an entry for large destinations. -/
def largeCatalog : DefaultsCatalog where
  base := { Quantities.none with cpuLimit := some "1", memoryLimit := some "1Gi" }
  variants := [("large", [("destination", [("default", { Quantities.none with cpuLimit := some "4" })])])]

/-- A large destination has the processor limit of the entry and the memory limit of the base. -/
theorem resolveResources_precedence_large : ∃ bundle reports,
    Answers (n := Id) (fun _ => ()) (resolveResources (fun _ => ()) largeTable.source largeCatalog.source default
      (.absent "reset") default true) reports bundle ∧
        bundle.destination.cpuLimit = some "4" ∧ bundle.destination.memoryLimit = some "1Gi" := by
  have holds : ∀ flag ∈ Flag.resources, largeTable.HoldsTexts flag.key := fun flag _ =>
    { value := fun value h => by
        simp only [largeTable, Keyed.find?] at h
        split at h
        · cases h
          exact ⟨_, rfl⟩
        · cases h
      override := fun _ _ _ h => by cases h }
  obtain ⟨bundle, reports, answers, precedence⟩ := resolveResources_precedence (n := Id) (fun _ => ()) largeTable
    largeCatalog default (.absent "reset") default true holds
  obtain ⟨q, hq, fields⟩ := precedence .destination
  cases hq
  refine ⟨bundle, reports, answers, (fields Quantities.cpuLimit (by simp [Quantities.fields])).trans ?_,
    (fields Quantities.memoryLimit (by simp [Quantities.fields])).trans ?_⟩
  · decide
  · decide

end ConnectionJobs
