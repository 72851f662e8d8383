import ConnectionJobs.Proofs.Flag.Precedence
import ConnectionJobs.Proofs.Settings.DatabaseUrl
import ConnectionJobs.Settings.Load
import Mathlib.Data.List.TakeWhile

/-!
# The overrides that settings accept and those that answer

Settings refuse an override of a flag whose label has no colon, or a blank on one side of it. An evaluation asks for
more: it looks the labels of its entities up as they are written, a kind by its name and an identifier in small letters
with dashes. A label whose sides are not these is nobody's. It passes the check of the settings, and its override is
dead: no evaluation in any context depends on it.
-/

namespace ConnectionJobs

/-- **The context of one entity.** -/
def Flag.Context.only (kind : Flag.Kind) (id : Uuid) : Flag.Context where
  workspace := if kind = .workspace then some id else none
  connection := if kind = .connection then some id else none
  source := if kind = .source then some id else none
  sourceDefinition := if kind = .sourceDefinition then some id else none
  destination := if kind = .destination then some id else none
  destinationDefinition := if kind = .destinationDefinition then some id else none

@[simp] theorem Flag.Context.key?_only (kind other : Flag.Kind) (id : Uuid) :
    (only kind id).key? other = if kind = other then some id else none := by
  cases other <;> rfl

/-- The override of an entity prevails in its own context. -/
theorem FlagTable.prevails_only {table : FlagTable} {key : String} {kind : Flag.Kind} {id : Uuid} {value : FlagValue}
    (overridden : table.overrideFor key kind id = some value) :
    table.Prevails key (.only kind id) kind id value where
  present := by simp
  overridden := overridden
  first other precedes otherId present := by
    have differs : other ≠ kind := by simpa using List.mem_takeWhile_imp precedes
    rw [Flag.Context.key?_only, if_neg (Ne.symm differs)] at present
    exact nomatch present

namespace Settings

open Checked (Gives gives_map gives_under)

/-! ## Labels of entities -/

/-- **A label names an entity**: what stands before its first colon is the name of a kind, and what follows is an
identifier as it is written. -/
def NamesEntity (label : String) : Prop :=
  ∃ (kind : Flag.Kind) (key : List Char), labelSides label = some (kind.name.toList, key) ∧ Uuid.IsWritten key

section Labels

variable {label : String} {kind key : List Char}

theorem labelSides_of_toList (h : label.toList = kind ++ ':' :: key) (noColon : ':' ∉ kind) :
    labelSides label = some (kind, key) := by
  unfold labelSides
  rw [h, Flag.span_colon noColon]

theorem toList_of_labelSides (h : labelSides label = some (kind, key)) : label.toList = kind ++ ':' :: key := by
  unfold labelSides at h
  rw [List.span_eq_takeWhile_dropWhile] at h
  split at h
  · rename_i before c after cut
    rw [Prod.mk.injEq] at cut
    rw [Option.some.injEq, Prod.mk.injEq] at h
    have colon : ¬(c != ':') = true := by
      have head := List.head?_dropWhile_not (· != ':') label.toList
      rw [cut.2] at head
      simpa using head
    rw [← h.1, ← h.2, ← List.takeWhile_append_dropWhile (p := (· != ':')) (l := label.toList), cut.1, cut.2,
      not_not.mp fun other => colon (bne_iff_ne.mpr other)]
  · exact nomatch h

/-- **The labels that name an entity are the labels of entities.** -/
theorem namesEntity_iff : NamesEntity label ↔ ∃ kind id, Flag.label kind id = label := by
  constructor
  · rintro ⟨kind, key, sides, written⟩
    obtain ⟨id, rfl⟩ := Uuid.exists_text_iff.mpr written
    exact ⟨kind, id, String.toList_inj.mp ((Flag.toList_label kind id).trans (toList_of_labelSides sides).symm)⟩
  · rintro ⟨kind, id, rfl⟩
    exact ⟨kind, id.text.toList, labelSides_of_toList (Flag.toList_label kind id) kind.colon_notMem_name,
      Uuid.exists_text_iff.mp ⟨id, rfl⟩⟩

end Labels

/-! ## Accepted overrides -/

section Overrides

variable {settings : Settings} {members : Members} {flag label : String} {overrides : Keyed String FlagValue}
  {value : FlagValue}

theorem isLabel_of_knownLabels {table : Keyed String (Keyed String FlagValue)} (known : (knownLabels table).Gives ())
    (entry : Keyed.find? flag table = some overrides) (found : Keyed.find? label overrides = some value) :
    isLabel label = true := by
  induction table with
  | nil => cases entry
  | cons head rest ih =>
    obtain ⟨key, labelled⟩ := head
    unfold knownLabels at known
    split at known
    · rename_i good
      rw [Keyed.find?] at entry
      split at entry
      · cases entry
        have each := List.find?_eq_none.mp good label (Keyed.mem_keys_of_find? found)
        simpa using each
      · exact ih known entry
    · cases known

/-- **The label of an accepted override is well-formed.** -/
theorem isLabel_of_decode (valid : (decode members).Gives settings)
    (entry : Keyed.find? flag settings.flagOverrides = some overrides)
    (found : Keyed.find? label overrides = some value) : isLabel label = true := by
  have given := (given_of_decode valid).2
  unfold Decoder.withDefault at given
  split at given
  · rename_i json _
    have given := gives_under.mp given
    unfold flagOverrides? at given
    cases read : Settings.table (Settings.table flagValue) json with
    | invalid problems =>
      rw [read] at given
      exact nomatch given
    | valid held =>
      rw [read] at given
      obtain ⟨_, known, same⟩ := gives_map.mp given
      rw [← same] at entry
      exact isLabel_of_knownLabels known entry found
  · rw [← Checked.valid.inj given] at entry
    exact nomatch entry

/-- The override for an entity is the one under its label. -/
theorem overrideFor_flagTable {kind : Flag.Kind} {id : Uuid}
    (entry : Keyed.find? flag settings.flagOverrides = some overrides) :
    settings.flagTable.overrideFor flag kind id = Keyed.find? (Flag.label kind id) overrides := by
  unfold FlagTable.overrideFor flagTable
  rw [entry, Option.bind_some]

/-- **An accepted override answers exactly when its label names an entity.** Its label is well-formed in any case. When
it names an entity, the override is the answer in the context of that entity; when it names none, no answer in any
context depends on it. -/
theorem override_live_iff (valid : decode members = .valid settings)
    (entry : Keyed.find? flag settings.flagOverrides = some overrides)
    (found : Keyed.find? label overrides = some value) :
    isLabel label = true ∧
      ((∃ kind id, Flag.label kind id = label ∧
          ∃ context, ∀ fallback, settings.flagTable.resolve flag fallback context = value) ↔ NamesEntity label) ∧
      (¬NamesEntity label → ∀ other fallback context,
        (settings.flagTable.withOverride flag label other).resolve flag fallback context =
          settings.flagTable.resolve flag fallback context) := by
  refine ⟨isLabel_of_decode valid entry found, ?_, fun dead other fallback context => ?_⟩
  · rw [namesEntity_iff]
    constructor
    · rintro ⟨kind, id, same, -⟩
      exact ⟨kind, id, same⟩
    · rintro ⟨kind, id, rfl⟩
      have overridden := (overrideFor_flagTable entry).trans found
      exact ⟨kind, id, rfl, .only kind id, fun fallback =>
        FlagTable.resolve_eq_iff.mpr (.override (FlagTable.prevails_only overridden))⟩
  · have kept (kind : Flag.Kind) (id : Uuid) (_ : context.key? kind = some id) :
        (settings.flagTable.withOverride flag label other).overrideFor flag kind id =
          settings.flagTable.overrideFor flag kind id :=
      FlagTable.overrideFor_withOverride _ flag label other fun same => dead (namesEntity_iff.mpr ⟨kind, id, same⟩)
    exact FlagTable.resolve_congr kept rfl fallback

end Overrides

namespace NamedConnection

/-- The label of a connection. -/
def label : String := "connection:7b0c3a56-34a0-4c3e-9f1c-5f8c47e0a0a1"

/-- Settings whose flags have one override, under this label. -/
def members : Members :=
  [("feature_flag_context_overrides", .object [("platform.activate-refreshes", .object [(label, .boolean true)])])]

/-- The settings. -/
def settings : Settings :=
  { (default : Settings) with
    environmentName := "development"
    databaseUrl := defaultDatabaseUrl
    logLevel := "INFO"
    logJson := true
    flagOverrides := [("platform.activate-refreshes", [(label, .switch true)])] }

/-- The override is live. -/
theorem override_live : decode members = .valid settings ∧ ∃ context, ∀ fallback,
    settings.flagTable.resolve "platform.activate-refreshes" fallback context = .switch true := by
  have valid : decode members = .valid settings := Gives.of_value? (by decide +kernel)
  have entity : NamesEntity label :=
    namesEntity_iff.mpr ⟨.connection, .ofNat 0x7b0c3a5634a04c3e9f1c5f8c47e0a0a1, by decide +kernel⟩
  have entry : Keyed.find? "platform.activate-refreshes" settings.flagOverrides = some [(label, .switch true)] := rfl
  have found : Keyed.find? label [(label, FlagValue.switch true)] = some (.switch true) := rfl
  obtain ⟨-, live, -⟩ := override_live_iff valid entry found
  obtain ⟨_, _, _, answers⟩ := live.mpr entity
  exact ⟨valid, answers⟩

end NamedConnection

namespace NobodysLabel

/-- A process environment with an override for no entity. -/
def surroundings : Surroundings :=
  ⟨[("FEATURE_FLAG_CONTEXT_OVERRIDES",
    "\x7b\"platform.activate-refreshes\": \x7b\"connection:everything\": true\x7d\x7d")], none, 900⟩

/-- The settings loaded from it. -/
def settings : Settings :=
  { NamedConnection.settings with
    flagOverrides := [("platform.activate-refreshes", [("connection:everything", .switch true)])] }

/-- **An accepted override has a label that no entity has.** -/
theorem exists_dead_override :
    load surroundings = .ok settings ∧ ∃ overrides,
      Keyed.find? "platform.activate-refreshes" settings.flagOverrides = some overrides ∧
      Keyed.find? "connection:everything" overrides = some (.switch true) ∧
      ∀ kind id, Flag.label kind id ≠ "connection:everything" := by
  have loaded : load surroundings = .ok settings := ok_of_toOption (by decide +kernel)
  refine ⟨loaded, _, rfl, rfl, fun kind id same => ?_⟩
  obtain ⟨_, key, sides, digits, length, -, rfl⟩ := namesEntity_iff.mpr ⟨kind, id, same⟩
  have cut : labelSides "connection:everything" = some ("connection".toList, "everything".toList) := by decide +kernel
  rw [cut, Option.some.injEq, Prod.mk.injEq] at sides
  have long := congrArg List.length sides.2
  rw [Uuid.length_grouped length] at long
  exact absurd long (by decide +kernel)

end NobodysLabel

end Settings

end ConnectionJobs
