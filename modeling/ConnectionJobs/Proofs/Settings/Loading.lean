import ConnectionJobs.Proofs.Job.Decoding
import ConnectionJobs.Proofs.Outcome
import ConnectionJobs.Settings.Load

/-!
# What stops settings from being loaded

Loading settings either answers or reports the problems of the settings, as long as all that the sources give can be
read. Most settings are taken as they stand. Three of them are tables, which are written as JSON, and a source that
gives a text for a table that is no JSON, or that nests too deeply, stops the loading before anything is checked. It is
then neither an answer nor a report of problems that comes out.
-/

namespace ConnectionJobs.Settings

/-! ## What the sources give -/

/-- The values of a source, under names in small letters. -/
def Surroundings.values (s : Surroundings) : Source → Keyed String (Option String)
  | .environment => lowered (s.environment.map fun (n, v) => (n, some v))
  | .file => lowered ((s.file.map (DotEnv.values s.environment)).getD [])

/-- **The text that a source gives for a setting**, if it gives one. -/
def Surroundings.text? (s : Surroundings) (source : Source) (name : String) : Option String :=
  (Keyed.find? name (s.values source)).join

/-- **A text can be read for a setting**: a table has to be JSON, and there must be room for its containers. -/
def Field.Reads (field : Field) (room : Nat) (text : String) : Prop :=
  field.isTable = true → ∃ json, Json.read (Json.settingRules room) text = .ok json

section Sources

variable {room : Nat} {source : Source} {field : Field} {fields : List Field} {text : String}
  {values : Keyed String (Option String)} {s : Surroundings}

theorem exists_fieldValue_iff : (∃ value, fieldValue room source field text = .ok value) ↔ field.Reads room text := by
  unfold fieldValue Field.Reads
  cases field.isTable with
  | false => exact ⟨fun _ table => (nomatch table), fun _ => ⟨_, rfl⟩⟩
  | true =>
    rw [if_pos rfl]
    cases Json.read (Json.settingRules room) text with
    | error reason =>
      refine ⟨fun ⟨_, failed⟩ => (nomatch failed), fun reads => ?_⟩
      obtain ⟨_, failed⟩ := reads rfl
      exact nomatch failed
    | ok json => exact ⟨fun _ _ => ⟨json, rfl⟩, fun _ => by cases json <;> exact ⟨_, rfl⟩⟩

/-- What a source gives for one setting and for those after it. -/
theorem given_cons (room : Nat) (source : Source) (values : Keyed String (Option String)) (field : Field)
    (rest : List Field) :
    given room source values (field :: rest) =
      (match (Keyed.find? field.name values).join with
        | some text => fieldValue room source field text
        | none => .ok none) >>= fun value =>
      given room source values rest >>= fun others =>
        .ok ((value.map fun json => (field.name, json)).toList ++ others) := by
  rw [given]
  cases (Keyed.find? field.name values).join with
  | none => rfl
  | some text =>
    dsimp only
    obtain u | value := fieldValue room source field text
    · rfl
    · cases value <;> rfl

/-- **A source gives something** exactly when everything it has for the settings can be read. -/
theorem exists_given_iff :
    (∃ members, given room source values fields = .ok members) ↔
      ∀ field ∈ fields, ∀ text, (Keyed.find? field.name values).join = some text → field.Reads room text := by
  induction fields with
  | nil => exact ⟨fun _ => List.forall_mem_nil _, fun _ => ⟨[], rfl⟩⟩
  | cons field rest ih =>
    rw [given_cons, List.forall_mem_cons, ← ih, exists_bind_ok_iff]
    constructor
    · rintro ⟨value, first, others⟩
      obtain ⟨members, there, -⟩ := exists_bind_ok_iff.mp others
      refine ⟨fun text found => ?_, members, there⟩
      rw [found] at first
      exact exists_fieldValue_iff.mp ⟨value, first⟩
    · rintro ⟨reads, others⟩
      have first : ∃ value, (match (Keyed.find? field.name values).join with
          | some text => fieldValue room source field text
          | none => .ok none) = .ok value := by
        cases found : (Keyed.find? field.name values).join with
        | none => exact ⟨none, rfl⟩
        | some text => exact exists_fieldValue_iff.mpr (reads text found)
      obtain ⟨value, first⟩ := first
      obtain ⟨members, there⟩ := others
      exact ⟨value, first, exists_bind_ok_iff.mpr ⟨members, there, _, rfl⟩⟩

theorem collect_eq (fields : List Field) (s : Surroundings) :
    collect s.room fields s.environment s.file =
      given s.room .environment (s.values .environment) fields >>= fun fromEnvironment =>
        given s.room .file (s.values .file) fields >>= fun fromFile =>
          .ok (overlayMembers fromFile fromEnvironment) := rfl

/-- **The sources give something** exactly when everything that either has for the settings can be read. -/
theorem exists_collect_iff :
    (∃ members, collect s.room fields s.environment s.file = .ok members) ↔
      ∀ source, ∀ field ∈ fields, ∀ text, s.text? source field.name = some text → field.Reads s.room text := by
  rw [collect_eq, exists_bind_ok_iff]
  constructor
  · rintro ⟨fromEnvironment, first, others⟩ source
    obtain ⟨fromFile, second, -⟩ := exists_bind_ok_iff.mp others
    cases source with
    | environment => exact exists_given_iff.mp ⟨_, first⟩
    | file => exact exists_given_iff.mp ⟨_, second⟩
  · intro reads
    obtain ⟨fromEnvironment, first⟩ := exists_given_iff.mpr (reads .environment)
    obtain ⟨fromFile, second⟩ := exists_given_iff.mpr (reads .file)
    exact ⟨_, first, exists_bind_ok_iff.mpr ⟨_, second, _, rfl⟩⟩

end Sources

/-! ## Decoding -/

open Checked (Gives gives_map gives_ap)

/-- **Settings are decoded each from its own member.** -/
theorem gives_decode_iff {members : Members} {settings : Settings} : (decode members).Gives settings ↔
    (Decoder.withDefault "environment_name" "development" Decoder.text members).Gives settings.environmentName ∧
      (Decoder.withDefault "database_url" defaultDatabaseUrl Decoder.text members).Gives settings.databaseUrl ∧
      (Decoder.withDefault "log_level" "INFO" level members).Gives settings.logLevel ∧
      (Decoder.withDefault "log_json" true Decoder.boolean members).Gives settings.logJson ∧
      (Decoder.omissible "job_default_cpu_request" Decoder.text members).Gives settings.cpuRequest ∧
      (Decoder.omissible "job_default_cpu_limit" Decoder.text members).Gives settings.cpuLimit ∧
      (Decoder.omissible "job_default_memory_request" Decoder.text members).Gives settings.memoryRequest ∧
      (Decoder.omissible "job_default_memory_limit" Decoder.text members).Gives settings.memoryLimit ∧
      (Decoder.withDefault "resource_requirement_variants" [] variantTable members).Gives settings.variants ∧
      (Decoder.withDefault "feature_flags" [] (table flagValue) members).Gives settings.flags ∧
      (Decoder.withDefault "feature_flag_context_overrides" [] flagOverrides? members).Gives settings.flagOverrides := by
  simp only [decode, gives_ap, gives_map]
  constructor
  · rintro ⟨_, _, ⟨_, _, ⟨_, _, ⟨_, _, ⟨_, _, ⟨_, _, ⟨_, _, ⟨_, _, ⟨_, _, ⟨_, _, ⟨_, h₁, rfl⟩, h₂, rfl⟩, h₃, rfl⟩, h₄,
      rfl⟩, h₅, rfl⟩, h₆, rfl⟩, h₇, rfl⟩, h₈, rfl⟩, h₉, rfl⟩, h₁₀, rfl⟩, h₁₁, rfl⟩
    exact ⟨h₁, h₂, h₃, h₄, h₅, h₆, h₇, h₈, h₉, h₁₀, h₁₁⟩
  · rintro ⟨h₁, h₂, h₃, h₄, h₅, h₆, h₇, h₈, h₉, h₁₀, h₁₁⟩
    exact ⟨_, _, ⟨_, _, ⟨_, _, ⟨_, _, ⟨_, _, ⟨_, _, ⟨_, _, ⟨_, _, ⟨_, _, ⟨_, _, ⟨_, h₁, rfl⟩, h₂, rfl⟩, h₃, rfl⟩, h₄,
      rfl⟩, h₅, rfl⟩, h₆, rfl⟩, h₇, rfl⟩, h₈, rfl⟩, h₉, rfl⟩, h₁₀, rfl⟩, h₁₁, rfl⟩

/-- The URL of the database and the overrides of flags are decoded each from its own member. -/
theorem given_of_decode {members : Members} {settings : Settings} (h : (decode members).Gives settings) :
    (Decoder.withDefault "database_url" defaultDatabaseUrl Decoder.text members).Gives settings.databaseUrl ∧
      (Decoder.withDefault "feature_flag_context_overrides" [] flagOverrides? members).Gives settings.flagOverrides := by
  obtain ⟨-, url, -, -, -, -, -, -, -, -, overrides⟩ := gives_decode_iff.mp h
  exact ⟨url, overrides⟩

/-! ## Loading -/

namespace OpenFlags

/-- A process environment whose table of flags is an opening brace. -/
def surroundings : Surroundings := ⟨[("FEATURE_FLAGS", "\x7b")], none, 900⟩

end OpenFlags

end ConnectionJobs.Settings
