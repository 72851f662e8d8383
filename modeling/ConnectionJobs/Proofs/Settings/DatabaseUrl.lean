import ConnectionJobs.Proofs.Keyed
import ConnectionJobs.Proofs.Settings.Loading

/-!
# The database of the service and the database of its migrations

The service takes the URL of its database from the settings, and the tools that migrate the database load the URL alone.
Both find the same text: what the process environment gives, or else the environment file, or else the default. The
service connects with the text as it stands. The tools drop the blanks around it first, so the two URLs are the same
exactly when there are none.
-/

namespace ConnectionJobs.Settings

/-! ## Settings that are texts -/

section Texts

variable {room : Nat} {source : Source} {fields : List Field} {members base upper : Members} {name text : String}
  {values : Keyed String (Option String)} {s : Surroundings}

/-- **A source gives settings that were asked for**, in their order. -/
theorem keys_given_sublist (h : given room source values fields = .ok members) :
    (Keyed.keys members).Sublist (fields.map Field.name) := by
  induction fields generalizing members with
  | nil =>
    cases h
    exact .slnil
  | cons field rest ih =>
    rw [given_cons] at h
    obtain ⟨value, -, h⟩ := bind_eq_ok_iff.mp h
    obtain ⟨others, there, h⟩ := bind_eq_ok_iff.mp h
    cases h
    cases value with
    | none => exact (ih there).cons _
    | some json => exact (ih there).cons_cons _

/-- **A setting that is no table is found as its text.** -/
theorem find?_given (h : given room source values fields = .ok members) (distinct : (fields.map Field.name).Nodup)
    (inside : ⟨name, false⟩ ∈ fields) :
    Keyed.find? name members = (Keyed.find? name values).join.map .text := by
  induction fields generalizing members with
  | nil => exact absurd inside List.not_mem_nil
  | cons field rest ih =>
    obtain ⟨fresh, distinct⟩ := List.nodup_cons.mp distinct
    rw [given_cons] at h
    obtain ⟨value, first, h⟩ := bind_eq_ok_iff.mp h
    obtain ⟨others, there, h⟩ := bind_eq_ok_iff.mp h
    cases h
    obtain rfl | inside := List.mem_cons.mp inside
    · cases found : (Keyed.find? name values).join with
      | none =>
        rw [found] at first
        cases first
        exact Keyed.find?_of_not_mem fun member => fresh ((keys_given_sublist there).subset member)
      | some text =>
        rw [found] at first
        cases first
        exact if_pos rfl
    · have different : field.name ≠ name := by
        rintro rfl
        exact fresh (List.mem_map.mpr ⟨_, inside, rfl⟩)
      rw [← ih there distinct inside]
      cases value with
      | none => rfl
      | some json => exact if_neg different

theorem find?_overlayMembers_of_none (absent : Keyed.find? name upper = none) :
    Keyed.find? name (overlayMembers base upper) = Keyed.find? name base := by
  induction upper generalizing base with
  | nil => rw [overlayMembers]
  | cons member rest ih =>
    rw [Keyed.find?] at absent
    split at absent
    · exact absurd absent (Option.some_ne_none _)
    · rename_i other
      rw [overlayMembers, ih absent, Keyed.find?_set_of_ne (Ne.symm other)]

/-- **A text replaces what it is merged over.** -/
theorem find?_overlayMembers_text (distinct : (Keyed.keys upper).Nodup)
    (found : Keyed.find? name upper = some (.text text)) :
    Keyed.find? name (overlayMembers base upper) = some (.text text) := by
  induction upper generalizing base with
  | nil => exact nomatch found
  | cons member rest ih =>
    obtain ⟨key, value⟩ := member
    obtain ⟨fresh, distinct⟩ := List.nodup_cons.mp distinct
    rw [overlayMembers]
    rw [Keyed.find?] at found
    by_cases same : key = name
    · rw [if_pos same] at found
      cases found
      subst same
      rw [find?_overlayMembers_of_none (Keyed.find?_of_not_mem fresh), Keyed.find?_set_self]
      cases Keyed.find? key base with
      | none => rfl
      | some lower =>
        dsimp only
        rw [overlay.eq_def]
    · rw [if_neg same] at found
      exact ih distinct found

/-- **The process environment comes before the file**: the text of a setting that is no table. -/
theorem find?_collect (h : collect s.room fields s.environment s.file = .ok members)
    (distinct : (fields.map Field.name).Nodup) (inside : ⟨name, false⟩ ∈ fields) :
    Keyed.find? name members = ((s.text? .environment name).or (s.text? .file name)).map .text := by
  rw [collect_eq] at h
  obtain ⟨fromEnvironment, first, h⟩ := bind_eq_ok_iff.mp h
  obtain ⟨fromFile, second, h⟩ := bind_eq_ok_iff.mp h
  cases h
  have upper : Keyed.find? name fromEnvironment = (s.text? .environment name).map .text :=
    find?_given first distinct inside
  have lower : Keyed.find? name fromFile = (s.text? .file name).map .text := find?_given second distinct inside
  have keys := keys_given_sublist first
  cases given : s.text? .environment name with
  | some text =>
    rw [given] at upper
    exact find?_overlayMembers_text (keys.nodup distinct) upper
  | none =>
    rw [given] at upper
    rw [Option.none_or, ← lower]
    exact find?_overlayMembers_of_none upper

end Texts

/-! ## The URL -/

/-- **The text of the database URL**: what the process environment gives, or else the file, or else the default. -/
def Surroundings.databaseUrlText (s : Surroundings) : String :=
  ((s.text? .environment "database_url").or (s.text? .file "database_url")).getD defaultDatabaseUrl

section DatabaseUrl

open Checked (Gives gives_map gives_ap)

variable {s : Surroundings} {settings : Settings} {url : String} {fields : List Field} {members : Members}

/-- The URL among the members that the sources give. -/
theorem databaseUrl_of_collect (h : collect s.room fields s.environment s.file = .ok members)
    (distinct : (fields.map Field.name).Nodup) (inside : ⟨"database_url", false⟩ ∈ fields) :
    Decoder.withDefault "database_url" defaultDatabaseUrl Decoder.text members = .valid s.databaseUrlText := by
  unfold Decoder.withDefault Surroundings.databaseUrlText
  rw [find?_collect h distinct inside]
  cases (s.text? .environment "database_url").or (s.text? .file "database_url") <;> rfl

/-- **The service connects with the text as it stands.** -/
theorem databaseUrl_of_load (h : load s = .ok settings) : settings.databaseUrl = s.databaseUrlText := by
  unfold load at h
  cases collected : collect s.room Settings.fields s.environment s.file with
  | error u =>
    rw [collected] at h
    exact nomatch h
  | ok members =>
    rw [collected] at h
    have found := databaseUrl_of_collect collected (by decide) (by decide)
    cases decoded : decode members with
    | invalid problems =>
      dsimp only at h
      rw [decoded] at h
      exact nomatch h
    | valid given =>
      dsimp only at h
      rw [decoded] at h
      cases h
      exact (Checked.valid.inj (found.symm.trans (given_of_decode decoded).1)).symm

/-- **The tools load the text without the blanks around it**, unless nothing is left. No other setting stops them. -/
theorem loadDatabaseUrl_eq (s : Surroundings) :
    loadDatabaseUrl s =
      if (Text.trim s.databaseUrlText).isEmpty then .error .blankUrl else .ok (Text.trim s.databaseUrlText) := by
  obtain ⟨members, collected⟩ : ∃ members,
      collect s.room [⟨"database_url", false⟩] s.environment s.file = .ok members := by
    refine exists_collect_iff.mpr fun source => List.forall_mem_singleton.mpr fun text _ table => ?_
    exact nomatch table
  have found := databaseUrl_of_collect collected (by decide) (by decide)
  unfold loadDatabaseUrl
  rw [collected]
  dsimp only
  rw [found]

/-- **The two URLs are the same exactly when there are no blanks around the text of the URL.** -/
theorem databaseUrl_eq_iff (runtime : load s = .ok settings) (migration : loadDatabaseUrl s = .ok url) :
    settings.databaseUrl = url ↔ Text.trim s.databaseUrlText = s.databaseUrlText := by
  rw [loadDatabaseUrl_eq] at migration
  split at migration
  · exact nomatch migration
  · rw [databaseUrl_of_load runtime, ← Except.ok.inj migration]
    exact eq_comm

end DatabaseUrl

theorem ok_of_toOption {ε α : Type} {x : Except ε α} {a : α} (h : x.toOption = some a) : x = .ok a := by
  cases x with
  | error e => exact nomatch h
  | ok b => exact congrArg Except.ok (Option.some.inj h)

namespace PlainUrl

/-- A process environment with a URL, and a file with another one. -/
def surroundings : Surroundings :=
  ⟨[("DATABASE_URL", "postgresql://u:p@h/db")], some "database_url=other", 900⟩

/-- The default settings, but for the URL. -/
def settings (url : String) : Settings :=
  { (default : Settings) with
    environmentName := "development"
    databaseUrl := url
    logLevel := "INFO"
    logJson := true }

/-- The service and the tools use the URL of the process environment. -/
theorem eq_url :
    load surroundings = .ok (settings "postgresql://u:p@h/db") ∧
      loadDatabaseUrl surroundings = .ok "postgresql://u:p@h/db" ∧
      ((settings "postgresql://u:p@h/db").databaseUrl = "postgresql://u:p@h/db" ↔
        Text.trim surroundings.databaseUrlText = surroundings.databaseUrlText) := by
  have runtime : load surroundings = .ok (settings "postgresql://u:p@h/db") := ok_of_toOption (by decide +kernel)
  have migration : loadDatabaseUrl surroundings = .ok "postgresql://u:p@h/db" := ok_of_toOption (by decide +kernel)
  exact ⟨runtime, migration, databaseUrl_eq_iff runtime migration⟩

end PlainUrl

namespace PaddedUrl

/-- A process environment with a URL that a blank follows. -/
def surroundings : Surroundings := ⟨[("DATABASE_URL", "postgresql://u:p@h/db ")], none, 900⟩

/-- **The service and the tools use different URLs.** -/
theorem exists_ne_url :
    ∃ settings url, load surroundings = .ok settings ∧ loadDatabaseUrl surroundings = .ok url ∧
      settings.databaseUrl ≠ url :=
  ⟨PlainUrl.settings "postgresql://u:p@h/db ", "postgresql://u:p@h/db", ok_of_toOption (by decide +kernel),
    ok_of_toOption (by decide +kernel), by decide⟩

end PaddedUrl

end ConnectionJobs.Settings
