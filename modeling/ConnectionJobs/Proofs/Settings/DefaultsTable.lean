import ConnectionJobs.Proofs.Json.Grammar
import ConnectionJobs.Proofs.Resource.Fallback
import ConnectionJobs.Proofs.Settings.DatabaseUrl

/-!
# The defaults table of the settings

The defaults catalog of the service is the table in its settings, with the general quantities of the settings as its
base. An entry of the table is served only when it can be found, and a lookup finds the first entry under a key. So what
has to be shown is that settings which were accepted hold no second entry under a key, at any of the three levels of the
table, and that they name only roles that there are. The first comes from the reader, which settles repeated keys, and
survives the merging of the two sources. The second is checked when the settings are.
-/

namespace ConnectionJobs

theorem Role.name_of_ofName? {name : String} {role : Role} (h : Role.ofName? name = some role) : role.name = name := by
  have named := List.find?_some h
  simpa using named

namespace Settings

open Checked (Gives gives_map gives_ap gives_under)

/-- **Validated settings** are decoded from members in which no key repeats. -/
def Validated (settings : Settings) : Prop :=
  ∃ members : Members, (Json.object members).Distinct ∧ (decode members).Gives settings

/-- **A table whose entries can all be found**: no key repeats at any level, and every role name names a role. -/
structure Findable (table : VariantTable) : Prop where
  /-- No variant repeats. -/
  variants : (Keyed.keys table).Nodup
  /-- No role repeats in a variant. -/
  roles : ∀ variant ∈ table, (Keyed.keys variant.2).Nodup
  /-- No source type repeats in a role. -/
  subTypes : ∀ variant ∈ table, ∀ role ∈ variant.2, (Keyed.keys role.2).Nodup
  /-- The roles are known. -/
  known : ∀ variant ∈ table, ∀ role ∈ variant.2, ∃ r : Role, r.name = role.1

/-! ## What the sources give has no repeated keys -/

section Sources

variable {room : Nat} {source : Source} {field : Field} {fields : List Field}
  {values : Keyed String (Option String)} {text : String} {json lower : Json} {members base : Members} {s : Surroundings}

theorem distinct_fieldValue (h : fieldValue room source field text = .ok (some json)) : json.Distinct := by
  unfold fieldValue at h
  split_ifs at h
  · split at h
    · cases h
    · rename_i read
      cases h
      exact Json.distinct_of_read read
    · cases h
  · cases h
    exact (Json.exact_text text).distinct

theorem distinct_given (h : given room source values fields = .ok members) : ∀ member ∈ members, member.2.Distinct := by
  induction fields generalizing members with
  | nil =>
    cases h
    exact List.forall_mem_nil _
  | cons field rest ih =>
    rw [given_cons] at h
    obtain ⟨value, first, h⟩ := bind_eq_ok_iff.mp h
    obtain ⟨others, there, h⟩ := bind_eq_ok_iff.mp h
    cases h
    cases value with
    | none => exact ih there
    | some json =>
      refine List.forall_mem_cons.mpr ⟨?_, ih there⟩
      split at first
      · exact distinct_fieldValue first
      · cases first

theorem distinct_set {key : String} (distinct : (Json.object base).Distinct) (value : json.Distinct) :
    (Json.object (Keyed.set key json base)).Distinct := by
  obtain ⟨keys, each⟩ := Json.distinct_object.mp distinct
  refine Json.distinct_object.mpr ⟨Keyed.nodup_set keys key json, fun member inside => ?_⟩
  obtain same | ⟨old, there, same⟩ := Keyed.mem_set inside
  · exact same ▸ value
  · exact same ▸ each old there

/-- **Merging brings no repeated key**, by induction on the upper value. -/
theorem distinct_overlay (upper : Json) (hu : upper.Distinct) (hl : lower.Distinct) :
    (overlay lower upper).Distinct := by
  induction upper using Json.induction generalizing lower with
  | null | boolean | integer | real | text | array =>
    rw [overlay.eq_def]
    exact hu
  | object members each =>
    cases lower with
    | object base =>
      show (overlay (.object base) (.object members)).Distinct
      rw [overlay]
      obtain ⟨-, values⟩ := Json.distinct_object.mp hu
      clear hu
      induction members generalizing base with
      | nil =>
        rw [overlayMembers]
        exact hl
      | cons member rest ih =>
        obtain ⟨first, others⟩ := List.forall_mem_cons.mp each
        obtain ⟨value, values⟩ := List.forall_mem_cons.mp values
        rw [overlayMembers]
        refine ih others _ (distinct_set hl ?_) values
        split
        · rename_i found
          obtain ⟨entry, inside, rfl⟩ := Keyed.exists_mem_of_find? found
          exact first value ((Json.distinct_object.mp hl).2 entry inside)
        · exact value
    | null | boolean | integer | real | text | array =>
      rw [overlay.eq_def]
      exact hu

/-- **What the sources give together has no repeated keys.** -/
theorem distinct_collect (h : collect s.room fields s.environment s.file = .ok members)
    (distinct : (fields.map Field.name).Nodup) : (Json.object members).Distinct := by
  rw [collect_eq] at h
  obtain ⟨fromEnvironment, first, h⟩ := bind_eq_ok_iff.mp h
  obtain ⟨fromFile, second, h⟩ := bind_eq_ok_iff.mp h
  cases h
  have upper : (Json.object fromEnvironment).Distinct :=
    Json.distinct_object.mpr ⟨(keys_given_sublist first).nodup distinct, distinct_given first⟩
  have lower : (Json.object fromFile).Distinct :=
    Json.distinct_object.mpr ⟨(keys_given_sublist second).nodup distinct, distinct_given second⟩
  have merged := distinct_overlay _ upper lower
  rwa [overlay] at merged

/-- **Settings that are loaded are validated.** -/
theorem validated_of_load {settings : Settings} (h : load s = .ok settings) : settings.Validated := by
  unfold load at h
  split at h
  · cases h
  · rename_i members collected
    split at h
    · rename_i decoded
      cases h
      exact ⟨members, distinct_collect collected (by decide), decoded⟩
    · cases h

end Sources

/-! ## Decoding keeps the keys -/

section Tables

variable {α : Type} {decode : Decoder α} {p : α → Prop}

theorem gives_tableEntries {members : Members} {t : Keyed String α} (makes : Decoder.Makes Json.Distinct decode p)
    (each : ∀ member ∈ members, member.2.Distinct) (given : (tableEntries decode members).Gives t) :
    Keyed.keys t = Keyed.keys members ∧ ∀ entry ∈ t, p entry.2 := by
  induction members generalizing t with
  | nil =>
    cases given
    exact ⟨rfl, List.forall_mem_nil _⟩
  | cons member rest ih =>
    obtain ⟨key, json⟩ := member
    obtain ⟨distinct, each⟩ := List.forall_mem_cons.mp each
    obtain ⟨_, others, first, there, rfl⟩ := gives_ap.mp given
    obtain ⟨_, value, keyed, decoded, rfl⟩ := gives_ap.mp first
    obtain ⟨name, held, rfl⟩ := gives_map.mp keyed
    have same : key = name := by
      unfold tableKey at held
      split_ifs at held
      · cases held
      · exact Checked.valid.inj held
    obtain ⟨keys, values⟩ := ih each there
    refine ⟨?_, List.forall_mem_cons.mpr ⟨makes json distinct value (gives_under.mp decoded), values⟩⟩
    rw [same]
    exact congrArg (name :: ·) keys

/-- **A table that is decoded has the keys of its object**, and values that the decoder makes. -/
theorem makes_table (makes : Decoder.Makes Json.Distinct decode p) :
    Decoder.Makes Json.Distinct (table decode) fun t => (Keyed.keys t).Nodup ∧ ∀ entry ∈ t, p entry.2 := by
  intro json distinct t given
  cases json with
  | object members =>
    obtain ⟨keys, each⟩ := Json.distinct_object.mp distinct
    obtain ⟨same, values⟩ := gives_tableEntries makes each given
    exact ⟨same ▸ keys, values⟩
  | _ => exact nomatch given

theorem exists_role_of_unknownRoles {roles : RoleTable} (none : unknownRoles roles = []) :
    ∀ entry ∈ roles, ∃ role : Role, role.name = entry.1 := by
  intro entry inside
  have unknown : ((Keyed.keys roles).filter fun name => (Role.ofName? name).isNone) = [] := by
    rw [← List.length_eq_zero_iff, ← List.length_mergeSort]
    exact List.length_eq_zero_iff.mpr none
  have known := List.filter_eq_nil_iff.mp unknown entry.1 (List.mem_map.mpr ⟨entry, inside, rfl⟩)
  cases named : Role.ofName? entry.1 with
  | none =>
    rw [named] at known
    exact absurd rfl known
  | some role => exact ⟨role, Role.name_of_ofName? named⟩

theorem unknownRoles_of_knownRoles {t : VariantTable} (known : (knownRoles t).Gives ()) :
    ∀ variant ∈ t, unknownRoles variant.2 = [] := by
  induction t with
  | nil => exact List.forall_mem_nil _
  | cons variant rest ih =>
    unfold knownRoles at known
    split at known
    · rename_i none
      exact List.forall_mem_cons.mpr ⟨none, ih known⟩
    · cases known

/-- **The defaults tables that are decoded are findable.** -/
theorem makes_variantTable : Decoder.Makes Json.Distinct variantTable Findable := by
  have makes := makes_table (makes_table (makes_table
    (show Decoder.Makes Json.Distinct entry fun _ => True from fun _ _ _ _ => trivial)))
  intro json distinct t given
  unfold variantTable at given
  cases read : table (table (table entry)) json with
  | invalid problems =>
    rw [read] at given
    exact nomatch given
  | valid held =>
    rw [read] at given
    obtain ⟨_, known, rfl⟩ := gives_map.mp given
    obtain ⟨variants, roles⟩ := makes json distinct held read
    exact
      { variants := variants
        roles := fun variant inside => (roles variant inside).1
        subTypes := fun variant inside role there => ((roles variant inside).2 role there).1
        known := fun variant inside => exists_role_of_unknownRoles (unknownRoles_of_knownRoles known variant inside) }

end Tables

/-! ## Configured entries -/

section Configured

variable {settings : Settings}

/-- **The table of validated settings is findable.** -/
theorem Validated.findable (valid : settings.Validated) : Findable settings.variants := by
  obtain ⟨members, distinct, decoded⟩ := valid
  obtain ⟨-, -, -, -, -, -, -, -, variants, -, -⟩ := gives_decode_iff.mp decoded
  refine Decoder.makes_withDefault (Json.distinct_object.mp distinct).2 makes_variantTable ?_ variants
  exact ⟨List.nodup_nil, List.forall_mem_nil _, List.forall_mem_nil _, List.forall_mem_nil _⟩

/-- **An entry of a findable table is the one at its place.** -/
theorem Findable.entryAt {catalog : DefaultsCatalog} (findable : Findable catalog.variants) {variant : String}
    {roles : RoleTable} {role : Role} {subTypes : SubTypeTable} {subType : String} {entry : Quantities}
    (hv : (variant, roles) ∈ catalog.variants) (hr : (role.name, subTypes) ∈ roles) (hs : (subType, entry) ∈ subTypes) :
    catalog.entryAt variant role subType = some entry := by
  rw [DefaultsCatalog.entryAt, Keyed.find?_of_mem findable.variants hv, Option.bind_some,
    Keyed.find?_of_mem (findable.roles _ hv) hr, Option.bind_some, Keyed.find?_of_mem (findable.subTypes _ hv _ hr) hs]

/-- **A lookup falls back in four steps, and a configured entry is returned for its own key.** In any catalog the first
of four places that has an entry decides, whatever the entry sets, and its quantities stand over the base quantities.
The catalog of validated settings has their table, over the four general quantities of the settings, and every entry of
the table is found under its variant, its role, which is one that there is, and its source type. -/
theorem lookup_falls_back :
    (∀ (catalog : DefaultsCatalog) (role : Role) (subType : Option String) (variant : String),
      catalog.lookup role subType variant =
        match (DefaultsCatalog.places variant (subType.getD "default")).findSome? fun place =>
            catalog.entryAt place.1 role place.2 with
        | some entry => entry.orElse catalog.base
        | none => catalog.base) ∧
      ∀ settings : Settings, settings.Validated →
        settings.defaultsCatalog.variants = settings.variants ∧
          settings.defaultsCatalog.base =
            ⟨settings.cpuRequest, settings.cpuLimit, settings.memoryRequest, settings.memoryLimit, none, none⟩ ∧
          ∀ variant roles roleName subTypes subType entry, (variant, roles) ∈ settings.variants →
            (roleName, subTypes) ∈ roles → (subType, entry) ∈ subTypes →
            ∃ role : Role, role.name = roleName ∧
              settings.defaultsCatalog.lookup role (some subType) variant =
                entry.orElse settings.defaultsCatalog.base := by
  refine ⟨fun catalog role subType variant => catalog.lookup_eq_findSome role subType variant,
    fun settings valid => ⟨rfl, rfl, ?_⟩⟩
  intro variant roles roleName subTypes subType entry hv hr hs
  have findable : Findable settings.defaultsCatalog.variants := valid.findable
  obtain ⟨role, rfl⟩ := findable.known _ hv _ hr
  exact ⟨role, rfl, DefaultsCatalog.lookup_of_entryAt (findable.entryAt hv hr hs)⟩

end Configured

namespace BareEntry

/-- A process environment with a general processor limit, an entry for sources that sets another, and an entry for one
type of sources that sets nothing. -/
def surroundings : Surroundings :=
  ⟨[("JOB_DEFAULT_CPU_LIMIT", "1"), ("RESOURCE_REQUIREMENT_VARIANTS",
    "\x7b\"default\": \x7b\"source\": \x7b\"default\": \x7b\"cpu_limit\": \"2\"\x7d, \"api\": \x7b\x7d\x7d\x7d\x7d")],
    none, 900⟩

/-- The settings loaded from it. -/
def settings : Settings where
  environmentName := "development"
  databaseUrl := defaultDatabaseUrl
  logLevel := "INFO"
  logJson := true
  cpuRequest := none
  cpuLimit := some "1"
  memoryRequest := none
  memoryLimit := none
  variants := [("default", [("source", [("default", { Quantities.none with cpuLimit := some "2" }),
    ("api", Quantities.none)])])]
  flags := []
  flagOverrides := []

/-- The entry that sets nothing ends the search, so that sources of its type have the general limit in any variant. The
sources of other types have the limit of the other entry. -/
theorem lookup_bare :
    load surroundings = .ok settings ∧
      settings.defaultsCatalog.lookup .source (some "api") "large" = { Quantities.none with cpuLimit := some "1" } ∧
      settings.defaultsCatalog.lookup .source none "default" = { Quantities.none with cpuLimit := some "2" } := by
  have loaded : load surroundings = .ok settings := ok_of_toOption (by decide +kernel)
  have laws := lookup_falls_back
  obtain ⟨-, base, configured⟩ := laws.2 settings (validated_of_load loaded)
  obtain ⟨role, named, found⟩ := configured _ _ _ _ "default" _ List.mem_cons_self List.mem_cons_self List.mem_cons_self
  refine ⟨loaded, (laws.1 _ _ _ _).trans (by decide), ?_⟩
  cases role <;> first | exact found | exact absurd named (by decide)

end BareEntry

end Settings

end ConnectionJobs
