import ConnectionJobs.Proofs.Double.Forms
import ConnectionJobs.Proofs.Json.Nested
import ConnectionJobs.Proofs.Resource.Override
import ConnectionJobs.Proofs.Settings.DefaultsTable

/-!
# Quantities that are written in two places

An operator writes quantities as a JSON object, in the payload of an override or in an entry of the defaults table. The
two places accept the same members with the same values, and one would expect the same object to mean the same
quantities in both. Texts do, and integers that both readers take. Other numbers become texts in different forms, and a
number with very many digits before its point is refused by one reader and taken by the other; so is an integer that is
too long only because its sign counts.

`Quantities.writtenIn` says what members mean when numbers are written in some form. Each place is shown to read just
that, with its own form, so the question is only where the forms differ, and `Double.WrittenAlike` answers it.
-/

namespace ConnectionJobs

/-! ## Quantity objects -/

/-- **A value that a quantity may be written as**: null, a text without half of a surrogate pair, or a number. -/
inductive Json.IsQuantity : Json → Prop
  /-- Nothing is set. -/
  | null : IsQuantity .null
  /-- A text. -/
  | text {s : String} (whole : Text.isBroken s = false) : IsQuantity (.text s)
  /-- An integer. -/
  | integer (n : Int) : IsQuantity (.integer n)
  /-- A number with a fraction or an exponent. -/
  | real (x : Double) : IsQuantity (.real x)

/-- **An object of quantities**: its members are among the six, and may be written so. -/
structure IsQuantityObject (ms : Members) : Prop where
  /-- No member is anything else. -/
  named : ∀ key ∈ Keyed.keys ms, key ∈ Settings.quantityNames
  /-- The values are nulls, texts and numbers. -/
  values : ∀ member ∈ ms, member.2.IsQuantity

/-- **The quantity that a value is**, when numbers are written in some form. -/
def Json.quantity? (form : Double → String) : Json → Option String
  | .text s => some s
  | .integer n => some (toString n)
  | .real x => some (form x)
  | _ => none

/-- **The quantities that members mean**, when numbers are written in some form: the last member of a name counts. -/
def Quantities.writtenIn (form : Double → String) (ms : Members) : Quantities where
  cpuRequest := (Keyed.last? "cpu_request" ms).bind (Json.quantity? form)
  cpuLimit := (Keyed.last? "cpu_limit" ms).bind (Json.quantity? form)
  memoryRequest := (Keyed.last? "memory_request" ms).bind (Json.quantity? form)
  memoryLimit := (Keyed.last? "memory_limit" ms).bind (Json.quantity? form)
  storageRequest := (Keyed.last? "ephemeral_storage_request" ms).bind (Json.quantity? form)
  storageLimit := (Keyed.last? "ephemeral_storage_limit" ms).bind (Json.quantity? form)

section Objects

variable {ms : Members} {form other : Double → String} {key : String} {v : Json}
  {member : String × (Quantities → Option String)}

/-- Each quantity is what the last member of its name means. -/
theorem Quantities.field_writtenIn (h : member ∈ members) (form : Double → String) (ms : Members) :
    member.2 (writtenIn form ms) = (Keyed.last? member.1 ms).bind (Json.quantity? form) := by
  simp only [members, List.mem_cons, List.not_mem_nil, or_false] at h
  obtain rfl | rfl | rfl | rfl | rfl | rfl := h <;> rfl

/-- **Quantities are told by their members.** -/
theorem Quantities.eq_iff {q q' : Quantities} : q = q' ↔ ∀ member ∈ members, member.2 q = member.2 q' := by
  obtain ⟨a, b, c, d, e, f⟩ := q
  obtain ⟨a', b', c', d', e', f'⟩ := q'
  simp [members]

theorem IsQuantityObject.last (object : IsQuantityObject ms) (found : Keyed.last? key ms = some v) : v.IsQuantity := by
  obtain ⟨entry, inside, rfl⟩ := Keyed.exists_mem_of_find? found
  exact object.values entry (List.mem_reverse.mp inside)

theorem Json.IsQuantity.height (quantity : v.IsQuantity) (scalar : Nat) : v.height scalar = scalar := by
  cases quantity <;> rfl

theorem Json.IsQuantity.settled (quantity : v.IsQuantity) : v.settled = v := by cases quantity <;> rw [Json.settled]

theorem IsQuantityObject.height (object : IsQuantityObject ms) (scalar : Nat) :
    (Json.object ms).height scalar ≤ scalar + 1 :=
  Json.height_object_le.mpr fun member inside => ((object.values member inside).height scalar).le

end Objects

/-! ## The override -/

section Override

variable {ms : Members} {t : String}

/-- The quantities of an object are overridden by it. -/
theorem IsQuantityObject.overrides (object : IsQuantityObject ms) :
    Overrides ms (.writtenIn Double.quantityText ms) := by
  intro member inside
  rw [Quantities.field_writtenIn inside]
  cases found : Keyed.last? member.1 ms with
  | none => exact .absent
  | some v =>
    cases object.last found with
    | null => exact .null
    | text => exact .text _
    | integer n => exact .integer n
    | real x => exact .real x

variable [Json.Release]

/-- **A payload that is a text of a quantity object overrides its quantities.** -/
theorem quantities?_of_hasText (object : IsQuantityObject ms) (text : (Json.object ms).HasText t) :
    (OverrideReading.ofPayload t).quantities? = some (.writtenIn Double.quantityText ms) := by
  have override : IsOverride t (.writtenIn Double.quantityText ms) :=
    ⟨ms, text, (object.height 1).trans (by decide), object.overrides⟩
  rw [ofPayload_eq_quantities_iff.mpr override]
  rfl

end Override

/-! ## The entry -/

namespace Settings

open Checked (Gives gives_map gives_ap gives_under)

/-- **The entry that settings read**, when the defaults table is all that is set and has the object that a text spells
at one place, for a variant, a role and a source type. -/
def readEntry (room : Nat) (variant : String) (role : Role) (subType : String) (t : String) : Option Quantities :=
  match load ⟨[("RESOURCE_REQUIREMENT_VARIANTS",
    Json.memberText variant (Json.memberText role.name (Json.memberText subType t)))], none, room⟩ with
  | .ok settings => settings.defaultsCatalog.entryAt variant role subType
  | .error _ => none

section Entry

variable {room : Nat} {ms : Members} {variant subType t document key : String} {role : Role} {json v : Json}

/-- A value that a quantity may be written as is decoded as the quantity that it is, in the general form. -/
theorem gives_quantity (quantity : v.IsQuantity) :
    (Decoder.nullable (intact (Decoder.textOrNumber Double.generalText)) v).Gives (v.quantity? Double.generalText) := by
  cases quantity with
  | null => rfl
  | text whole =>
    show (some <$> if _ then _ else _ : Checked (Option String)).Gives _
    rw [whole, if_neg Bool.false_ne_true]
    rfl
  | integer n => rfl
  | real x => rfl

/-- **A quantity object is decoded as an entry** that has its quantities, in the general form. -/
theorem gives_entry (object : IsQuantityObject ms) :
    (entry (Json.object ms).settled).Gives (.writtenIn Double.generalText ms) := by
  have quantities : (Decoder.writtenQuantities (intact (Decoder.textOrNumber Double.generalText))
      (Keyed.settle (Json.settledMembers ms))).Gives (.writtenIn Double.generalText ms) := by
    rw [gives_members_iff]
    intro member inside
    rw [Quantities.field_writtenIn inside, Decoder.omissible, Decoder.withDefault, find?_settledMembers]
    cases found : Keyed.last? member.1 ms with
    | none => rfl
    | some v =>
      rw [Option.map_some, (object.last found).settled, Option.bind_some]
      exact (gives_quantity (object.last found)).under
  have known : (noUnknownMembers (Keyed.settle (Json.settledMembers ms))).Gives () := by
    have none : unknownMembers (Keyed.settle (Json.settledMembers ms)) = [] := by
      refine List.filterMap_eq_nil_iff.mpr fun member inside => if_pos ?_
      have settled := Keyed.mem_keys_of_settle (List.mem_map.mpr ⟨member, inside, rfl⟩)
      rw [Json.settledMembers_eq_map, Keyed.keys, List.map_map] at settled
      exact object.named _ settled
    rw [noUnknownMembers, none]
    rfl
  rw [Json.settled]
  exact quantities.map.ap known

/-- A table with one entry is decoded from an object with one member. -/
theorem gives_table {α : Type} {decode : Decoder α} {a : α} (whole : Text.isBroken key = false)
    (decoded : (decode v).Gives a) : (table decode (.object [(key, v)])).Gives [(key, a)] := by
  have kept : (tableKey key).Gives key := by
    unfold tableKey
    rw [whole, if_neg Bool.false_ne_true]
    rfl
  exact (kept.map.ap decoded.under).ap rfl

/-- The defaults table, as the environment names it. -/
theorem lowered_variants : lowered [("RESOURCE_REQUIREMENT_VARIANTS", some document)] =
    [("resource_requirement_variants", some document)] := by
  have lower : Text.inSmallLetters "RESOURCE_REQUIREMENT_VARIANTS" = "resource_requirement_variants" := by
    decide +kernel
  show [(Text.inSmallLetters "RESOURCE_REQUIREMENT_VARIANTS", some document)] = _
  rw [lower]

/-- The defaults table is all that the sources give. -/
theorem collect_variants (read : Json.read (Json.settingRules room) document = .ok json) (filled : json ≠ .null) :
    collect room fields [("RESOURCE_REQUIREMENT_VARIANTS", document)] none =
      .ok [("resource_requirement_variants", json)] := by
  have value : fieldValue room .environment ⟨"resource_requirement_variants", true⟩ document = .ok (some json) := by
    unfold fieldValue
    rw [if_pos rfl, read]
    cases json with
    | null => exact absurd rfl filled
    | _ => rfl
  have environment : given room .environment [("resource_requirement_variants", some document)] fields =
      .ok [("resource_requirement_variants", json)] := by
    simp [fields, given, Keyed.find?, value]
    rfl
  have file : given room .file [] fields = .ok [] := rfl
  show (given room .environment (lowered [("RESOURCE_REQUIREMENT_VARIANTS", some document)]) fields >>= fun upper =>
    given room .file [] fields >>= fun lower => .ok (overlayMembers lower upper)) = _
  rw [lowered_variants, environment, file]
  show Except.ok (overlayMembers [] [("resource_requirement_variants", json)]) = _
  rw [overlayMembers, overlayMembers]
  rfl

/-- **A defaults table that is all that the sources give** is the table of the settings. -/
theorem exists_load_of_table {table : VariantTable} (read : Json.read (Json.settingRules room) document = .ok json)
    (filled : json ≠ .null) (decoded : (variantTable json).Gives table) :
    ∃ settings, load ⟨[("RESOURCE_REQUIREMENT_VARIANTS", document)], none, room⟩ = .ok settings ∧
      settings.variants = table := by
  obtain ⟨settings, valid, variants⟩ : ∃ settings,
      (decode [("resource_requirement_variants", json)]).Gives settings ∧ settings.variants = table :=
    ⟨{ environmentName := "development", databaseUrl := defaultDatabaseUrl, logLevel := "INFO", logJson := true
       cpuRequest := none, cpuLimit := none, memoryRequest := none, memoryLimit := none
       variants := table, flags := [], flagOverrides := [] },
      gives_decode_iff.mpr ⟨rfl, rfl, rfl, rfl, rfl, rfl, rfl, rfl, Gives.under decoded, rfl, rfl⟩, rfl⟩
  refine ⟨settings, ?_, variants⟩
  unfold load
  rw [collect_variants read filled]
  dsimp only
  rw [show decode _ = .valid settings from valid]

/-- **An entry of the defaults table is read as what it decodes to**, when nothing else is set. -/
theorem readEntry_eq {q : Quantities} (wholeVariant : Text.isBroken variant = false)
    (wholeSubType : Text.isBroken subType = false)
    (read : Json.read (Json.settingRules room)
      (Json.memberText variant (Json.memberText role.name (Json.memberText subType t))) =
        .ok (.object [(variant, .object [(role.name, .object [(subType, json)])])]))
    (decoded : (entry json).Gives q) : readEntry room variant role subType t = some q := by
  have wholeRole : Text.isBroken role.name = false := by cases role <;> decide +kernel
  have entries := gives_table wholeVariant (gives_table wholeRole (gives_table wholeSubType decoded))
  have known : (knownRoles [(variant, [(role.name, [(subType, q)])])]).Gives () := by
    have named : Role.ofName? role.name = some role := by cases role <;> rfl
    have none : unknownRoles [(role.name, [(subType, q)])] = [] := by simp [unknownRoles, Keyed.keys, named]
    rw [knownRoles, none]
    rfl
  have table : (variantTable (.object [(variant, .object [(role.name, .object [(subType, json)])])])).Gives
      [(variant, [(role.name, [(subType, q)])])] := by
    unfold variantTable
    rw [show Settings.table _ _ = .valid _ from entries]
    exact known.map
  obtain ⟨settings, loaded, variants⟩ := exists_load_of_table read nofun table
  unfold readEntry
  rw [loaded]
  show DefaultsCatalog.entryAt ⟨_, settings.variants⟩ variant role subType = _
  rw [variants, DefaultsCatalog.entryAt]
  simp [Keyed.find?]

end Entry

section Agreement

variable {room : Nat} {ms : Members} {variant subType t key : String} {role : Role} {v : Json}

/-- The document around a text: it has the text's value at one place of the defaults table. -/
theorem hasFreeText_document (text : v.HasFreeText t) (variant roleName subType : String) :
    (Json.object [(variant, .object [(roleName, .object [(subType, v)])])]).HasFreeText
      (Json.memberText variant (Json.memberText roleName (Json.memberText subType t))) :=
  ((text.member subType).member roleName).member variant

theorem settled_member (key : String) (v : Json) :
    (Json.object [(key, v)]).settled = .object [(key, v.settled)] := by
  rw [Json.settled, Json.settledMembers, Json.settledMembers]
  rfl

theorem fits_member {countsSign : Bool} : (Json.object [(key, v)]).Fits countsSign ↔ v.Fits countsSign := by
  rw [Json.Fits, Json.everyInteger_object, List.forall_mem_singleton]
  rfl

theorem height_member (scalar : Nat) (key : String) (v : Json) :
    (Json.object [(key, v)]).height scalar = v.height scalar + 1 := by
  rw [Json.height, Json.heightOfMembers, Json.heightOfMembers, Nat.max_zero]

/-- **Settings read the quantities of an object** from any free text of it, when its integers have few enough digits and
there is room for the table. -/
theorem readEntry_of_fits (object : IsQuantityObject ms) (text : (Json.object ms).HasFreeText t)
    (fits : (Json.object ms).Fits false) (enough : 4 ≤ room) (wholeVariant : Text.isBroken variant = false)
    (wholeSubType : Text.isBroken subType = false) :
    readEntry room variant role subType t = some (.writtenIn Double.generalText ms) := by
  refine readEntry_eq wholeVariant wholeSubType ?_ (gives_entry object)
  rw [Json.read_of_free rfl (hasFreeText_document text variant role.name subType)
    (fits_member.mpr (fits_member.mpr (fits_member.mpr fits))), settled_member, settled_member, settled_member]
  rw [height_member, height_member, height_member]
  have flat : (Json.object ms).height (Json.settingRules room).scalar ≤ 0 + 1 := object.height 0
  show _ ≤ room
  omega

end Agreement

namespace HalfCore

/-- Half a core. -/
def half : Double := .ofDecimal false 5 (-1)

/-- An object with a text, an integer, a number with a fraction and a null. -/
def members : Members :=
  [("memory_limit", .text "1Gi"), ("cpu_request", .integer 2), ("cpu_limit", .real half), ("memory_request", .null)]

/-- Its text. -/
def document : String :=
  "\x7b\"memory_limit\":\"1Gi\",\"cpu_request\":2,\"cpu_limit\":0.5,\"memory_request\":null\x7d"

theorem isQuantityObject : IsQuantityObject members where
  named := by decide
  values := by
    simp only [members, List.forall_mem_cons, List.not_mem_nil, false_imp_iff, implies_true, and_true]
    exact ⟨.text (by decide), .integer 2, .real half, .null⟩

theorem hasText : (Json.object members).HasText document := by
  have exact : (Json.object members).Exact := by
    refine Json.exact_object (by decide) ?_
    simp only [members, List.forall_mem_cons, List.not_mem_nil, false_imp_iff, implies_true, and_true]
    exact ⟨Json.exact_text _, Json.exact_integer 2, Json.exact_real (by decide +kernel), Json.exact_null⟩
  have written : (Json.object members).write = document := by decide +kernel
  exact written ▸ Json.hasText_of_exact exact (by decide +kernel)

end HalfCore

namespace WholeCore

/-- One core, as a number with a fraction. -/
def one : Double := .ofDecimal false 1 0

/-- An object with that number. -/
def members : Members := [("cpu_limit", .real one)]

/-- Its text. -/
def document : String := "\x7b\"cpu_limit\":1.0\x7d"

theorem isQuantityObject : IsQuantityObject members where
  named := by decide
  values := List.forall_mem_singleton.mpr (.real one)

theorem hasText : (Json.object members).HasText document := by
  have exact : (Json.object members).Exact :=
    Json.exact_object (by decide) (List.forall_mem_singleton.mpr (Json.exact_real (by decide +kernel)))
  have written : (Json.object members).write = document := by decide +kernel
  exact written ▸ Json.hasText_of_exact exact (by decide +kernel)

/-- **The two places read one object differently**: one core is `1` in an override, and `1.0` in an entry. -/
theorem exists_readings_differ : IsQuantityObject members ∧ (Json.object members).HasText document ∧
    (OverrideReading.ofPayload document).quantities? = some { Quantities.none with cpuLimit := some "1" } ∧
    readEntry 900 "default" .source "default" document = some { Quantities.none with cpuLimit := some "1.0" } := by
  refine ⟨isQuantityObject, hasText, ?_, ?_⟩
  · rw [quantities?_of_hasText isQuantityObject hasText]
    decide +kernel
  · rw [readEntry_of_fits isQuantityObject hasText.free (by decide +kernel) (by decide) (by decide) (by decide)]
    decide +kernel

end WholeCore

end Settings

end ConnectionJobs
