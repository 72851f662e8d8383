import ConnectionJobs.Proofs.Json.Grammar
import ConnectionJobs.Proofs.Validation.Decoder
import ConnectionJobs.Resource.Policy

/-!
# What an override payload means

An operator writes an override as a text, and a text that is not taken as it is meant overrides nothing: jobs keep being
created, with resources from somewhere else. So it matters exactly which texts are taken. They are the texts of objects
whose six quantity members are absent, null, texts or numbers; every other text that is not blank is reported, once.

The object is taken *as it is written* (`HasText`), and a member that is written several times counts where it is
written last. Nothing else of the object counts: not its other members, not the order of its members, and not how it is
spelled. But the object has to be one that the reader takes, and a member that does not count can still make it too
deep.
-/

namespace ConnectionJobs

/-! ## Members -/

/-- **The members of an override**, each with the quantity that it sets. -/
def Quantities.members : List (String × (Quantities → Option String)) :=
  [("cpu_request", cpuRequest), ("cpu_limit", cpuLimit), ("memory_request", memoryRequest),
    ("memory_limit", memoryLimit), ("ephemeral_storage_request", storageRequest),
    ("ephemeral_storage_limit", storageLimit)]

/-- **What a member sets its quantity to**: to nothing when it is absent or null, to its text, or to the text of its
number. A member with any other value sets it to nothing and is not allowed. -/
inductive Sets : Option Json → Option String → Prop
  /-- The member is absent. -/
  | absent : Sets none none
  /-- The member is null. -/
  | null : Sets (some .null) none
  /-- The member is a text. -/
  | text (s : String) : Sets (some (.text s)) (some s)
  /-- The member is an integer. -/
  | integer (n : Int) : Sets (some (.integer n)) (some (toString n))
  /-- The member is a number with a fraction or an exponent. -/
  | real (x : Double) : Sets (some (.real x)) (some x.quantityText)

/-- **Members override quantities**: each quantity is what the last member under its key sets it to. -/
def Overrides (ms : Members) (q : Quantities) : Prop :=
  ∀ member ∈ Quantities.members, Sets (Keyed.last? member.1 ms) (member.2 q)

/-- **A payload overrides quantities**: it is a text of an object that does, in which nothing stands inside of more than
two hundred containers. -/
def IsOverride [Json.Release] (payload : String) (q : Quantities) : Prop :=
  ∃ ms : Members, (Json.object ms).HasText payload ∧ (Json.object ms).depth ≤ 201 ∧ Overrides ms q

/-- **The members of an override that sets these quantities** and no others. -/
def Quantities.setMembers (q : Quantities) : Members :=
  Quantities.members.filterMap fun member => (member.2 q).map fun quantity => (member.1, .text quantity)

section Members

variable {key : String} {ms : Members} {o : Option String} {q : Quantities}

theorem sets_map_settled {value : Option Json} : Sets (value.map Json.settled) o ↔ Sets value o := by
  cases value with
  | none => exact Iff.rfl
  | some v =>
    cases v with
    | array | object =>
      rw [Option.map_some, Json.settled]
      constructor
      · rintro ⟨⟩
      · rintro ⟨⟩
    | _ => rw [Option.map_some, Json.settled]

/-- **A settled object is read where it was written last.** -/
theorem find?_settledMembers (key : String) (ms : Members) :
    Keyed.find? key (Keyed.settle (Json.settledMembers ms)) = (Keyed.last? key ms).map Json.settled := by
  rw [Keyed.find?_settle, Keyed.last?, Json.settledMembers_eq_map, ← List.map_reverse, Keyed.last?]
  generalize ms.reverse = entries
  induction entries with
  | nil => rfl
  | cons entry rest ih =>
    rw [List.map_cons, Keyed.find?, Keyed.find?, ih]
    split_ifs <;> rfl

/-- A decoder of one quantity gives what its member sets. -/
theorem gives_quantity_iff :
    (Decoder.omissible key (Decoder.textOrNumber Double.quantityText) ms).Gives o ↔ Sets (Keyed.find? key ms) o := by
  unfold Decoder.omissible Decoder.withDefault
  cases Keyed.find? key ms with
  | none =>
    constructor
    · rintro ⟨⟩
      exact .absent
    · rintro ⟨⟩
      rfl
  | some v =>
    cases v with
    | boolean | array | object =>
      constructor
      · rintro ⟨⟩
      · rintro ⟨⟩
    | null =>
      constructor
      · rintro ⟨⟩
        exact .null
      · rintro ⟨⟩
        rfl
    | text s =>
      constructor
      · rintro ⟨⟩
        exact .text s
      · rintro ⟨⟩
        rfl
    | integer n =>
      constructor
      · rintro ⟨⟩
        exact .integer n
      · rintro ⟨⟩
        rfl
    | real x =>
      constructor
      · rintro ⟨⟩
        exact .real x
      · rintro ⟨⟩
        rfl

/-- **The six quantities are decoded member by member**, whatever decodes one. -/
theorem gives_members_iff {quantity : Decoder String} : (Decoder.writtenQuantities quantity ms).Gives q ↔
    ∀ member ∈ Quantities.members, (Decoder.omissible member.1 quantity ms).Gives (member.2 q) := by
  simp only [Decoder.writtenQuantities, Checked.gives_ap, Checked.gives_map, Quantities.members,
    List.forall_mem_cons, List.not_mem_nil, false_imp_iff, implies_true, and_true]
  constructor
  · rintro ⟨_, _, ⟨_, _, ⟨_, _, ⟨_, _, ⟨_, _, ⟨_, h₁, rfl⟩, h₂, rfl⟩, h₃, rfl⟩, h₄, rfl⟩, h₅, rfl⟩, h₆, rfl⟩
    exact ⟨h₁, h₂, h₃, h₄, h₅, h₆⟩
  · rintro ⟨h₁, h₂, h₃, h₄, h₅, h₆⟩
    exact ⟨_, _, ⟨_, _, ⟨_, _, ⟨_, _, ⟨_, _, ⟨_, h₁, rfl⟩, h₂, rfl⟩, h₃, rfl⟩, h₄, rfl⟩, h₅, rfl⟩, h₆, rfl⟩

/-- The six quantities of an override are what their members set. -/
theorem gives_writtenQuantities_iff :
    (Decoder.writtenQuantities (Decoder.textOrNumber Double.quantityText) ms).Gives q ↔
      ∀ member ∈ Quantities.members, Sets (Keyed.find? member.1 ms) (member.2 q) := by
  simp only [gives_members_iff, gives_quantity_iff]

/-- **A settled object is decoded as the override that its members are.** -/
theorem gives_override_iff : (Decoder.override (Json.object ms).settled).Gives q ↔ Overrides ms q := by
  rw [Json.settled]
  show (Decoder.writtenQuantities _ _).Gives q ↔ _
  rw [gives_writtenQuantities_iff]
  simp only [find?_settledMembers, sets_map_settled]
  exact Iff.rfl

end Members

/-! ## Payloads -/

section Payloads

variable [Json.Release] {payload : String} {q : Quantities}

/-- **The payloads that are accepted are those that override something.** -/
theorem gives_payload_iff : (decodeText Decoder.override payload).Gives q ↔ IsOverride payload q := by
  unfold decodeText
  constructor
  · intro given
    split at given
    · rename_i v read
      obtain ⟨raw, text, shallow, rfl⟩ := Json.exists_hasText read
      cases raw with
      | object ms => exact ⟨ms, text, shallow, gives_override_iff.mp given⟩
      | _ => exact nomatch given
    · cases given
  · rintro ⟨ms, text, shallow, overrides⟩
    rw [Json.readDocument?_of_hasText text shallow]
    exact gives_override_iff.mpr overrides

/-- The text of an object is not blank: it has a brace. -/
theorem not_blank_of_hasText {ms : Members} (text : (Json.object ms).HasText payload) :
    Text.isBlankText payload = false := by
  obtain ⟨ts, opens⟩ : ∃ ts, Json.tokensOf (.object ms) [] = .openObject :: ts := by
    cases ms <;> exact ⟨_, by rw [Json.tokensOf]⟩
  unfold Json.HasText at text
  rw [opens] at text
  generalize cs_eq : payload.toList = cs at text
  cases text with
  | token spaces spells others =>
    obtain rfl := spells.eq_spelling trivial
    refine Bool.eq_false_iff.mpr fun blank => ?_
    have all := List.all_eq_true.mp blank '\x7b' (by rw [cs_eq]; simp [Json.Token.spelling])
    exact absurd all (by decide)

/-- **A payload is read as an override exactly when it is one.** -/
theorem ofPayload_eq_quantities_iff : OverrideReading.ofPayload payload = .quantities q ↔ IsOverride payload q := by
  rw [← gives_payload_iff]
  unfold OverrideReading.ofPayload
  constructor
  · intro same
    split_ifs at same
    split at same
    · rename_i decoded
      cases same
      exact decoded
    · cases same
  · intro given
    obtain ⟨ms, text, -, -⟩ := gives_payload_iff.mp given
    rw [if_neg (Bool.eq_false_iff.mp (not_blank_of_hasText text)), show _ = Checked.valid q from given]

/-- Every other payload that is not blank is malformed. -/
theorem exists_malformed (visible : Text.isBlankText payload = false) (none : ∀ q, ¬IsOverride payload q) :
    ∃ problems, OverrideReading.ofPayload payload = .malformed problems := by
  cases reading : OverrideReading.ofPayload payload with
  | blank =>
    unfold OverrideReading.ofPayload at reading
    rw [if_neg (Bool.eq_false_iff.mp visible)] at reading
    split at reading <;> cases reading
  | quantities q => exact absurd (ofPayload_eq_quantities_iff.mp reading) (none q)
  | malformed problems => exact ⟨problems, rfl⟩

/-- A payload that is too deep is malformed, whatever its members are. -/
theorem exists_malformed_of_deep {ms : Members} (text : (Json.object ms).HasText payload)
    (deep : 201 < (Json.object ms).depth) : ∃ problems, OverrideReading.ofPayload payload = .malformed problems := by
  have unread : decodeText Decoder.override payload = .fail .jsonInvalid := by
    unfold decodeText
    rw [Json.readDocument?_of_deep text deep]
  unfold OverrideReading.ofPayload
  rw [if_neg (Bool.eq_false_iff.mp (not_blank_of_hasText text)), unread]
  exact ⟨_, rfl⟩

/-- **Only the six members count**, and of each only the last. -/
theorem ofPayload_congr {other : String} {ms ms' : Members} (text : (Json.object ms).HasText payload)
    (text' : (Json.object ms').HasText other) (shallow : (Json.object ms).depth ≤ 201)
    (shallow' : (Json.object ms').depth ≤ 201)
    (same : ∀ member ∈ Quantities.members, Keyed.last? member.1 ms = Keyed.last? member.1 ms') :
    OverrideReading.ofPayload payload = OverrideReading.ofPayload other := by
  have decoded : decodeText Decoder.override payload = decodeText Decoder.override other := by
    unfold decodeText
    rw [Json.readDocument?_of_hasText text shallow, Json.readDocument?_of_hasText text' shallow', Json.settled,
      Json.settled]
    have found : ∀ member ∈ Quantities.members,
        Keyed.find? member.1 (Keyed.settle (Json.settledMembers ms)) =
          Keyed.find? member.1 (Keyed.settle (Json.settledMembers ms')) := fun member inside => by
      rw [find?_settledMembers, find?_settledMembers, same member inside]
    simp only [Quantities.members, List.forall_mem_cons] at found
    obtain ⟨h₁, h₂, h₃, h₄, h₅, h₆, -⟩ := found
    dsimp only [Decoder.override, Decoder.writtenQuantities, Decoder.omissible, Decoder.withDefault]
    rw [h₁, h₂, h₃, h₄, h₅, h₆]
  unfold OverrideReading.ofPayload
  rw [not_blank_of_hasText text, not_blank_of_hasText text', decoded]

end Payloads

/-! ## Overrides that are written -/

section Written

/-- What is found among the members of an override that sets some quantities, in any order of the members. -/
theorem find?_setMembers {table : List (String × (Quantities → Option String))} (distinct : (table.map Prod.fst).Nodup)
    (q : Quantities) {member : String × (Quantities → Option String)} (inside : member ∈ table) :
    Keyed.find? member.1 (table.filterMap fun m => (m.2 q).map fun quantity => (m.1, Json.text quantity)) =
      (member.2 q).map Json.text := by
  induction table with
  | nil => exact absurd inside List.not_mem_nil
  | cons head rest ih =>
    obtain ⟨fresh, distinct⟩ := List.nodup_cons.mp distinct
    obtain rfl | later := List.mem_cons.mp inside
    · cases set : member.2 q with
      | none =>
        rw [List.filterMap_cons_none (by rw [set]; rfl)]
        refine Keyed.find?_of_not_mem fun held => fresh ?_
        obtain ⟨_, there, same⟩ := List.mem_map.mp held
        obtain ⟨entry, here, made⟩ := List.mem_filterMap.mp there
        obtain ⟨_, -, rfl⟩ := Option.map_eq_some_iff.mp made
        exact List.mem_map.mpr ⟨entry, here, same⟩
      | some quantity =>
        rw [List.filterMap_cons_some (by rw [set]; rfl), Keyed.find?, if_pos rfl]
        rfl
    · have other : head.1 ≠ member.1 := fun same => fresh (same ▸ List.mem_map.mpr ⟨member, later, rfl⟩)
      cases set : head.2 q with
      | none =>
        rw [List.filterMap_cons_none (by rw [set]; rfl)]
        exact ih distinct later
      | some quantity =>
        rw [List.filterMap_cons_some (by rw [set]; rfl), Keyed.find?, if_neg other]
        exact ih distinct later

/-- **The members that set some quantities override them.** -/
theorem overrides_setMembers (q : Quantities) : Overrides q.setMembers q := by
  have distinct : (Quantities.members.reverse.map Prod.fst).Nodup := by decide
  intro member inside
  have found := find?_setMembers distinct q (List.mem_reverse.mpr inside)
  rw [List.filterMap_reverse] at found
  rw [Keyed.last?, Quantities.setMembers, found]
  cases member.2 q with
  | none => exact .absent
  | some quantity => exact .text quantity

theorem exists_text_of_mem_setMembers {q : Quantities} {member : String × Json} (inside : member ∈ q.setMembers) :
    ∃ s, member.2 = .text s := by
  obtain ⟨entry, -, same⟩ := List.mem_filterMap.mp inside
  obtain ⟨s, -, rfl⟩ := Option.map_eq_some_iff.mp same
  exact ⟨s, rfl⟩

theorem depth_setMembers (q : Quantities) : (Json.object q.setMembers).depth ≤ 201 := by
  refine Json.height_object_le.mpr fun member inside => ?_
  obtain ⟨s, same⟩ := exists_text_of_mem_setMembers inside
  rw [same]
  exact Nat.le_of_ble_eq_true rfl

variable [Json.Release]

/-- **An override is written as a text of its object.** -/
theorem hasText_setMembers (q : Quantities) : (Json.object q.setMembers).HasText (Json.object q.setMembers).write := by
  have short : (Json.object q.setMembers).Short := Json.short_object.mpr fun member inside n part => by
    obtain ⟨s, same⟩ := exists_text_of_mem_setMembers inside
    rw [same] at part
    cases part
  have same : (Json.object q.setMembers).written = .object q.setMembers := by
    rw [Json.written, Json.writtenMembers_eq_map]
    have each : ∀ member ∈ q.setMembers, (member.1, member.2.written) = member := fun member inside => by
      obtain ⟨s, text⟩ := exists_text_of_mem_setMembers inside
      rw [text, Json.written, ← text]
    rw [List.map_congr_left each, List.map_id']
  have text := Json.hasText_write short
  rwa [same] at text

theorem isOverride_setMembers {q : Quantities} {payload : String} (text : (Json.object q.setMembers).HasText payload) :
    IsOverride payload q :=
  ⟨q.setMembers, text, depth_setMembers q, overrides_setMembers q⟩

end Written

/-! ## Parsing -/

section Parsing

variable [Json.Release] {n : Type → Type} [Monad n] [LawfulMonad n] (log : Log.Sink n) (category : String)
  {payload : String}

theorem parseOverride_of_isOverride {q : Quantities} (override : IsOverride payload q) :
    parseOverride log category payload = pure (some q) := by
  unfold parseOverride
  rw [ofPayload_eq_quantities_iff.mpr override]
  exact pure_bind _ _

theorem parseOverride_of_blank (blank : Text.isBlankText payload = true) :
    parseOverride log category payload = pure none := by
  unfold parseOverride OverrideReading.ofPayload
  rw [if_pos blank]
  exact pure_bind _ _

theorem parseOverride_of_malformed {problems : List Problem}
    (malformed : OverrideReading.ofPayload payload = .malformed problems) :
    parseOverride log category payload = (do
      log (OverrideReading.report category payload problems)
      pure none) := by
  unfold parseOverride
  rw [malformed]
  simp [OverrideReading.reports, OverrideReading.quantities?, Log.reportAll]

/-- **A payload is blank, an override, or reported.** A blank payload overrides nothing, without a report. An override
gives its quantities, without a report. Any other payload overrides nothing, and there is one report, a warning that
names the category. Of an object that is not too deep only the last of each of the six members counts, and the object of
the quantities that are set, whichever way it is written, gives them back. -/
theorem parseOverride_outcome (payload : String) :
    (Text.isBlankText payload = true → parseOverride log category payload = pure none) ∧
    (∀ q, IsOverride payload q → parseOverride log category payload = pure (some q)) ∧
    (Text.isBlankText payload = false → (∀ q, ¬IsOverride payload q) →
      ∃ event : Log.Event, event.level = .warning ∧ event.context = [("ctx_role_category", .text category)] ∧
        parseOverride log category payload = (do
          log event
          pure none)) ∧
    (∀ other ms ms', (Json.object ms).HasText payload → (Json.object ms').HasText other →
      (Json.object ms).depth ≤ 201 → (Json.object ms').depth ≤ 201 →
      (∀ member ∈ Quantities.members, Keyed.last? member.1 ms = Keyed.last? member.1 ms') →
      OverrideReading.ofPayload payload = OverrideReading.ofPayload other) ∧
    ∀ q : Quantities, (∀ text, (Json.object q.setMembers).HasText text →
        parseOverride log category text = pure (some q)) ∧
      parseOverride log category (Json.object q.setMembers).write = pure (some q) := by
  refine ⟨parseOverride_of_blank log category, fun q => parseOverride_of_isOverride log category, ?_, ?_, ?_⟩
  · intro visible none
    obtain ⟨problems, malformed⟩ := exists_malformed visible none
    exact ⟨_, rfl, rfl, parseOverride_of_malformed log category malformed⟩
  · exact fun other ms ms' text text' shallow shallow' same => ofPayload_congr text text' shallow shallow' same
  · intro q
    have parses : ∀ text, (Json.object q.setMembers).HasText text →
        parseOverride log category text = pure (some q) := fun text spelled =>
      parseOverride_of_isOverride log category (isOverride_setMembers spelled)
    exact ⟨parses, parses _ (hasText_setMembers q)⟩

end Parsing

namespace MixedOverride

/-- A journal that reports are added to. -/
def journal : Log.Sink (StateM (List Log.Event)) := fun event => modify (· ++ [event])

/-- A payload with a member that is written twice, a number, and a member that is no quantity. -/
def payload : String :=
  " \x7b\"memory_limit\": [], \"cpu_limit\" : 15e-1, \"note\": \x7b\"by\": null\x7d,\n\"memory_limit\": \"1G\\u0069\"\x7d"

/-- What it overrides. -/
def quantities : Quantities := { Quantities.none with cpuLimit := some "1.5", memoryLimit := some "1Gi" }

theorem isOverride_payload : IsOverride payload quantities :=
  gives_payload_iff.mp (.of_value? (by decide +kernel))

/-- A payload of separators and spaces is blank, the mixed payload is an override, and a truth value is no quantity. -/
theorem outcomes :
    parseOverride journal "SOURCE" "\x1c\u00a0 " = pure none ∧
      parseOverride journal "SOURCE" payload = pure (some quantities) ∧
      ∃ event : Log.Event, event.level = .warning ∧
        parseOverride journal "SOURCE" "\x7b\"cpu_limit\": true\x7d" = (do
          journal event
          pure none) := by
  have blank := parseOverride_outcome journal "SOURCE" "\x1c\u00a0 "
  have mixed := parseOverride_outcome journal "SOURCE" payload
  have truth := parseOverride_outcome journal "SOURCE" "\x7b\"cpu_limit\": true\x7d"
  have refused : (decodeText Decoder.override "\x7b\"cpu_limit\": true\x7d").value? = none := by decide +kernel
  have none (q : Quantities) : ¬IsOverride "\x7b\"cpu_limit\": true\x7d" q := fun override => by
    rw [show decodeText _ _ = Checked.valid q from gives_payload_iff.mpr override] at refused
    exact nomatch refused
  obtain ⟨event, level, -, parsed⟩ := truth.2.2.1 (by decide +kernel) none
  exact ⟨blank.1 (by decide +kernel), mixed.2.1 _ isOverride_payload, event, level, parsed⟩

end MixedOverride

namespace DeepOverride

/-- The members of an object that sets no quantities and nests two hundred and one containers, the innermost of them
around a value. -/
def members : Members := [("note", Json.nested 200)]

/-- **The object is reported and not read**, although it nests no more containers, and all that is in it does not
count. -/
theorem exists_reported :
    (Json.object members).HasText (Json.object members).write ∧ (Json.object members).nesting ≤ 201 ∧
      Overrides members Quantities.none ∧
      ∃ event : Log.Event, event.level = .warning ∧
        parseOverride MixedOverride.journal "SOURCE" (Json.object members).write = (do
          MixedOverride.journal event
          pure none) := by
  have exact : (Json.object members).Exact :=
    Json.exact_object (List.pairwise_singleton _ _) (List.forall_mem_singleton.mpr (Json.exact_nested 200))
  have text : (Json.object members).HasText (Json.object members).write :=
    Json.hasText_of_exact exact (by decide +kernel)
  have nothing : Overrides members Quantities.none := by
    simp only [Overrides, Quantities.members, List.forall_mem_cons]
    exact ⟨.absent, .absent, .absent, .absent, .absent, .absent, List.forall_mem_nil _⟩
  have deep : 201 < (Json.object members).depth := by decide +kernel
  obtain ⟨problems, malformed⟩ := exists_malformed_of_deep text deep
  exact ⟨text, by decide +kernel, nothing, _, rfl, parseOverride_of_malformed _ _ malformed⟩

end DeepOverride

end ConnectionJobs
