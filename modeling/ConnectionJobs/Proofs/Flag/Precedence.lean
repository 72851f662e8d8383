import ConnectionJobs.Flag.Table
import ConnectionJobs.Proofs.Text.Digit
import Mathlib.Data.List.Perm.Basic

/-!
# The answer of the most specific entity

A flag is answered for the entities of a context, of which there is at most one of each kind. They come in no order,
and whoever asks a table collects their labels by kind before going through the kinds by precedence. Two things make
it irrelevant how the entities come: no two of them are of one kind, so that none takes the place of another, and no
two entities have one label, so that an override is for one entity only.
-/

namespace ConnectionJobs

namespace Flag

/-! ## Labels -/

/-- What stands before the first colon of a text. -/
theorem span_colon {before rest : List Char} (h : ':' ∉ before) :
    (before ++ ':' :: rest).span (· != ':') = (before, ':' :: rest) := by
  have passed : ∀ c ∈ before, (c != ':') = true := fun c mem => bne_iff_ne.mpr fun colon => h (colon ▸ mem)
  rw [List.span_eq_takeWhile_dropWhile, List.takeWhile_append_of_pos passed, List.dropWhile_append_of_pos passed]
  simp

namespace Kind

theorem mem_all (kind : Kind) : kind ∈ all := by cases kind <;> decide

theorem mem_byPrecedence (kind : Kind) : kind ∈ byPrecedence := by cases kind <;> decide

/-- A kind stands after those that take precedence over it. -/
theorem exists_byPrecedence_eq (kind : Kind) :
    ∃ after, byPrecedence = byPrecedence.takeWhile (· ≠ kind) ++ kind :: after := by
  cases kind <;> exact ⟨_, rfl⟩

theorem colon_notMem_name (kind : Kind) : ':' ∉ kind.name.toList := by cases kind <;> decide

theorem name_injective : Function.Injective name := by
  have apart : ∀ kind ∈ all, ∀ other ∈ all, kind.name = other.name → kind = other := by decide
  exact fun kind other => apart kind kind.mem_all other other.mem_all

end Kind

theorem toList_label (kind : Kind) (key : Uuid) :
    (label kind key).toList = kind.name.toList ++ ':' :: key.text.toList := by
  rw [label, String.toList_append, String.toList_append, List.append_assoc]
  rfl

/-- **A label names one entity**, since the name of its kind ends at its first colon. -/
theorem label_inj {kind other : Kind} {key otherKey : Uuid} :
    label kind key = label other otherKey ↔ kind = other ∧ key = otherKey := by
  refine ⟨fun same => ?_, fun ⟨sameKind, sameKey⟩ => by rw [sameKind, sameKey]⟩
  have cut := congrArg (fun s : String => s.toList.span (· != ':')) same
  simp only [toList_label, span_colon (Kind.colon_notMem_name _), Prod.mk.injEq, List.cons.injEq, true_and] at cut
  exact ⟨Kind.name_injective (String.toList_inj.mp cut.1), Uuid.text_injective (String.toList_inj.mp cut.2)⟩

/-! ## Entities in any order -/

/-- **The entities of a context.** -/
def Context.entities (c : Context) : List (Kind × Uuid) :=
  Kind.all.filterMap fun kind => (c.key? kind).map fun key => (kind, key)

/-- **The labels by kind**, collected from entities as they come; a later entity takes the place of one of its kind. -/
def labelsByKind (entities : List (Kind × Uuid)) : Keyed Kind String :=
  entities.foldl (fun labels entity => Keyed.set entity.1 (label entity.1 entity.2) labels) []

section Entities

variable {context : Context} {entities : List (Kind × Uuid)} {kind : Kind} {key : Uuid}

theorem Context.mem_entities : (kind, key) ∈ context.entities ↔ context.key? kind = some key := by
  unfold entities
  rw [List.mem_filterMap]
  constructor
  · rintro ⟨other, -, found⟩
    obtain ⟨held, there, same⟩ := Option.map_eq_some_iff.mp found
    cases same
    exact there
  · intro there
    exact ⟨kind, kind.mem_all, by rw [there]; rfl⟩

/-- **No two entities of a context are of one kind.** -/
theorem Context.nodup_kinds (context : Context) : (context.entities.map Prod.fst).Nodup := by
  have kinds (all : List Kind) :
      (all.filterMap fun kind => (context.key? kind).map fun key => (kind, key)).map Prod.fst =
        all.filter fun kind => (context.key? kind).isSome := by
    induction all with
    | nil => rfl
    | cons kind rest ih => cases h : context.key? kind <;> simp [h, ih]
  unfold entities
  rw [kinds]
  exact List.filter_sublist.nodup (by decide)

/-- A kind that no entity is of keeps what has been collected for it. -/
theorem find?_foldl_of_notMem (absent : kind ∉ entities.map Prod.fst) (labels : Keyed Kind String) :
    Keyed.find? kind
        (entities.foldl (fun labels entity => Keyed.set entity.1 (label entity.1 entity.2) labels) labels) =
      Keyed.find? kind labels := by
  induction entities generalizing labels with
  | nil => rfl
  | cons entity rest ih =>
    rw [List.map_cons, List.mem_cons, not_or] at absent
    rw [List.foldl_cons, ih absent.2, Keyed.find?_set_of_ne absent.1]

/-- **What is collected under a kind** is the label of the entity of that kind, when there is only one. -/
theorem find?_labelsByKind (distinct : (entities.map Prod.fst).Nodup) (held : (kind, key) ∈ entities) :
    Keyed.find? kind (labelsByKind entities) = some (label kind key) := by
  unfold labelsByKind
  generalize ([] : Keyed Kind String) = labels
  induction entities generalizing labels with
  | nil => exact absurd held List.not_mem_nil
  | cons entity rest ih =>
    rw [List.map_cons, List.nodup_cons] at distinct
    rw [List.foldl_cons]
    obtain rfl | later := List.mem_cons.mp held
    · rw [find?_foldl_of_notMem distinct.1, Keyed.find?_set_self]
    · exact ih distinct.2 later _

/-- **The labels of a context do not depend on how its entities come.** -/
theorem find?_labelsByKind_of_perm (order : entities.Perm context.entities) (kind : Kind) :
    Keyed.find? kind (labelsByKind entities) = context.label? kind := by
  unfold Context.label?
  cases there : context.key? kind with
  | none =>
    refine find?_foldl_of_notMem (fun mem => ?_) []
    obtain ⟨⟨_, key⟩, held, rfl⟩ := List.mem_map.mp mem
    rw [order.mem_iff, Context.mem_entities, there] at held
    exact nomatch held
  | some key =>
    have distinct : (entities.map Prod.fst).Nodup := (order.map Prod.fst).nodup_iff.mpr context.nodup_kinds
    exact find?_labelsByKind distinct (order.mem_iff.mpr (Context.mem_entities.mpr there))

end Entities

end Flag

/-! ## Overrides -/

namespace FlagTable

/-- **The override of a flag for an entity.** -/
def overrideFor (table : FlagTable) (key : String) (kind : Flag.Kind) (id : Uuid) : Option FlagValue :=
  (Keyed.find? key table.overrides).bind (Keyed.find? (Flag.label kind id))

/-- **The answer when the entities come in a given order.** -/
def resolveInOrder (table : FlagTable) (key : String) (fallback : FlagValue) (entities : List (Flag.Kind × Uuid)) :
    FlagValue :=
  let overrides := (Keyed.find? key table.overrides).getD []
  let labels := Flag.labelsByKind entities
  let override := Flag.Kind.byPrecedence.findSome? fun kind =>
    (Keyed.find? kind labels).bind fun label => Keyed.find? label overrides
  match override with
  | some value => value
  | none => (Keyed.find? key table.values).getD fallback

/-- **An override prevails** in a context: it is for an entity of the context, and no entity of a kind that takes
precedence has one. -/
structure Prevails (table : FlagTable) (key : String) (context : Flag.Context) (kind : Flag.Kind) (id : Uuid)
    (value : FlagValue) : Prop where
  /-- The entity belongs to the context. -/
  present : context.key? kind = some id
  /-- The entity has the override. -/
  overridden : table.overrideFor key kind id = some value
  /-- No more specific entity has an override. -/
  first : ∀ other ∈ Flag.Kind.byPrecedence.takeWhile (· ≠ kind), ∀ id, context.key? other = some id →
    table.overrideFor key other id = none

/-- **What a table says about a flag** in a context: the override that prevails, or else the value of the flag, or else
its default. -/
inductive Says (table : FlagTable) (key : String) (fallback : FlagValue) (context : Flag.Context) : FlagValue → Prop
  /-- An override prevails. -/
  | override {kind : Flag.Kind} {id : Uuid} {value : FlagValue} :
    table.Prevails key context kind id value → Says table key fallback context value
  /-- No entity has an override, and the flag has a value. -/
  | value {value : FlagValue} :
    (∀ kind id, context.key? kind = some id → table.overrideFor key kind id = none) →
      Keyed.find? key table.values = some value → Says table key fallback context value
  /-- No entity has an override, and the flag has no value. -/
  | fallback :
    (∀ kind id, context.key? kind = some id → table.overrideFor key kind id = none) →
      Keyed.find? key table.values = none → Says table key fallback context fallback

/-- The table with another override of a flag for a label. -/
def withOverride (table : FlagTable) (key label : String) (value : FlagValue) : FlagTable :=
  { table with
    overrides := Keyed.set key (Keyed.set label value ((Keyed.find? key table.overrides).getD [])) table.overrides }

section Overrides

variable {table : FlagTable} {key : String} {context : Flag.Context}

/-- What a table gives a flag is what it has for it, or the default. -/
theorem resolve_eq (table : FlagTable) (key : String) (fallback : FlagValue) (context : Flag.Context) :
    table.resolve key fallback context =
      ((table.override? key context).or (Keyed.find? key table.values)).getD fallback := by
  unfold resolve
  cases table.override? key context <;> rfl

/-- The override of a context is that of the first of its entities that has one. -/
theorem override?_eq (table : FlagTable) (key : String) (context : Flag.Context) :
    table.override? key context =
      Flag.Kind.byPrecedence.findSome? fun kind => (context.key? kind).bind (table.overrideFor key kind) := by
  have each (kind : Flag.Kind) :
      ((context.label? kind).bind fun label => Keyed.find? label ((Keyed.find? key table.overrides).getD [])) =
        (context.key? kind).bind (table.overrideFor key kind) := by
    unfold Flag.Context.label? overrideFor
    cases context.key? kind with
    | none => rfl
    | some id => cases Keyed.find? key table.overrides <;> rfl
  unfold override?
  simp only [each]

/-- **The override that is found is the one that prevails.** -/
theorem override?_eq_some_iff {value : FlagValue} :
    table.override? key context = some value ↔ ∃ kind id, table.Prevails key context kind id value := by
  rw [override?_eq, List.findSome?_eq_some_iff]
  constructor
  · rintro ⟨before, kind, after, order, found, earlier⟩
    obtain ⟨id, present, overridden⟩ := Option.bind_eq_some_iff.mp found
    refine ⟨kind, id, present, overridden, fun other precedes otherId there => ?_⟩
    -- No kind occurs twice, so the kinds before this one are those that take precedence over it.
    have distinct : Flag.Kind.byPrecedence.Nodup := by decide
    have split : Flag.Kind.byPrecedence.takeWhile (· ≠ kind) = before := by
      rw [order] at distinct ⊢
      have others : ∀ k ∈ before, decide (k ≠ kind) = true := fun k mem =>
        decide_eq_true fun same => (List.nodup_append.mp distinct).2.2 k mem kind List.mem_cons_self same
      rw [List.takeWhile_append_of_pos others, List.takeWhile_cons_of_neg (by simp), List.append_nil]
    have none := earlier other (split ▸ precedes)
    rwa [there] at none
  · rintro ⟨kind, id, present, overridden, first⟩
    obtain ⟨after, order⟩ := kind.exists_byPrecedence_eq
    refine ⟨_, kind, after, order, by rw [present]; exact overridden, fun other precedes => ?_⟩
    cases there : context.key? other with
    | none => rfl
    | some otherId => exact first other precedes otherId there

/-- No override is found when no entity has one. -/
theorem override?_eq_none_iff :
    table.override? key context = none ↔
      ∀ kind id, context.key? kind = some id → table.overrideFor key kind id = none := by
  rw [override?_eq, List.findSome?_eq_none_iff]
  constructor
  · intro none kind id present
    have := none kind kind.mem_byPrecedence
    rwa [present] at this
  · intro none kind _
    cases present : context.key? kind with
    | none => rfl
    | some id => exact none kind id present

/-- **A table answers what it says.** -/
theorem resolve_eq_iff {fallback value : FlagValue} :
    table.resolve key fallback context = value ↔ table.Says key fallback context value := by
  rw [resolve_eq]
  constructor
  · rintro rfl
    cases found : table.override? key context with
    | some value =>
      obtain ⟨kind, id, prevails⟩ := override?_eq_some_iff.mp found
      exact .override prevails
    | none =>
      have none := override?_eq_none_iff.mp found
      cases there : Keyed.find? key table.values with
      | some value => exact .value none there
      | none => exact .fallback none there
  · intro said
    cases said with
    | override prevails => rw [override?_eq_some_iff.mpr ⟨_, _, prevails⟩, Option.some_or, Option.getD_some]
    | value none there => rw [override?_eq_none_iff.mpr none, there, Option.none_or, Option.getD_some]
    | fallback none there => rw [override?_eq_none_iff.mpr none, there, Option.none_or, Option.getD_none]

/-- **The order in which the entities come is irrelevant.** -/
theorem resolveInOrder_of_perm {entities : List (Flag.Kind × Uuid)} (order : entities.Perm context.entities)
    (table : FlagTable) (key : String) (fallback : FlagValue) :
    table.resolveInOrder key fallback entities = table.resolve key fallback context := by
  have same : (Flag.Kind.byPrecedence.findSome? fun kind =>
      (Keyed.find? kind (Flag.labelsByKind entities)).bind fun label =>
        Keyed.find? label ((Keyed.find? key table.overrides).getD [])) = table.override? key context := by
    unfold override?
    simp only [Flag.find?_labelsByKind_of_perm order]
  unfold resolveInOrder
  dsimp only
  rw [same, resolve_eq]
  cases table.override? key context <;> rfl

/-- **Two tables answer alike** when they have the same value of a flag and the same overrides of it for the entities
of the context. -/
theorem resolve_congr {other : FlagTable}
    (overrides : ∀ kind id, context.key? kind = some id → other.overrideFor key kind id = table.overrideFor key kind id)
    (values : Keyed.find? key other.values = Keyed.find? key table.values) (fallback : FlagValue) :
    other.resolve key fallback context = table.resolve key fallback context := by
  have same : other.override? key context = table.override? key context := by
    rw [override?_eq, override?_eq]
    congr 1
    funext kind
    cases present : context.key? kind with
    | none => rfl
    | some id => exact overrides kind id present
  rw [resolve_eq, resolve_eq, same, values]

theorem overrideFor_withOverride (table : FlagTable) (key label : String) (value : FlagValue) {kind : Flag.Kind}
    {id : Uuid} (other : Flag.label kind id ≠ label) :
    (table.withOverride key label value).overrideFor key kind id = table.overrideFor key kind id := by
  unfold overrideFor withOverride
  rw [Keyed.find?_set_self, Option.bind_some, Keyed.find?_set_of_ne other]
  cases Keyed.find? key table.overrides <;> rfl

/-! ## Types -/

/-- A switch is answered exactly when the table has a switch. -/
theorem switchAt_eq_ok_iff {fallback : FlagValue} {on : Bool} :
    table.switchAt key fallback context = .ok on ↔ table.resolve key fallback context = .switch on := by
  unfold switchAt
  cases table.resolve key fallback context <;> simp [FlagValue.switch?]

/-- A switch is refused exactly when the table has a text, which the refusal names. -/
theorem switchAt_eq_error_iff {fallback : FlagValue} {mistyped : Flag.Mistyped} :
    table.switchAt key fallback context = .error mistyped ↔
      ∃ s, table.resolve key fallback context = .text s ∧ mistyped = ⟨key, .text s⟩ := by
  unfold switchAt
  cases table.resolve key fallback context <;> simp [FlagValue.switch?, eq_comm]

/-- A text is answered exactly when the table has a text. -/
theorem textAt_eq_ok_iff {fallback : FlagValue} {s : String} :
    table.textAt key fallback context = .ok s ↔ table.resolve key fallback context = .text s := by
  unfold textAt
  cases table.resolve key fallback context <;> simp [FlagValue.text?]

/-- A text is refused exactly when the table has a switch, which the refusal names. -/
theorem textAt_eq_error_iff {fallback : FlagValue} {mistyped : Flag.Mistyped} :
    table.textAt key fallback context = .error mistyped ↔
      ∃ on, table.resolve key fallback context = .switch on ∧ mistyped = ⟨key, .switch on⟩ := by
  unfold textAt
  cases table.resolve key fallback context <;> simp [FlagValue.text?, eq_comm]

end Overrides

/-! ## The answer -/

/-- **The most specific entity answers.** A table answers a flag with the override that prevails in the context, or else
with the value of the flag, or else with its default. The answer is the same in whatever order the entities of the
context come, and the same from every table with this value of the flag and these overrides of it for the entities of
the context; an override for an entity outside the context is none of these, as no two entities share a label. A flag
is refused exactly when the answer is not of its type. -/
theorem resolve_most_specific (table : FlagTable) (key : String) (fallback : FlagValue) (context : Flag.Context) :
    (∀ value, table.resolve key fallback context = value ↔ table.Says key fallback context value) ∧
      (∀ entities, entities.Perm context.entities →
        table.resolveInOrder key fallback entities = table.resolve key fallback context) ∧
      (∀ other : FlagTable, Keyed.find? key other.values = Keyed.find? key table.values →
        (∀ kind id, context.key? kind = some id → other.overrideFor key kind id = table.overrideFor key kind id) →
          other.resolve key fallback context = table.resolve key fallback context) ∧
      (∀ kind id value, context.key? kind ≠ some id →
        (table.withOverride key (Flag.label kind id) value).resolve key fallback context =
          table.resolve key fallback context) ∧
      (∀ flag : Flag Bool,
        (∀ on, table.evaluateSwitch flag context = .ok on ↔
          table.resolve flag.key (.switch flag.fallback) context = .switch on) ∧
        ∀ mistyped, table.evaluateSwitch flag context = .error mistyped ↔
          ∃ s, table.resolve flag.key (.switch flag.fallback) context = .text s ∧ mistyped = ⟨flag.key, .text s⟩) ∧
      ∀ flag : Flag String,
        (∀ s, table.evaluateText flag context = .ok s ↔
          table.resolve flag.key (.text flag.fallback) context = .text s) ∧
        ∀ mistyped, table.evaluateText flag context = .error mistyped ↔
          ∃ on, table.resolve flag.key (.text flag.fallback) context = .switch on ∧
            mistyped = ⟨flag.key, .switch on⟩ := by
  refine ⟨fun value => resolve_eq_iff, fun entities order => resolveInOrder_of_perm order table key fallback,
    fun other values overrides => resolve_congr overrides values fallback, fun kind id value outside => ?_,
    fun flag => ⟨fun on => switchAt_eq_ok_iff, fun mistyped => switchAt_eq_error_iff⟩,
    fun flag => ⟨fun s => textAt_eq_ok_iff, fun mistyped => textAt_eq_error_iff⟩⟩
  have kept (other : Flag.Kind) (otherId : Uuid) (present : context.key? other = some otherId) :
      (table.withOverride key (Flag.label kind id) value).overrideFor key other otherId =
        table.overrideFor key other otherId := by
    refine overrideFor_withOverride table key _ value fun same => ?_
    obtain ⟨rfl, rfl⟩ := Flag.label_inj.mp same
    exact outside present
  exact resolve_congr kept rfl fallback

namespace TwoOverrides

/-- A source in a workspace. -/
def context : Flag.Context := { (default : Flag.Context) with source := some (.ofNat 1), workspace := some (.ofNat 2) }

/-- A table with an override for each of them. -/
def table : FlagTable where
  values := []
  overrides :=
    [("flag", [(Flag.label .workspace (.ofNat 2), .switch false), (Flag.label .source (.ofNat 1), .text "on")])]

/-- The source answers, also when it comes after its workspace, and its answer is no switch. -/
theorem resolve_source :
    context.entities.reverse.Perm context.entities ∧
      table.resolveInOrder "flag" (.switch true) context.entities.reverse = .text "on" ∧
      table.evaluateSwitch ⟨"flag", true⟩ context = .error ⟨"flag", .text "on"⟩ := by
  obtain ⟨answer, order, -, -, switches, -⟩ := resolve_most_specific table "flag" (.switch true) context
  have reversed := context.entities.reverse_perm
  have source : table.Prevails "flag" context .source (.ofNat 1) (.text "on") := by
    refine ⟨rfl, by decide +kernel, fun other precedes id present => ?_⟩
    obtain rfl : other = .connection := by simpa [Flag.Kind.byPrecedence] using precedes
    exact nomatch present
  have text := (answer _).mpr (.override source)
  exact ⟨reversed, (order _ reversed).trans text, ((switches ⟨"flag", true⟩).2 _).mpr ⟨"on", text, rfl⟩⟩

end TwoOverrides

end FlagTable

end ConnectionJobs
