import ConnectionJobs.Json.Basic
import ConnectionJobs.Proofs.Keyed
import Mathlib.Order.MinMax
import Mathlib.Order.Nat

/-!
# Values, and what they are read back as

A document that is written and read again need not be the same. Numbers that are not finite have no spelling and come
back as `null`; keys that repeat are settled, each keeping its first place and taking its last value. The first happens
where the value is *written*, the second where it is read and its keys are *settled*, and `asRead` is both together.
A value of which neither can change anything is *exact*.

How high a value is limits its reading, and readers differ in whether a scalar is a level of its own. So what is said of
heights is said for scalars of any height.
-/

namespace ConnectionJobs.Json

/-! ## The values inside a value -/

theorem sizeOf_item {items : List Json} {item : Json} (inside : item ∈ items) :
    sizeOf item < sizeOf (Json.array items) := by
  have smaller := List.sizeOf_lt_of_mem inside
  rw [Json.array.sizeOf_spec]
  omega

theorem sizeOf_member {members : Members} {member : String × Json} (inside : member ∈ members) :
    sizeOf member.2 < sizeOf (Json.object members) := by
  have smaller := List.sizeOf_lt_of_mem inside
  obtain ⟨key, value⟩ := member
  rw [Prod.mk.sizeOf_spec] at smaller
  rw [Json.object.sizeOf_spec]
  show sizeOf value < _
  omega

/-- **Induction over the values inside a value.** -/
@[elab_as_elim]
theorem induction {motive : Json → Prop} (null : motive .null) (boolean : ∀ b, motive (.boolean b))
    (integer : ∀ n, motive (.integer n)) (real : ∀ x, motive (.real x)) (text : ∀ s, motive (.text s))
    (array : ∀ items, (∀ item ∈ items, motive item) → motive (.array items))
    (object : ∀ members, (∀ member ∈ members, motive member.2) → motive (.object members)) (v : Json) : motive v :=
  match v with
  | .null => null
  | .boolean b => boolean b
  | .integer n => integer n
  | .real x => real x
  | .text s => text s
  | .array items => array items fun item _ => induction null boolean integer real text array object item
  | .object members => object members fun member _ => induction null boolean integer real text array object member.2
termination_by sizeOf v
decreasing_by
  · exact sizeOf_item ‹_›
  · exact sizeOf_member ‹_›

/-- **A part of a value**: the value itself, or a part of what it holds. -/
inductive Part (part : Json) : Json → Prop
  /-- The value itself. -/
  | self : Part part part
  /-- A part of an item. -/
  | item {items : List Json} {item : Json} : item ∈ items → Part part item → Part part (.array items)
  /-- A part of the value of a member. -/
  | member {members : Members} {member : String × Json} :
    member ∈ members → Part part member.2 → Part part (.object members)

/-- **Every integer inside a value** is one of those that `holds` says. -/
def EveryInteger (holds : Int → Prop) (v : Json) : Prop := ∀ n, Part (.integer n) v → holds n

section Integers

variable {holds : Int → Prop}

theorem everyInteger_array {items : List Json} :
    (array items).EveryInteger holds ↔ ∀ item ∈ items, item.EveryInteger holds := by
  constructor
  · exact fun every item inside n part => every n (.item inside part)
  · intro each n part
    cases part with
    | item inside part => exact each _ inside n part

theorem everyInteger_object {members : Members} :
    (object members).EveryInteger holds ↔ ∀ member ∈ members, member.2.EveryInteger holds := by
  constructor
  · exact fun every member inside n part => every n (.member inside part)
  · intro each n part
    cases part with
    | member inside part => exact each _ inside n part

theorem everyInteger_integer {n : Int} : (integer n).EveryInteger holds ↔ holds n := by
  constructor
  · exact fun every => every n .self
  · intro here m part
    cases part with
    | self => exact here

end Integers

section Height

variable {items : List Json} {members : Members} {scalar k limit : Nat}

theorem heightOfItems_le : heightOfItems scalar items ≤ limit ↔ ∀ item ∈ items, item.height scalar ≤ limit := by
  induction items with
  | nil => simp [heightOfItems]
  | cons item rest ih => rw [heightOfItems, max_le_iff, ih, List.forall_mem_cons]

theorem heightOfMembers_le :
    heightOfMembers scalar members ≤ limit ↔ ∀ member ∈ members, member.2.height scalar ≤ limit := by
  induction members with
  | nil => simp [heightOfMembers]
  | cons member rest ih => rw [heightOfMembers, max_le_iff, ih, List.forall_mem_cons]

theorem height_item_lt {item : Json} (inside : item ∈ items) : item.height scalar < (array items).height scalar := by
  have highest : item.height scalar ≤ heightOfItems scalar items := heightOfItems_le.mp (Nat.le_refl _) item inside
  rw [height]
  exact Nat.lt_succ_of_le highest

theorem height_member_lt {member : String × Json} (inside : member ∈ members) :
    member.2.height scalar < (object members).height scalar := by
  have highest : member.2.height scalar ≤ heightOfMembers scalar members :=
    heightOfMembers_le.mp (Nat.le_refl _) member inside
  rw [height]
  exact Nat.lt_succ_of_le highest

theorem height_array_le : (array items).height scalar ≤ limit + 1 ↔ ∀ item ∈ items, item.height scalar ≤ limit := by
  rw [height, Nat.add_le_add_iff_right, heightOfItems_le]

theorem height_object_le :
    (object members).height scalar ≤ limit + 1 ↔ ∀ member ∈ members, member.2.height scalar ≤ limit := by
  rw [height, Nat.add_le_add_iff_right, heightOfMembers_le]

/-- Under `k` containers, an array fits when there is a level left for it, and its items fit under it. -/
theorem fits_array : k + (array items).height scalar ≤ limit ↔
    k < limit ∧ ∀ item ∈ items, k + 1 + item.height scalar ≤ limit := by
  constructor
  · intro fits
    have shape : (array items).height scalar = heightOfItems scalar items + 1 := by rw [height]
    refine ⟨by omega, fun item inside => ?_⟩
    have lower : item.height scalar < (array items).height scalar := height_item_lt inside
    omega
  · rintro ⟨room, each⟩
    have low : (array items).height scalar ≤ limit - (k + 1) + 1 :=
      height_array_le.mpr fun item inside => Nat.le_sub_of_add_le' (each item inside)
    omega

/-- Under `k` containers, an object fits when there is a level left for it, and its values fit under it. -/
theorem fits_object : k + (object members).height scalar ≤ limit ↔
    k < limit ∧ ∀ member ∈ members, k + 1 + member.2.height scalar ≤ limit := by
  constructor
  · intro fits
    have shape : (object members).height scalar = heightOfMembers scalar members + 1 := by rw [height]
    refine ⟨by omega, fun member inside => ?_⟩
    have lower : member.2.height scalar < (object members).height scalar := height_member_lt inside
    omega
  · rintro ⟨room, each⟩
    have low : (object members).height scalar ≤ limit - (k + 1) + 1 :=
      height_object_le.mpr fun member inside => Nat.le_sub_of_add_le' (each member inside)
    omega

/-- An array that does not fit, with room for its bracket, has an item that does not fit. -/
theorem exists_high_item (room : k < limit) (high : limit < k + (array items).height scalar) :
    ∃ item ∈ items, limit < k + 1 + item.height scalar := by
  by_contra none
  have fit : ∀ item ∈ items, k + 1 + item.height scalar ≤ limit := fun item inside =>
    Nat.not_lt.mp fun higher => none ⟨item, inside, higher⟩
  exact absurd (fits_array.mpr ⟨room, fit⟩) (Nat.not_le.mpr high)

/-- An object that does not fit, with room for its bracket, has a value that does not fit. -/
theorem exists_high_member (room : k < limit) (high : limit < k + (object members).height scalar) :
    ∃ member ∈ members, limit < k + 1 + member.2.height scalar := by
  by_contra none
  have fit : ∀ member ∈ members, k + 1 + member.2.height scalar ≤ limit := fun member inside =>
    Nat.not_lt.mp fun higher => none ⟨member, inside, higher⟩
  exact absurd (fits_object.mpr ⟨room, fit⟩) (Nat.not_le.mpr high)

/-- **A value is higher by the height of its scalars at most** than it is by its containers alone. -/
theorem height_le_nesting (scalar : Nat) (v : Json) : v.height scalar ≤ v.nesting + scalar := by
  induction v using induction with
  | null | boolean | integer | real | text => simp [nesting, height]
  | array items each =>
    have shape : (array items).nesting = heightOfItems 0 items + 1 := by rw [nesting, height]
    rw [shape, Nat.add_right_comm]
    refine height_array_le.mpr fun item inside => (each item inside).trans (Nat.add_le_add_right ?_ scalar)
    exact heightOfItems_le.mp (Nat.le_refl _) item inside
  | object members each =>
    have shape : (object members).nesting = heightOfMembers 0 members + 1 := by rw [nesting, height]
    rw [shape, Nat.add_right_comm]
    refine height_object_le.mpr fun member inside => (each member inside).trans (Nat.add_le_add_right ?_ scalar)
    exact heightOfMembers_le.mp (Nat.le_refl _) member inside

end Height

mutual

/-- **What a value is read back as**: keys are settled, and numbers that are not finite are `null`. -/
def asRead : Json → Json
  | null => null
  | boolean b => boolean b
  | integer n => integer n
  | real x => if x.isFinite then real x else null
  | text s => text s
  | array items => array (asReadItems items)
  | object members => object (Keyed.settle (asReadMembers members))

/-- What the items are read back as. -/
def asReadItems : List Json → List Json
  | [] => []
  | item :: rest => asRead item :: asReadItems rest

/-- What the members are read back as, before their keys are settled. -/
def asReadMembers : List (String × Json) → List (String × Json)
  | [] => []
  | (key, value) :: rest => (key, asRead value) :: asReadMembers rest

end

theorem keys_asReadMembers (members : Members) : Keyed.keys (asReadMembers members) = Keyed.keys members := by
  induction members with
  | nil => rfl
  | cons member rest ih =>
    rw [asReadMembers]
    exact congrArg (member.1 :: ·) ih

mutual

/-- **What a value means**: the keys of every object in it are settled. -/
def settled : Json → Json
  | null => null
  | boolean b => boolean b
  | integer n => integer n
  | real x => real x
  | text s => text s
  | array items => array (settledItems items)
  | object members => object (Keyed.settle (settledMembers members))

/-- What the items mean. -/
def settledItems : List Json → List Json
  | [] => []
  | item :: rest => settled item :: settledItems rest

/-- What the members mean, before their own keys are settled. -/
def settledMembers : List (String × Json) → List (String × Json)
  | [] => []
  | (key, value) :: rest => (key, settled value) :: settledMembers rest

end

mutual

/-- **What a value is written as**: numbers that are not finite are `null`. -/
def written : Json → Json
  | null => null
  | boolean b => boolean b
  | integer n => integer n
  | real x => if x.isFinite then real x else null
  | text s => text s
  | array items => array (writtenItems items)
  | object members => object (writtenMembers members)

/-- What the items are written as. -/
def writtenItems : List Json → List Json
  | [] => []
  | item :: rest => written item :: writtenItems rest

/-- What the members are written as. -/
def writtenMembers : List (String × Json) → List (String × Json)
  | [] => []
  | (key, value) :: rest => (key, written value) :: writtenMembers rest

end

theorem settledItems_eq_map (items : List Json) : settledItems items = items.map settled := by
  induction items with
  | nil => rfl
  | cons item rest ih => rw [settledItems, ih, List.map_cons]

theorem settledMembers_eq_map (members : Members) :
    settledMembers members = members.map fun member => (member.1, member.2.settled) := by
  induction members with
  | nil => rfl
  | cons member rest ih => rw [settledMembers, ih, List.map_cons]

theorem writtenItems_eq_map (items : List Json) : writtenItems items = items.map written := by
  induction items with
  | nil => rfl
  | cons item rest ih => rw [writtenItems, ih, List.map_cons]

theorem writtenMembers_eq_map (members : Members) :
    writtenMembers members = members.map fun member => (member.1, member.2.written) := by
  induction members with
  | nil => rfl
  | cons member rest ih => rw [writtenMembers, ih, List.map_cons]

theorem asReadItems_eq_map (items : List Json) : asReadItems items = items.map asRead := by
  induction items with
  | nil => rfl
  | cons item rest ih => rw [asReadItems, ih, List.map_cons]

theorem asReadMembers_eq_map (members : Members) :
    asReadMembers members = members.map fun member => (member.1, member.2.asRead) := by
  induction members with
  | nil => rfl
  | cons member rest ih => rw [asReadMembers, ih, List.map_cons]

/-- **A value is read back as what its text means.** -/
theorem settled_written (v : Json) : v.written.settled = v.asRead := by
  induction v using induction with
  | null | boolean | integer | text => rfl
  | real x =>
    rw [written, asRead]
    cases x.isFinite <;> rfl
  | array items each =>
    rw [written, settled, asRead, settledItems_eq_map, writtenItems_eq_map, asReadItems_eq_map, List.map_map]
    exact congrArg array (List.map_congr_left each)
  | object members each =>
    rw [written, settled, asRead, settledMembers_eq_map, writtenMembers_eq_map, asReadMembers_eq_map, List.map_map]
    exact congrArg (fun ms => object (Keyed.settle ms))
      (List.map_congr_left fun member inside => congrArg (Prod.mk member.1) (each member inside))

theorem exists_of_mem_settledMembers {members : Members} {member : String × Json}
    (h : member ∈ Keyed.settle (settledMembers members)) : ∃ old ∈ members, member.2 = old.2.settled := by
  obtain ⟨_, inside, same⟩ := Keyed.exists_of_mem_settle h
  rw [settledMembers_eq_map] at inside
  obtain ⟨old, there, rfl⟩ := List.mem_map.mp inside
  exact ⟨old, there, same⟩

/-- **Settling a value makes it no higher.** -/
theorem height_settled_le (scalar : Nat) (v : Json) : v.settled.height scalar ≤ v.height scalar := by
  induction v using induction with
  | null | boolean | integer | real | text => rw [settled]
  | array items each =>
    rw [settled, settledItems_eq_map, height, height]
    refine Nat.succ_le_succ (heightOfItems_le.mpr fun item inside => ?_)
    obtain ⟨old, there, rfl⟩ := List.mem_map.mp inside
    exact (each old there).trans (heightOfItems_le.mp (Nat.le_refl _) old there)
  | object members each =>
    rw [settled, height, height]
    refine Nat.succ_le_succ (heightOfMembers_le.mpr fun member inside => ?_)
    obtain ⟨old, there, same⟩ := exists_of_mem_settledMembers inside
    rw [same]
    exact (each old there).trans (heightOfMembers_le.mp (Nat.le_refl _) old there)

/-- **What is part of a settled value** is what some part of the value means. -/
theorem exists_part_of_settled {part v : Json} (inside : Part part v.settled) :
    ∃ raw, raw.settled = part ∧ Part raw v := by
  induction v using induction with
  | null | boolean | integer | real | text =>
    rw [settled] at inside
    cases inside
    exact ⟨_, by rw [settled], .self⟩
  | array items each =>
    rw [settled, settledItems_eq_map] at inside
    cases inside with
    | self => exact ⟨array items, by rw [settled, settledItems_eq_map], .self⟩
    | item there inside =>
      obtain ⟨item, here, rfl⟩ := List.mem_map.mp there
      obtain ⟨raw, same, part⟩ := each item here inside
      exact ⟨raw, same, .item here part⟩
  | object members each =>
    rw [settled] at inside
    cases inside with
    | self => exact ⟨object members, by rw [settled], .self⟩
    | member there inside =>
      obtain ⟨member, here, same⟩ := exists_of_mem_settledMembers there
      rw [same] at inside
      obtain ⟨raw, equal, part⟩ := each member here inside
      exact ⟨raw, equal, .member here part⟩

/-- **No key repeats** in any object of a value. -/
def Distinct (v : Json) : Prop := ∀ members : Members, Part (.object members) v → (Keyed.keys members).Nodup

theorem distinct_settled (v : Json) : v.settled.Distinct := by
  intro members inside
  obtain ⟨raw, same, -⟩ := exists_part_of_settled inside
  cases raw with
  | object written =>
    rw [settled, object.injEq] at same
    exact same ▸ Keyed.nodup_settle _
  | _ => exact nomatch same

theorem distinct_array {items : List Json} : (array items).Distinct ↔ ∀ item ∈ items, item.Distinct := by
  constructor
  · exact fun distinct item inside members part => distinct members (.item inside part)
  · intro each members part
    cases part with
    | item inside part => exact each _ inside members part

theorem distinct_object {members : Members} :
    (object members).Distinct ↔ (Keyed.keys members).Nodup ∧ ∀ member ∈ members, member.2.Distinct := by
  constructor
  · exact fun distinct => ⟨distinct members .self, fun member inside held part => distinct held (.member inside part)⟩
  · rintro ⟨distinct, each⟩ held part
    cases part with
    | self => exact distinct
    | member inside part => exact each _ inside held part

/-- **A value in which no key repeats is read back as what it is written as.** -/
theorem asRead_of_distinct {v : Json} (distinct : v.Distinct) : v.asRead = v.written := by
  induction v using induction with
  | null | boolean | integer | real | text => rfl
  | array items each =>
    rw [asRead, written, asReadItems_eq_map, writtenItems_eq_map]
    exact congrArg array (List.map_congr_left fun item inside =>
      each item inside (distinct_array.mp distinct item inside))
  | object members each =>
    obtain ⟨keys, values⟩ := distinct_object.mp distinct
    rw [asRead, written, Keyed.settle_of_nodup (by rwa [keys_asReadMembers]), asReadMembers_eq_map,
      writtenMembers_eq_map]
    exact congrArg object (List.map_congr_left fun member inside =>
      congrArg (Prod.mk member.1) (each member inside (values member inside)))

/-- **A value is written as high as it is.** -/
theorem height_written (scalar : Nat) (v : Json) : v.written.height scalar = v.height scalar := by
  induction v using induction with
  | null | boolean | integer | text => rfl
  | real x =>
    rw [written]
    cases x.isFinite <;> rfl
  | array items each =>
    rw [written, height, height]
    congr 1
    induction items with
    | nil => rfl
    | cons item rest ih =>
      obtain ⟨first, others⟩ := List.forall_mem_cons.mp each
      rw [writtenItems, heightOfItems, heightOfItems, first, ih others]
  | object members each =>
    rw [written, height, height]
    congr 1
    induction members with
    | nil => rfl
    | cons member rest ih =>
      obtain ⟨first, others⟩ := List.forall_mem_cons.mp each
      rw [writtenMembers, heightOfMembers, heightOfMembers, first, ih others]

/-- **A value that comes back as itself**: no key repeats, and every number is finite. -/
structure Exact (v : Json) : Prop where
  /-- No key of an object repeats. -/
  distinct : ∀ members : Members, Part (.object members) v → (Keyed.keys members).Nodup
  /-- Every number is finite. -/
  finite : ∀ x, Part (.real x) v → x.isFinite = true

theorem exact_integer (n : Int) : (integer n).Exact := by
  constructor
  · intro members part
    cases part
  · intro x part
    cases part

theorem exact_text (s : String) : (text s).Exact := by
  constructor
  · intro members part
    cases part
  · intro x part
    cases part

theorem exact_real {x : Double} (finite : x.isFinite = true) : (real x).Exact := by
  constructor
  · intro members part
    cases part
  · intro y part
    cases part with
    | self => exact finite

theorem exact_null : Json.null.Exact := by
  constructor
  · intro members part
    cases part
  · intro x part
    cases part

theorem exact_array {items : List Json} (each : ∀ item ∈ items, item.Exact) : (array items).Exact := by
  constructor
  · intro held part
    cases part with
    | item inside part => exact (each _ inside).distinct held part
  · intro x part
    cases part with
    | item inside part => exact (each _ inside).finite x part

theorem exact_object {members : Members} (distinct : (Keyed.keys members).Nodup)
    (each : ∀ member ∈ members, member.2.Exact) : (object members).Exact := by
  constructor
  · intro held part
    cases part with
    | self => exact distinct
    | member inside part => exact (each _ inside).distinct held part
  · intro x part
    cases part with
    | member inside part => exact (each _ inside).finite x part

/-- **An exact value is read back as itself.** -/
theorem asRead_of_exact {v : Json} (exact : v.Exact) : v.asRead = v := by
  induction v using induction with
  | null | boolean | integer | text => rw [asRead]
  | real x => rw [asRead, if_pos (exact.finite x .self)]
  | array items ih =>
    have each : ∀ item ∈ items, item.asRead = item := fun item inside =>
      ih item inside
        ⟨fun ms part => exact.distinct ms (.item inside part), fun x part => exact.finite x (.item inside part)⟩
    clear ih exact
    rw [asRead]
    congr 1
    induction items with
    | nil => rfl
    | cons item rest ih =>
      obtain ⟨first, others⟩ := List.forall_mem_cons.mp each
      rw [asReadItems, first, ih others]
  | object members ih =>
    have each : ∀ member ∈ members, member.2.asRead = member.2 := fun member inside =>
      ih member inside
        ⟨fun ms part => exact.distinct ms (.member inside part), fun x part => exact.finite x (.member inside part)⟩
    have distinct := exact.distinct members .self
    clear ih exact
    rw [asRead, Keyed.settle_of_nodup (by rwa [keys_asReadMembers])]
    clear distinct
    congr 1
    induction members with
    | nil => rfl
    | cons member rest ih =>
      obtain ⟨first, others⟩ := List.forall_mem_cons.mp each
      rw [asReadMembers, first, ih others]

/-- An exact value is written as itself. -/
theorem written_of_exact {v : Json} (exact : v.Exact) : v.written = v :=
  (asRead_of_distinct exact.distinct).symm.trans (asRead_of_exact exact)

/-- An exact value means itself. -/
theorem settled_of_exact {v : Json} (exact : v.Exact) : v.settled = v := by
  have settled := settled_written v
  rwa [written_of_exact exact, asRead_of_exact exact] at settled

/-- **Arrays in each other**, each the only item of the next, around a null value. -/
def nested : Nat → Json
  | 0 => null
  | n + 1 => array [nested n]

theorem height_nested (scalar n : Nat) : (nested n).height scalar = n + scalar := by
  induction n with
  | zero => exact (Nat.zero_add scalar).symm
  | succ n ih => rw [nested, height, heightOfItems, heightOfItems, Nat.max_zero, ih, Nat.add_right_comm]

theorem exact_nested (n : Nat) : (nested n).Exact := by
  induction n with
  | zero => exact exact_null
  | succ n ih => exact exact_array (List.forall_mem_singleton.mpr ih)

end ConnectionJobs.Json
