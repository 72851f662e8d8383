import ConnectionJobs.Resource.Defaults
import Mathlib.Data.List.Basic

/-!
# Merging tiers

On the way to a job tiers are merged more than once: the defaults catalog puts the entry it finds over its base
quantities, and what it answers is the last tier of the next merge. That all of it is one merge of all the tiers is not
obvious from the outside, since a merge forgets which tier a quantity came from.

A merge takes a list of tiers to what each quantity is first set to, so appending lists puts one result over the other
(`merge_append`). The laws of merging are those of one tier over another. This is associative, quantities that set
nothing leave what they lie over as it is, and what lies over something already has no effect when it is put in again
below. It does not commute, and that is the point of it.
-/

namespace ConnectionJobs

namespace Quantities

/-- **The six quantities.** -/
def fields : List (Quantities → Option String) :=
  [cpuRequest, cpuLimit, memoryRequest, memoryLimit, storageRequest, storageLimit]

/-- **One tier over another**: a quantity that the upper tier does not set is that of the lower tier. -/
def orElse (upper lower : Quantities) : Quantities where
  cpuRequest := upper.cpuRequest.or lower.cpuRequest
  cpuLimit := upper.cpuLimit.or lower.cpuLimit
  memoryRequest := upper.memoryRequest.or lower.memoryRequest
  memoryLimit := upper.memoryLimit.or lower.memoryLimit
  storageRequest := upper.storageRequest.or lower.storageRequest
  storageLimit := upper.storageLimit.or lower.storageLimit

/-! ## Field by field -/

section Fields

variable {field : Quantities → Option String} {q q' : Quantities}

/-- **Six equal fields make equal quantities.** -/
theorem eq_of_fields (same : ∀ field ∈ fields, field q = field q') : q = q' := by
  simp only [fields, List.forall_mem_cons] at same
  obtain ⟨h₁, h₂, h₃, h₄, h₅, h₆, -⟩ := same
  obtain ⟨_, _, _, _, _, _⟩ := q
  obtain ⟨_, _, _, _, _, _⟩ := q'
  exact congr (congr (congr (congr (congr (congrArg mk h₁) h₂) h₃) h₄) h₅) h₆

/-- **A merge takes each quantity from the first tier that sets it.** -/
theorem field_merge {field : Quantities → Option String} (h : field ∈ fields) (tiers : List (Option Quantities)) :
    field (merge tiers) = tiers.findSome? (·.bind field) := by
  simp only [fields, List.mem_cons, List.not_mem_nil, or_false] at h
  obtain rfl | rfl | rfl | rfl | rfl | rfl := h <;> rfl

theorem field_orElse (h : field ∈ fields) (upper lower : Quantities) :
    field (upper.orElse lower) = (field upper).or (field lower) := by
  simp only [fields, List.mem_cons, List.not_mem_nil, or_false] at h
  obtain rfl | rfl | rfl | rfl | rfl | rfl := h <;> rfl

theorem isEmpty_iff : q.isEmpty = true ↔ q = none := by
  obtain ⟨_, _, _, _, _, _⟩ := q
  simp only [isEmpty, none, Bool.and_eq_true, Option.isNone_iff_eq_none, mk.injEq, and_assoc]

/-- A field of a merge is set by a tier above which no tier sets it. -/
theorem field_merge_eq_some_iff (h : field ∈ fields) {tiers : List (Option Quantities)} {value : String} :
    field (merge tiers) = some value ↔ ∃ above tier below, tiers = above ++ some tier :: below ∧
      field tier = some value ∧ ∀ q, some q ∈ above → field q = Option.none := by
  rw [field_merge h, List.findSome?_eq_some_iff]
  constructor
  · rintro ⟨above, tier, below, rfl, set, unset⟩
    obtain ⟨q, rfl, set⟩ := Option.bind_eq_some_iff.mp set
    exact ⟨above, q, below, rfl, set, fun q' inside => unset _ inside⟩
  · rintro ⟨above, tier, below, rfl, set, unset⟩
    refine ⟨above, some tier, below, rfl, set, fun absent inside => ?_⟩
    cases absent with
    | none => rfl
    | some q => exact unset q inside

end Fields

/-! ## One tier over another -/

section OrElse

variable (a b c : Quantities)

theorem none_orElse : none.orElse a = a := rfl

theorem orElse_assoc : (a.orElse b).orElse c = a.orElse (b.orElse c) :=
  eq_of_fields fun field h => by
    rw [field_orElse h, field_orElse h, field_orElse h, field_orElse h, Option.or_assoc]

/-- **What is put in again below has no effect.** -/
theorem orElse_again : a.orElse (b.orElse (a.orElse c)) = a.orElse (b.orElse c) :=
  eq_of_fields fun field h => by
    simp only [field_orElse h]
    cases field a with
    | some value => rfl
    | none => rfl

end OrElse

/-! ## Merges -/

section Merges

variable (tier : Option Quantities) (tiers last : List (Option Quantities))

/-- **Merging appended lists** puts the first merge over the second. -/
theorem merge_append : merge (tiers ++ last) = (merge tiers).orElse (merge last) :=
  eq_of_fields fun field h => by
    rw [field_orElse h, field_merge h, field_merge h, field_merge h, List.findSome?_append]

/-- A merge passes over an absent tier. -/
theorem merge_none_cons : merge (Option.none :: tiers) = merge tiers := rfl

theorem merge_singleton (q : Quantities) : merge [some q] = q :=
  eq_of_fields fun field h => by rw [field_merge h, List.findSome?_singleton, Option.bind_some]

/-- **A merge puts its first tier over the merge of the others.** -/
theorem merge_cons : merge (tier :: tiers) = (tier.getD none).orElse (merge tiers) := by
  cases tier with
  | none => rw [merge_none_cons, Option.getD_none, none_orElse]
  | some q => rw [← List.singleton_append, merge_append, merge_singleton, Option.getD_some]

/-- A merge of two tiers puts the first over the second. -/
theorem merge_pair (upper lower : Quantities) : merge [some upper, some lower] = upper.orElse lower := by
  rw [merge_cons, merge_singleton, Option.getD_some]

/-- **A merge of tiers the last of which is a merge** is one merge. -/
theorem merge_append_merge : merge (tiers ++ [some (merge last)]) = merge (tiers ++ last) := by
  rw [merge_append, merge_append, merge_singleton]

end Merges

/-! ## The laws of merging -/

/-- **The laws of merging.** A quantity has the value that the highest tier to set it gives it. So a merge among the
tiers may be replaced by its own tiers, wherever it stands. The tiers that can be put in and left out anywhere are those
that set nothing. A tier that comes again later has no effect there, and tiers that are appended change no quantity
that is already set. The defaults catalog merges the tiers it finds before they are merged with those above, and that
is one merge too. -/
theorem merge_laws (catalog : DefaultsCatalog) (xs ys zs : List (Option Quantities)) (tier : Option Quantities) :
    (∀ field ∈ fields, ∀ value, field (merge xs) = some value ↔ ∃ above q below, xs = above ++ some q :: below ∧
      field q = some value ∧ ∀ q', some q' ∈ above → field q' = Option.none) ∧
    merge (xs ++ [some (merge ys)] ++ zs) = merge (xs ++ ys ++ zs) ∧
    ((∀ upper lower, merge (upper ++ [tier] ++ lower) = merge (upper ++ lower)) ↔
      ∀ q, tier = some q → q.isEmpty = true) ∧
    merge (xs ++ [tier] ++ ys ++ [tier] ++ zs) = merge (xs ++ [tier] ++ ys ++ zs) ∧
    (∀ field ∈ fields, field (merge xs) ≠ Option.none → field (merge (xs ++ ys)) = field (merge xs)) ∧
    ∀ role subType variant, merge (xs ++ [some (catalog.lookup role subType variant)]) =
      merge (xs ++ [catalog.entry? role subType variant, some catalog.base]) := by
  refine ⟨fun field h value => field_merge_eq_some_iff h, ?flat, ⟨?unset, ?neutral⟩, ?again, fun field h set => ?below,
    fun role subType variant => merge_append_merge _ _⟩
  case flat => rw [merge_append, merge_append_merge, ← merge_append]
  case unset =>
    rintro without q rfl
    rw [isEmpty_iff, ← merge_singleton q]
    exact without [] []
  case neutral =>
    intro empty upper lower
    have nothing : tier.getD none = none := by
      cases tier with
      | none => rfl
      | some q => exact isEmpty_iff.mp (empty q rfl)
    rw [List.append_assoc, merge_append, List.singleton_append, merge_cons, nothing, none_orElse, ← merge_append]
  case again =>
    simp only [List.append_assoc, List.singleton_append, merge_append, merge_cons, orElse_assoc, orElse_again]
  case below =>
    rw [merge_append, field_orElse h]
    exact Option.or_of_isSome (Option.isSome_iff_ne_none.mpr set)

namespace HalfCore

/-- An override of the requested processor share. -/
def override : Quantities := { none with cpuRequest := some "500m" }

/-- What a connector declares: another share, and a memory limit. -/
def declared : Quantities := { none with cpuRequest := some "1", memoryLimit := some "2Gi" }

/-- A catalog without entries. -/
def catalog : DefaultsCatalog := ⟨{ none with memoryLimit := some "1Gi", cpuLimit := some "4" }, []⟩

/-- The overridden share stands over what is declared, with an empty tier between them or without, and over the defaults
that a catalog has merged already. -/
theorem merge_override :
    cpuRequest ∈ fields ∧ cpuRequest (merge [some override]) ≠ Option.none ∧
      cpuRequest (merge [some override, some declared]) = some "500m" ∧ none.isEmpty = true ∧
      merge [some override, some none, some declared] = merge [some override, some declared] ∧
      merge [some override, some (catalog.lookup .source Option.none "default")] =
        { none with cpuRequest := some "500m", cpuLimit := some "4", memoryLimit := some "1Gi" } := by
  have listed : cpuRequest ∈ fields := List.mem_cons_self
  have set : cpuRequest (merge [some override]) ≠ Option.none := by decide
  obtain ⟨-, -, neutral, -, below, nested⟩ :=
    merge_laws catalog [some override] [some declared] [] (some none)
  have unset : ∀ q, some none = some q → q.isEmpty = true := fun q same => Option.some.inj same ▸ rfl
  exact ⟨listed, set, below cpuRequest listed set, rfl, neutral.mpr unset [some override] [some declared],
    (nested .source Option.none "default").trans rfl⟩

end HalfCore

end Quantities

end ConnectionJobs
