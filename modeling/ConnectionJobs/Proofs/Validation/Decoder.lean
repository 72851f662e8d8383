import ConnectionJobs.Proofs.Keyed
import ConnectionJobs.Validation.Checked

/-!
# What decoders give

A decoder checks a value and gives it a type, or it does not. What it gives is put together from what it gives for the
parts of the value, so a property of all values that a decoder gives is shown part by part. Such a property often
depends on how large a value is, or on what it holds: a decoder *makes* values of a kind from values within some bounds,
and what is inside a value within the outer bounds is within the inner ones.
-/

namespace ConnectionJobs

namespace Checked

variable {α β : Type} {f : Checked (α → β)} {x : Checked α} {a : α} {b : β} {step : PathStep}

/-- **The check succeeds**, with this value. -/
def Gives (check : Checked α) (a : α) : Prop := check = .valid a

theorem Gives.map {g : α → β} (h : x.Gives a) : (g <$> x).Gives (g a) := by
  obtain rfl : x = .valid a := h
  rfl

theorem Gives.ap {g : α → β} (h : f.Gives g) (h' : x.Gives a) : (f <*> x).Gives (g a) := by
  obtain rfl : f = .valid g := h
  obtain rfl : x = .valid a := h'
  rfl

theorem Gives.under (h : x.Gives a) : (x.under step).Gives a := by
  obtain rfl : x = .valid a := h
  rfl

theorem Gives.of_value? (h : x.value? = some a) : x.Gives a := by
  cases x with
  | valid b => exact congrArg valid (Option.some.inj h)
  | invalid problems => exact nomatch h

theorem gives_map {g : α → β} : (g <$> x).Gives b ↔ ∃ a, x.Gives a ∧ g a = b := by
  constructor
  · intro h
    obtain a | problems := x
    · exact ⟨a, rfl, valid.inj h⟩
    · exact nomatch h
  · rintro ⟨a, ha, rfl⟩
    exact ha.map

theorem gives_ap : (f <*> x).Gives b ↔ ∃ g a, f.Gives g ∧ x.Gives a ∧ g a = b := by
  constructor
  · intro h
    obtain g | problems := f
    · obtain a | others := x
      · exact ⟨g, a, rfl, rfl, valid.inj h⟩
      · exact nomatch h
    · obtain a | others := x
      · exact nomatch h
      · exact nomatch h
  · rintro ⟨g, a, hg, ha, rfl⟩
    exact hg.ap ha

theorem gives_under : (x.under step).Gives a ↔ x.Gives a := by
  refine ⟨fun h => ?_, Gives.under⟩
  obtain a | problems := x
  · exact h
  · exact nomatch h

end Checked

namespace Decoder

open Checked (Gives gives_map gives_ap gives_under)

variable {α : Type} {within outer inner : Json → Prop} {decode : Decoder α} {p q : α → Prop} {key : String}
  {ms : Members} {a : α}

/-- **A decoder makes values of a kind** from values within some bounds. -/
def Makes (within : Json → Prop) (decode : Decoder α) (p : α → Prop) : Prop :=
  ∀ json, within json → ∀ a, (decode json).Gives a → p a

/-- The values of some members are within bounds. -/
def Each (within : Json → Prop) (ms : Members) : Prop := ∀ member ∈ ms, within member.2

/-- **Bounds for what is inside** a value that is within some bounds. -/
structure Inside (outer inner : Json → Prop) : Prop where
  /-- The items of an array are within the inner bounds. -/
  items : ∀ {list : List Json}, outer (.array list) → ∀ item ∈ list, inner item
  /-- The values of the members of an object are within the inner bounds. -/
  values : ∀ {ms : Members}, outer (.object ms) → Each inner ms

theorem Makes.imp (makes : Makes within decode p) (h : ∀ a, p a → q a) : Makes within decode q :=
  fun json fits a given => h a (makes json fits a given)

theorem Each.find? {json : Json} (each : Each within ms) (found : Keyed.find? key ms = some json) : within json := by
  obtain ⟨member, inside, same⟩ := Keyed.exists_mem_of_find? found
  exact same ▸ each member inside

/-- **A record** is made from its members. -/
theorem makes_record {fields : Members → Checked α} (inside : Inside outer inner)
    (h : ∀ ms, Each inner ms → ∀ a, (fields ms).Gives a → p a) : Makes outer (record fields) p := by
  intro json fits a given
  cases json with
  | object ms => exact h ms (inside.values fits) a given
  | _ => exact nomatch given

/-- A table is made as it stands. -/
theorem makes_members : Makes within members fun ms => within (.object ms) := by
  intro json fits ms given
  cases json with
  | object held =>
    cases given
    exact fits
  | _ => exact nomatch given

theorem makes_nullable (makes : Makes within decode p) :
    Makes within (nullable decode) fun o => ∀ a, o = some a → p a := by
  rintro json fits o given a rfl
  unfold nullable at given
  split at given
  · exact nomatch given
  · obtain ⟨_, decoded, same⟩ := gives_map.mp given
    cases same
    exact makes json fits a decoded

/-- The items of a list, wherever they are numbered from. -/
theorem makes_itemsFrom (makes : Makes within decode p) {list : List Json} {position : Nat} {l : List α}
    (fits : ∀ item ∈ list, within item) (given : (itemsFrom decode position list).Gives l) : ∀ a ∈ l, p a := by
  induction list generalizing position l with
  | nil =>
    cases given
    exact fun _ h => absurd h List.not_mem_nil
  | cons item rest ih =>
    obtain ⟨first, others⟩ := List.forall_mem_cons.mp fits
    obtain ⟨_, tail, mapped, tailGiven, rfl⟩ := gives_ap.mp given
    obtain ⟨head, headGiven, rfl⟩ := gives_map.mp mapped
    exact List.forall_mem_cons.mpr ⟨makes item first head (gives_under.mp headGiven), ih others tailGiven⟩

theorem makes_items (inside : Inside outer inner) (makes : Makes inner decode p) :
    Makes outer (items decode) fun l => ∀ a ∈ l, p a := by
  intro json fits l given
  cases json with
  | array list => exact makes_itemsFrom makes (inside.items fits) given
  | _ => exact nomatch given

theorem makes_required (each : Each within ms) (makes : Makes within decode p)
    (given : (required key decode ms).Gives a) : p a := by
  unfold required at given
  split at given
  · rename_i json found
    exact makes json (each.find? found) a (gives_under.mp given)
  · exact nomatch given

theorem makes_withDefault {default : α} (each : Each within ms) (makes : Makes within decode p)
    (otherwise : p default) (given : (withDefault key default decode ms).Gives a) : p a := by
  unfold withDefault at given
  split at given
  · rename_i json found
    exact makes json (each.find? found) a (gives_under.mp given)
  · cases given
    exact otherwise

theorem makes_omissible {o : Option α} (each : Each within ms) (makes : Makes within decode p)
    (given : (omissible key decode ms).Gives o) : ∀ a, o = some a → p a := by
  refine makes_withDefault each (makes_nullable makes) ?_ given
  exact fun _ absent => nomatch absent

end Decoder

/-! ## Where problems lie -/

namespace Checked

variable {α β : Type} {f : Checked (α → β)} {x : Checked α}

/-- **The problems lie inside the value**: none is about the value itself. -/
def Inner (x : Checked α) : Prop := ∀ problem ∈ x.problems, problem.path ≠ []

theorem inner_valid (a : α) : (valid a).Inner := fun _ h => absurd h List.not_mem_nil

theorem inner_under (step : PathStep) (x : Checked α) : (x.under step).Inner := by
  cases x with
  | valid a => exact inner_valid a
  | invalid problems =>
    intro problem h
    obtain ⟨_, -, rfl⟩ := List.mem_map.mp h
    exact List.cons_ne_nil _ _

theorem Inner.map (h : x.Inner) (g : α → β) : (g <$> x).Inner := by
  cases x with
  | valid a => exact inner_valid (g a)
  | invalid problems => exact h

theorem Inner.ap (hf : f.Inner) (hx : x.Inner) : (f <*> x).Inner := by
  cases f with
  | valid g =>
    cases x with
    | valid a => exact inner_valid (g a)
    | invalid problems => exact hx
  | invalid problems =>
    cases x with
    | valid a => exact hf
    | invalid others => exact List.forall_mem_append.mpr ⟨hf, hx⟩

end Checked

namespace Decoder

open Checked (Inner inner_valid inner_under)

variable {α : Type} {decode : Decoder α} {key : String} {ms : Members}

/-- A required member has its problems inside, and its absence is a problem of the member too. -/
theorem inner_required : (required key decode ms).Inner := by
  unfold required
  split
  · exact inner_under _ _
  · intro problem h
    obtain rfl := List.mem_singleton.mp h
    exact List.cons_ne_nil _ _

theorem inner_withDefault {default : α} : (withDefault key default decode ms).Inner := by
  unfold withDefault
  split
  · exact inner_under _ _
  · exact inner_valid _

theorem inner_omissible : (omissible key decode ms).Inner := inner_withDefault

end Decoder

end ConnectionJobs
