import ConnectionJobs.Proofs.Resource.Precedence

/-!
# Falling back in the defaults catalog

An operator who writes an entry of the defaults catalog wants to know whom it serves. The answer is a list of four
places, from the one that was asked for to the most general one, and the first place that has an entry decides. What the
entry sets has no say in the search. An entry that sets nothing is found like any other, and then the base quantities
alone are left.
-/

namespace ConnectionJobs

/-- **The places where a defaults catalog is searched**, each a variant and a source type, in order. -/
def DefaultsCatalog.places (variant subType : String) : List (String × String) :=
  [(variant, subType), (variant, "default"), ("default", subType), ("default", "default")]

namespace DefaultsCatalog

variable (catalog : DefaultsCatalog) (role : Role) (subType : Option String) (variant : String)

/-- The entry found is the one at the first place that has one. -/
theorem entry_eq_findSome : catalog.entry? role subType variant =
    (places variant (subType.getD "default")).findSome? fun place => catalog.entryAt place.1 role place.2 := by
  rw [entry_eq, entryTier, places]
  simp only [List.findSome?_cons, List.findSome?_nil]
  cases catalog.entryAt variant role (subType.getD "default") with
  | some entry => rfl
  | none =>
    cases catalog.entryAt variant role "default" with
    | some entry => rfl
    | none =>
      cases catalog.entryAt "default" role (subType.getD "default") with
      | some entry => rfl
      | none => cases catalog.entryAt "default" role "default" <;> rfl

/-- **A lookup puts the entry at the first of four places over the base quantities**, which stand alone when no place
has an entry. -/
theorem lookup_eq_findSome : catalog.lookup role subType variant =
    match (places variant (subType.getD "default")).findSome? fun place => catalog.entryAt place.1 role place.2 with
    | some entry => entry.orElse catalog.base
    | none => catalog.base := by
  rw [lookup, entry_eq_findSome]
  cases (places variant (subType.getD "default")).findSome? fun place => catalog.entryAt place.1 role place.2 with
  | some entry => exact Quantities.merge_pair entry catalog.base
  | none => rw [Quantities.merge_none_cons, Quantities.merge_singleton]

/-- An entry is returned for its own place, whatever it sets. -/
theorem lookup_of_entryAt {catalog : DefaultsCatalog} {role : Role} {subType variant : String} {entry : Quantities}
    (here : catalog.entryAt variant role subType = some entry) :
    catalog.lookup role (some subType) variant = entry.orElse catalog.base := by
  rw [lookup_eq_findSome, places, Option.getD_some, List.findSome?_cons, here]

end DefaultsCatalog

end ConnectionJobs
