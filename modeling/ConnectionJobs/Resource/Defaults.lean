import ConnectionJobs.Keyed
import ConnectionJobs.Resource.Quantities
import ConnectionJobs.Resource.Role

/-!
# Resource defaults

Defaults are configured in a table of variants; a variant has entries by role and source type. What is not
found under the requested variant is looked up under the variant `default`, and what is not found under the
requested source type under the type `default`. The entry found is merged over base quantities that hold for
every role. An entry that sets nothing is an entry nevertheless and ends the search.
-/

namespace ConnectionJobs

/-- Entries by source type. -/
abbrev SubTypeTable := Keyed String Quantities

/-- Entries by role name and source type. -/
abbrev RoleTable := Keyed String SubTypeTable

/-- **A table of defaults**: entries by variant, role name and source type. -/
abbrev VariantTable := Keyed String RoleTable

/-- **The defaults catalog**: base quantities and a table of entries. -/
structure DefaultsCatalog where
  /-- The quantities every role inherits. -/
  base : Quantities
  /-- The entries. -/
  variants : VariantTable
  deriving DecidableEq, Repr, Inhabited

namespace DefaultsCatalog

/-- The name of the variant, and of the source type, that stand for all others. -/
def fallbackName : String := "default"

/-- The names to try in turn for a requested one: itself, then the fallback. -/
def candidates (requested : String) : List String :=
  if requested = fallbackName then [fallbackName] else [requested, fallbackName]

/-- The entries of a role in a variant. -/
def roleTable? (c : DefaultsCatalog) (variant : String) (role : Role) : Option SubTypeTable :=
  (Keyed.find? variant c.variants).bind (Keyed.find? role.name)

/-- **The entry** for a role, source type and variant, found by falling back. An absent source type asks for
the fallback type. -/
def entry? (c : DefaultsCatalog) (role : Role) (subType : Option String) (variant : String) :
    Option Quantities :=
  (candidates variant).findSome? fun v =>
    (c.roleTable? v role).bind fun table =>
      (candidates (subType.getD fallbackName)).findSome? fun s => Keyed.find? s table

/-- **The default quantities** of a role: the entry found, merged over the base quantities. -/
def lookup (c : DefaultsCatalog) (role : Role) (subType : Option String) (variant : String) : Quantities :=
  Quantities.merge [c.entry? role subType variant, some c.base]

end DefaultsCatalog

end ConnectionJobs
