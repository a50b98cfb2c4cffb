import TagQuery.Json.Number
import TagQuery.Units

/-!
# Settings

Settings name queries and define units on top of the standard ones. A definition in the settings
takes the place of a standard one with the same suffix.

In JSON, settings are an object with the members `units` and `filters`, either of which may be
missing but neither of which may be null. The two may also stand in an array, in this order, as many
of them as there are. A unit is an object with a dimension and a factor, or an array of the two. A
dimension is named by a string, or by the name of the only member of an object, which is null.
-/

namespace TagQuery

/-- Definitions of units and named queries. -/
structure Settings where
  units : UnitTable
  filters : Dictionary String

namespace Settings

/-- The settings without any content. -/
def empty : Settings := ⟨.empty, .empty⟩

/-- The standard units with those of the settings. -/
def unitTable (s : Settings) : UnitTable := UnitTable.standard.merge s.units

/-! ## Settings in JSON -/

/-- The dimension that a value names. -/
def dimensionOf? : Json → Option Dimension
  | .object [(name, .null)] => (Json.decode? name).bind fun cs ↦ Dimension.ofName? (.ofList cs)
  | value => value.text?.bind Dimension.ofName?

/-- The value of the last member with a name. -/
def lastMember? (members : List (String × Json)) (name : String) : Option Json :=
  (members.reverse.find? (·.1 == name)).map (·.2)

/-- The definition of a unit that a value is. -/
def unitOf? : Json → Option UnitDefinition
  | .object members => do
    let members ← Json.namedMembers? members
    return ⟨← dimensionOf? (← lastMember? members "dimension"),
      ← (← lastMember? members "factor").float?⟩
  | .array [dimension, factor] => do return ⟨← dimensionOf? dimension, ← factor.float?⟩
  | _ => none

/-- The entries of an object whose members `f` reads. -/
def dictionaryOf? {α : Type} (f : Json → Option α) : Json → Option (Dictionary α)
  | .object members => do
    let entries ← (← Json.namedMembers? members).mapM fun (name, value) ↦ (f value).map (name, ·)
    return .ofList entries
  | _ => none

/-- The units that a value defines. -/
def unitsOf? (value : Json) : Option UnitTable := dictionaryOf? unitOf? value

/-- The settings with the given parts, where one is given. -/
def ofParts? (units filters : Option Json) : Option Settings := do
  return {
    units := ← (units.map unitsOf?).getD (some .empty)
    filters := ← (filters.map (dictionaryOf? Json.text?)).getD (some .empty) }

/-- The settings that a value is. -/
def ofJson? : Json → Option Settings
  | .object members => do
    let members ← Json.namedMembers? members
    ofParts? (lastMember? members "units") (lastMember? members "filters")
  | .array [] => ofParts? none none
  | .array [units] => ofParts? (some units) none
  | .array [units, filters] => ofParts? (some units) (some filters)
  | _ => none

end Settings

end TagQuery
