import TagQuery.Dictionary
import TagQuery.Literal.Error
import TagQuery.Number.Extent
import TagQuery.Number.Scientific
import TagQuery.Quantity
import TagQuery.Text.Blank

/-!
# Units

A unit is a suffix of a number, such as the `mph` of `30 mph`. It belongs to a dimension and has a
factor into that dimension's canonical unit. The table of units is configuration: it starts as
`UnitTable.standard` and later definitions of a suffix replace earlier ones.

A suffix is looked up in its exact spelling first. Only if that is unknown does a suffix count that
differs from it in the case of ASCII letters.

The same reading serves literals of queries and values of tags. They differ in what becomes of a
text that is no quantity: a literal is faulty, a tag value simply has no number.
-/

namespace TagQuery

/-- What a suffix stands for: a dimension, and the factor into its canonical unit. -/
structure UnitDefinition where
  dimension : Dimension
  factor : Float

/-- The known suffixes and their definitions. -/
abbrev UnitTable := Dictionary UnitDefinition

/-- Whether two texts are equal but for the case of ASCII letters. -/
def equalIgnoringCase (s t : String) : Bool :=
  s.toList.map Char.toLower = t.toList.map Char.toLower

namespace UnitTable

/-- The units known without any configuration. -/
def standard : UnitTable := .ofList
  [("km/h", ⟨.speed, 1⟩), ("kmh", ⟨.speed, 1⟩), ("kph", ⟨.speed, 1⟩),
    ("mph", ⟨.speed, Binary64.ofDecimal false 1609344 (-6)⟩),
    ("knots", ⟨.speed, Binary64.ofDecimal false 1852 (-3)⟩),
    ("m", ⟨.length, 1⟩), ("km", ⟨.length, 1000⟩),
    ("cm", ⟨.length, Binary64.ofDecimal false 1 (-2)⟩),
    ("ft", ⟨.length, Binary64.ofDecimal false 3048 (-4)⟩),
    ("mi", ⟨.length, Binary64.ofDecimal false 1609344 (-3)⟩),
    ("t", ⟨.weight, 1⟩),
    ("kg", ⟨.weight, Binary64.ofDecimal false 1 (-3)⟩),
    ("lbs", ⟨.weight, Binary64.ofDecimal false 45359237 (-11)⟩),
    ("st", ⟨.weight, Binary64.ofDecimal false 90718474 (-8)⟩)]

/-- The definition of a suffix, in its exact spelling or else ignoring the case of ASCII letters. -/
def lookup? (table : UnitTable) (suffix : String) : Option UnitDefinition :=
  (table.get? suffix).or
    ((table.entries.find? fun e ↦ equalIgnoringCase e.1 suffix).map (·.2))

/-- The number that a text starts with, if it starts with one, and the rest without the blanks
before it. The text is cut at the byte at which the number ends; there is no outcome at all if that
byte lies within a character. -/
def split? (cs : List Char) : Option (Option (Float × List Char)) :=
  match Decimal.extent? (Text.utf8 cs) with
  | none => some none
  | some offset => (Text.cut? offset cs).map fun (number, rest) ↦
    (Scientific.number? number).map fun x ↦ (x, Text.trimStart rest)

theorem split?_append {number rest : List Char}
    (h : Decimal.extent? (Text.utf8 (number ++ rest)) = some (Text.utf8Length number)) :
    split? (number ++ rest) =
      some ((Scientific.number? number).map fun x ↦ (x, Text.trimStart rest)) := by
  simp only [split?, h, Text.cut?_append, Option.map_some]

/-- The byte at which a number ends never lies within a character. -/
theorem isSome_split? (cs : List Char) : (split? cs).isSome := by
  rcases Decimal.extent?_cases cs with ⟨-, hend⟩ | ⟨number, rest, d, rfl, -, hend⟩
  · rw [split?, hend, Option.isSome_some]
  · rw [split?_append hend, Option.isSome_some]

/-- The number that a text starts with, blanks around the text aside, and the suffix after it. -/
def splitNumber? (text : String) : Option (Float × String) :=
  ((split? (Text.trim text.toList)).get (isSome_split? _)).map fun (x, rest) ↦ (x, .ofList rest)

/-- The quantity of a number with a suffix. An empty suffix is no unit, whatever the table says. -/
def normalize? (table : UnitTable) (x : Float) (suffix : String) : Option Quantity :=
  if suffix.isEmpty then some (.plain x)
  else (table.lookup? suffix).map fun u ↦ ⟨x * u.factor, some u.dimension⟩

/-- The quantity that a literal of a query writes. -/
def parseLiteral (table : UnitTable) (literal : String) : Except LiteralError Quantity :=
  match splitNumber? literal with
  | none => .error (.invalidNumber literal)
  | some (x, suffix) =>
    match table.normalize? x suffix with
    | none => .error (.unknownUnit literal suffix)
    | some quantity => .ok quantity

/-- The quantity that the value of a tag writes, if it writes one. -/
def parseTagValue? (table : UnitTable) (value : String) : Option Quantity :=
  (splitNumber? value).bind fun (x, suffix) ↦ table.normalize? x suffix

end UnitTable

end TagQuery
