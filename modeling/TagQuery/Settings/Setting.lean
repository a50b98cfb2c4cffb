import TagQuery.Number.Scientific
import TagQuery.Number.Shortest
import TagQuery.Units

/-!
# Values of settings

What a settings file says, whatever its format: a tree of tables and lists over scalars. The tree is
read leniently. Where a text is wanted a number or a truth value gives its text, and where a number
is wanted a text that writes or names one will do, or a truth value, which counts as one or zero.
What is missing or null is an error all the same.
-/

namespace TagQuery

/-- A value of a settings file. -/
inductive Setting where
  | null
  | bool (value : Bool)
  | int (value : Int)
  | float (value : Float)
  | text (text : String)
  | list (items : List Setting)
  | table (entries : List (String × Setting))
  deriving Inhabited

namespace Setting

/-! ## Tables -/

/-- The value of an entry. -/
def valueAt? (entries : List (String × Setting)) (key : String) : Option Setting :=
  entries.lookup key

/-- Entries with a new value for a key. -/
def setEntry (entries : List (String × Setting)) (key : String) (value : Setting) :
    List (String × Setting) :=
  (key, value) :: entries.filter (·.1 != key)

/-- The table of a list of entries; of two entries with one key the later stays. -/
def tableOf (entries : List (String × Setting)) : Setting :=
  table (entries.foldl (fun earlier (key, value) ↦ setEntry earlier key value) [])

/-! ## Lenient reading -/

/-- The text that a value is taken for. -/
def text? : Setting → Option String
  | bool b => some (if b then "true" else "false")
  | int n => some (toString n)
  | float x => some (Shortest.text x)
  | text s => some s
  | _ => none

/-- The number that a text is taken for. -/
def numberOfText? (s : String) : Option Float :=
  let cs := s.toList.map Char.toLower
  if ["true", "on", "yes"].contains (String.ofList cs) then some 1
  else if ["false", "off", "no"].contains (String.ofList cs) then some 0
  else Scientific.number? s.toList

/-- The number that a value is taken for. -/
def number? : Setting → Option Float
  | float x => some x
  | int n => some (Binary64.ofDecimal (n < 0) n.natAbs 0)
  | bool b => some (if b then 1 else 0)
  | text s => numberOfText? s
  | _ => none

/-! ## Units -/

/-- The dimension that a value names: by its text, or by the only key of a table. -/
def dimension? : Setting → Option Dimension
  | text s => Dimension.ofName? s
  | table [(key, _)] => Dimension.ofName? key
  | _ => none

/-- The definition of a unit that a value is: a table, or a list of dimension and factor. -/
def unit? : Setting → Option UnitDefinition
  | table entries => do
    return ⟨← dimension? (← valueAt? entries "dimension"), ← number? (← valueAt? entries "factor")⟩
  | list (dimension :: factor :: _) => do return ⟨← dimension? dimension, ← number? factor⟩
  | _ => none

end Setting

end TagQuery
