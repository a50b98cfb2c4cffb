import TagQuery.Number.Whole
import TagQuery.Settings.Setting
import TagQuery.Text.Blank

/-!
# Paths

A name at the top of a settings file may be a path: `filters.benches` is the entry `benches` of the
table `filters`, wherever else that table has entries, and `units.yd[1]` is the second item of the
list `yd`. Where a path leads through a value of another kind that value is given up, and a list
grows as far as it has to. An index below zero counts from the end of the list.
-/

namespace TagQuery.Setting

/-- A step of a path: into a table, or into a list. -/
inductive Step where
  | name (name : String)
  | index (index : Int)
  deriving DecidableEq, Repr

/-- The steps that lead to a value. -/
abbrev Path := List Step

namespace Path

/-! ## Reading -/

/-- A character of the names in a path. -/
def isNameCharacter (c : Char) : Bool := c.isAlphanum || c == '-' || c == '_'

/-- The index that a text between brackets writes, which blanks may surround. -/
def index? (cs : List Char) : Option Int :=
  let isBlank (c : Char) : Bool := c == ' ' || c == '\t'
  match ((cs.dropWhile isBlank).reverse.dropWhile isBlank).reverse with
  | '+' :: _ => none
  | cs => Whole.ofChars? cs

/-- The steps that a text writes after the first one. -/
def steps? : Nat → List Char → Option Path
  | 0, _ => none
  | _ + 1, [] => some []
  | fuel + 1, '.' :: cs =>
    let name := cs.takeWhile isNameCharacter
    if name.isEmpty then none
    else (steps? fuel (cs.drop name.length)).map (.name (.ofList name) :: ·)
  | fuel + 1, '[' :: cs => do
    let inside := cs.takeWhile (· != ']')
    let index ← index? inside
    match cs.drop inside.length with
    | _ :: rest => return .index index :: (← steps? fuel rest)
    | [] => none
  | _, _ => none

/-- The path that a name writes, or the name alone if it writes none. -/
def ofName (name : String) : Path :=
  (steps? (name.length + 2) ('.' :: name.toList)).getD [.name name]

end Path

/-! ## Laying values over others -/

/-- The entries of a table; other values have none. -/
def entriesOf : Setting → List (String × Setting)
  | table entries => entries
  | _ => []

/-- The items of a list; other values have none. -/
def itemsOf : Setting → List Setting
  | list items => items
  | _ => []

mutual

/-- A value laid over another: the entries of tables are joined, key by key, and in other cases the
upper value counts. -/
def overlay (lower : Setting) : Setting → Setting
  | table entries => table (overlayEntries (entriesOf lower) entries)
  | upper => upper

/-- Entries laid over others. -/
def overlayEntries (lower : List (String × Setting)) :
    List (String × Setting) → List (String × Setting)
  | [] => lower
  | (key, value) :: entries =>
    overlayEntries (setEntry lower key (overlay ((valueAt? lower key).getD null) value)) entries

end

/-- A list that is long enough for an index, and the position in it. -/
def makeRoom (items : List Setting) (index : Int) : List Setting × Nat :=
  let position := if index < 0 then index + items.length else index
  if position < 0 then (List.replicate position.natAbs null ++ items, 0)
  else
    (items ++ List.replicate (position.toNat + 1 - items.length) null, position.toNat)

/-- A value with another one laid over what is at the end of a path. -/
def layAt (lower : Setting) (value : Setting) : Path → Setting
  | [] => overlay lower value
  | .name name :: path =>
    let entries := entriesOf lower
    table (setEntry entries name (layAt ((valueAt? entries name).getD null) value path))
  | .index index :: path =>
    let (items, position) := makeRoom (itemsOf lower) index
    list (items.modify position fun item ↦ layAt item value path)

/-- The entries at the top of a file with their paths followed. -/
def followPaths (entries : List (String × Setting)) : List (String × Setting) :=
  entriesOf (entries.foldl (fun lower (name, value) ↦ layAt lower value (.ofName name)) null)

end TagQuery.Setting
