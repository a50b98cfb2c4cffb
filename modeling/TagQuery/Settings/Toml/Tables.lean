import TagQuery.Settings.Setting

/-!
# Tables in TOML

A table grows while a file is read: by entries whose keys may be paths, and under headings, which
are paths as well. No table is defined twice, so it matters how a table came to be. A heading opens
a table that no entry and no other heading has defined; tables on the way to it may have been there
before. The path of an entry leads through tables that such paths have opened, and through no others
but in passing. Values, among them the tables in braces, are closed.

A heading in double brackets adds a table to a list of tables, and a path that leads through such a
list means its last table.
-/

namespace TagQuery.Setting.Toml

/-- How a table came to be: under a heading of its own, on the way to another heading, or on the
path of an entry. -/
inductive Origin where
  | heading
  | passage
  | entry
  deriving DecidableEq, Repr

/-- What a key of a growing table stands for. The tables of a list are in reverse order. -/
inductive Item where
  | value (setting : Setting)
  | table (origin : Origin) (entries : List (String × Item))
  | tables (entries : List (List (String × Item)))

/-- The entries of a growing table. -/
abbrev Items := List (String × Item)

mutual

/-- The value of an item. -/
def Item.toSetting : Item → Setting
  | .value setting => setting
  | .table _ entries => table (settingsOf entries)
  | .tables lists => list (tablesOf lists).reverse

/-- The values of the entries of a table. -/
def settingsOf : List (String × Item) → List (String × Setting)
  | [] => []
  | (key, item) :: entries => (key, item.toSetting) :: settingsOf entries

/-- The values of a list of tables. -/
def tablesOf : List (List (String × Item)) → List Setting
  | [] => []
  | entries :: lists => table (settingsOf entries) :: tablesOf lists

end

namespace Items

/-- The item of a key. -/
def find? (items : Items) (key : String) : Option Item := items.lookup key

/-- Items with a new one for a key. -/
def set (items : Items) (key : String) (item : Item) : Items :=
  (key, item) :: items.filter (·.1 != key)

/-! ## Entries -/

/-- A table with one more entry at the end of a path. -/
def insert? (value : Setting) : List String → Items → Option Items
  | [], _ => none
  | [key], items =>
    if (find? items key).isSome then none else some (set items key (.value value))
  | key :: path, items =>
    match find? items key with
    | none => (insert? value path []).map fun below ↦ set items key (.table .entry below)
    | some (.table .heading _) => none
    | some (.table origin below) =>
      if origin = .passage && path.length = 1 then none
      else (insert? value path below).map fun below ↦ set items key (.table origin below)
    | some _ => none

/-! ## Headings -/

/-- A table with what is at the end of a path changed by `f`; tables on the way are opened. -/
def under? (f : Items → Option Items) : List String → Items → Option Items
  | [], items => f items
  | key :: path, items =>
    match find? items key with
    | none => (under? f path []).map fun below ↦ set items key (.table .passage below)
    | some (.table origin below) =>
      (under? f path below).map fun below ↦ set items key (.table origin below)
    | some (.tables (last :: lists)) =>
      (under? f path last).map fun last ↦ set items key (.tables (last :: lists))
    | some _ => none

/-- A table in which a heading has opened a table for a key. -/
def openTable? (key : String) (items : Items) : Option Items :=
  match find? items key with
  | none => some (set items key (.table .heading []))
  | some (.table .passage below) => some (set items key (.table .heading below))
  | some _ => none

/-- A table in which a heading has added a table to the list for a key. -/
def addTable? (key : String) (items : Items) : Option Items :=
  match find? items key with
  | none => some (set items key (.tables [[]]))
  | some (.tables lists) => some (set items key (.tables ([] :: lists)))
  | some _ => none

end Items

end TagQuery.Setting.Toml
