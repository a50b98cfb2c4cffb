import TagQuery.Settings.Setting
import TagQuery.Yaml.Document

/-!
# Settings in YAML

A stream of YAML holds settings if it has a single document, or none at all, which counts as an
empty table. Keys may be scalars of every kind but null.
-/

namespace TagQuery.Setting

/-- The text of a key in YAML. -/
def keyOfYaml? : Yaml → Option String
  | .bool b => some (if b then "true" else "false")
  | .int n => some (toString n)
  | .real spelling => some spelling
  | .text s => some s
  | _ => none

mutual

/-- A value of YAML as a setting. Real numbers that are not finite are refused. -/
def ofYaml? : Yaml → Option Setting
  | .null | .undefined => some .null
  | .bool b => some (.bool b)
  | .int n => some (.int n)
  | .real spelling => (Scientific.finite? spelling.toList).map .float
  | .text s => some (.text s)
  | .sequence items => (ofYamlItems? items).map .list
  | .mapping entries => (ofYamlEntries? entries).map .tableOf

/-- Items of YAML as settings. -/
def ofYamlItems? : List Yaml → Option (List Setting)
  | [] => some []
  | item :: items => do return (← ofYaml? item) :: (← ofYamlItems? items)

/-- Entries of YAML as entries of a table. -/
def ofYamlEntries? : List (Yaml × Yaml) → Option (List (String × Setting))
  | [] => some []
  | (key, value) :: entries => do
    return (← keyOfYaml? key, ← ofYaml? value) :: (← ofYamlEntries? entries)

end

/-- The value that a stream of YAML holds: that of its only document, or an empty table. -/
def ofYamlText? (source : String) : Option Setting := do
  match ← Yaml.documents? source with
  | [] => return .table []
  | [document] => ofYaml? document
  | _ => none

end TagQuery.Setting
