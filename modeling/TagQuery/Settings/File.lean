import TagQuery.Settings.Basic
import TagQuery.Settings.FromIni
import TagQuery.Settings.FromJson
import TagQuery.Settings.FromJson5
import TagQuery.Settings.FromRon
import TagQuery.Settings.FromToml
import TagQuery.Settings.FromYaml
import TagQuery.Settings.Path

/-!
# Settings files

Settings are kept in a file, whose format goes by the ending of its name. Two kinds of faults are
told apart. A file is unreadable if it is not in its format, or does not hold a single table; its
settings are invalid if the table is not one of settings.
-/

namespace TagQuery

/-- What is wrong with a settings file. -/
inductive SettingsError where
  | unreadable
  | invalid
  deriving DecidableEq, Repr

/-- The fault as it is shown, without the name of the file. -/
def SettingsError.message : SettingsError → String
  | unreadable => "Config: Failed to read"
  | invalid => "Config: Invalid settings in"

namespace Settings

/-! ## Settings of a table -/

/-- The entries of a section, each read by `f`; a section that is not there has none. -/
def section? {α : Type} (f : Setting → Option α) : Option Setting → Option (Dictionary α)
  | none => some .empty
  | some (.table entries) => do
    return .ofList (← entries.mapM fun (key, value) ↦ (f value).map (key, ·))
  | some _ => none

/-- The settings of a table. -/
def ofEntries? (entries : List (String × Setting)) : Option Settings := do
  return {
    units := ← section? Setting.unit? (Setting.valueAt? entries "units")
    filters := ← section? Setting.text? (Setting.valueAt? entries "filters") }

/-! ## Formats -/

/-- The format of a settings file. -/
inductive Format where
  | toml
  | json
  | yaml
  | ini
  | ron
  | json5
  deriving DecidableEq, Repr

namespace Format

/-- The formats in the order in which files are looked for. -/
def all : List Format := [toml, json, yaml, ini, ron, json5]

/-- The endings of the names of files in a format. -/
def endings : Format → List String
  | toml => ["toml"]
  | json => ["json"]
  | yaml => ["yaml", "yml"]
  | ini => ["ini"]
  | ron => ["ron"]
  | json5 => ["json5"]

/-- The value that a file in a format holds. -/
def value? : Format → String → Option Setting
  | toml => Setting.ofTomlText?
  | json => Setting.ofJsonText?
  | yaml => Setting.ofYamlText?
  | ini => Setting.ofIniText?
  | ron => Setting.ofRonText?
  | json5 => Setting.ofJson5Text?

end Format

/-- A text without the byte order mark at its start. -/
def dropMark (source : String) : String :=
  match source.toList with
  | '\ufeff' :: cs => .ofList cs
  | _ => source

/-- The settings of a file with a given text. -/
def ofSource (format : Format) (source : String) : Except SettingsError Settings :=
  match format.value? (dropMark source) with
  | some (.table entries) =>
    match ofEntries? (Setting.followPaths entries) with
    | none => .error .invalid
    | some settings => .ok settings
  | _ => .error .unreadable

end Settings

end TagQuery
