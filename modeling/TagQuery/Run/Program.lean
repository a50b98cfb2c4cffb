import TagQuery.Filter.Registry
import TagQuery.Run.CommandLine
import TagQuery.Run.Files
import TagQuery.Run.Pipeline
import TagQuery.Settings.File

/-!
# Running a command

Checking compiles the named queries of settings and reports on each. Matching finds its query, opens
the input, creates the output, and then runs the pipeline from one to the other, if a batch can be
held at all. The first of these that fails ends the run, so a faulty query leaves the output alone
and a missing input does not create it.

A hyphen stands for the standard streams in place of a file.
-/

namespace TagQuery

/-- Why a run fails. -/
inductive Failure where
  | settings (error : SettingsError) (path : String)
  | invalidExpression (expr : String) (error : QueryError)
  | registry (error : RegistryError)
  | unknownFilter (name : String) (known : List String)
  | openInput (path : String)
  | createOutput (path : String)
  | batchTooLarge
  | readLine
  | faultyFilters (failed total : Nat)
  deriving Repr

/-- The failure as it is shown, without the causes that are listed under it. -/
def Failure.message : Failure → String
  | settings e path => s!"{e.message} {Text.quoted path}"
  | invalidExpression expr _ => s!"CLI: Invalid --expr {Text.quoted expr}"
  | registry e => e.message
  | unknownFilter name known =>
    let names := ", ".intercalate known
    s!"CLI: Unknown filter '{name}' (known: {names})"
  | openInput path => s!"CLI: Failed to open input {Text.quoted path}"
  | createOutput path => s!"CLI: Failed to create output {Text.quoted path}"
  | batchTooLarge => "Pipeline: Reader thread panicked: capacity overflow"
  | readLine => "Input: Failed to read line"
  | faultyFilters failed total => s!"CLI: {failed} of {total} filters failed to compile"

/-- What a run leads to. -/
structure Outcome where
  /-- The lines on standard output. -/
  output : List String
  /-- What a matching run counted, if it came to its end. -/
  summary : Option Summary
  /-- The numbers of the lines that are no records. -/
  skippedLines : List Nat
  failure : Option Failure

namespace Outcome

/-- A run that ended before it did anything. -/
def failed (failure : Failure) : Outcome := ⟨[], none, [], some failure⟩

/-- What a run tells its caller: zero for success. -/
def exitCode (o : Outcome) : Nat := if o.failure.isSome then 1 else 0

end Outcome

namespace Program

variable {m : Type → Type} [Monad m]

/-! ## Settings -/

/-- The parts of a name without those at its end that lead nowhere else. -/
def namingParts (name : String) : List String :=
  ((FileName.parts name).reverse.dropWhile FileName.isIdle).reverse

/-- The ending of a file's name: what follows the last point, if anything stands before that. -/
def extension (name : String) : String :=
  let file := (namingParts name).getLastD ""
  match (Text.splitAt (· == '.') file.toList).reverse with
  | [] | [_] | [_, []] => ""
  | ending :: _ => .ofList ending

/-- The format of a settings file by the ending of its name. -/
def format? (name : String) : Option Settings.Format :=
  Settings.Format.all.find? fun f ↦ f.endings.contains (extension name)

/-- The names that are tried if there is no file of the given name: the name with each ending. A
name that ends by leading up is not tried. -/
def candidates (name : String) : List String :=
  match (namingParts name).getLast? with
  | none | some ".." => []
  | some _ =>
    let stem := "/".intercalate (namingParts name)
    (Settings.Format.all.flatMap (·.endings)).map fun ending ↦ stem ++ "." ++ ending

/-- The first of some names that is that of a file. -/
def firstFile? (files : FileAccess m) : List String → m (Option String)
  | [] => return none
  | name :: names => do
    if ← files.isFile name then return some name else firstFile? files names

/-- The settings in the file of a given name, or of that name with an ending. -/
def loadSettings (files : FileAccess m) (name : String) : m (Except SettingsError Settings) := do
  match ← firstFile? files (name :: candidates name) with
  | none => return .error .unreadable
  | some found =>
    match format? found, ← files.read? found with
    | some format, some text => return Settings.ofSource format text
    | _, _ => return .error .unreadable

/-- The settings of a run, which are empty if none are named. -/
def settingsOf (files : FileAccess m) : Option String → m (Except Failure Settings)
  | none => return .ok .empty
  | some name => do return (← loadSettings files name).mapError (.settings · name)

/-! ## Checking -/

/-- The line for a named query. -/
def checkLine (r : CheckReport) : String :=
  match r.result with
  | .ok f => s!"ok    {r.name} ({f.filter.kinds.describe})"
  | .error e => s!"error {r.name}: {e.message}"

/-- The outcome of checking settings. -/
def checkSettings (settings : Settings) : Outcome :=
  let reports := (CheckReport.ofSettings settings (.new settings.unitTable)).1
  let failed := (reports.filter (·.failed)).length
  { output := reports.map checkLine
    summary := none
    skippedLines := []
    failure := if failed = 0 then none else some (.faultyFilters failed reports.length) }

/-- Checks the settings in a file. -/
def check (files : FileAccess m) (config : String) : m Outcome := do
  match ← settingsOf files (some config) with
  | .error failure => return .failed failure
  | .ok settings => return checkSettings settings

/-! ## Matching -/

/-- The filter of a query, given the settings that go with it. -/
def filterOf (settings : Settings) : QuerySource → Except Failure Filter
  | .inline expr _ => (Filter.ofSource settings.unitTable expr).mapError (.invalidExpression expr)
  | .named name _ =>
    match Registry.ofSettings settings (.new settings.unitTable) with
    | .error e => .error (.registry e)
    | .ok registry =>
      match registry.get? name with
      | some f => .ok f.filter
      | none => .error (.unknownFilter name registry.names)

/-- The settings that go with a query. -/
def configOf : QuerySource → Option String
  | .named _ config => some config
  | .inline _ config => config

/-- Whether a name stands for a standard stream: it is a hyphen, and nothing after it leads
elsewhere. -/
def isStream (name : String) : Bool := namingParts name == ["-"]

/-- The outcome of a pipeline whose output goes to standard output, or to a file if there is one. -/
def finish (files : FileAccess m) (file : Option String) (r : Pipeline.Result) : m Outcome := do
  let lines := r.written.map Record.writeLine
  let outcome : Outcome := ⟨lines, some r.summary, r.skippedLines, none⟩
  match file with
  | none => return outcome
  | some name =>
    files.append name (String.join (lines.map (· ++ "\n")))
    return { outcome with output := [] }

/-- Runs the pipeline of a filter from the input to the output. Input that is not UTF-8 fails as a
whole: what the batches before the faulty line have put into the output by then is left out of the
outcome. Writing to an output that has been created does not fail here. -/
def pipe (files : FileAccess m) (stdin : m (Option String)) (arguments : MatchArguments)
    (today : Date) (f : Filter) : m Outcome := do
  let fromStream := isStream arguments.input
  let toStream := isStream arguments.output
  let opened ← if fromStream then pure true else files.canOpen arguments.input
  if !opened then return .failed (.openInput arguments.input)
  let created ← if toStream then pure true else files.create arguments.output
  if !created then return .failed (.createOutput arguments.output)
  match Pipeline.Reader.start? arguments.batchSize with
  | none => return .failed .batchTooLarge
  | some reader =>
    match ← if fromStream then stdin else files.read? arguments.input with
    | none => return .failed .readLine
    | some text =>
      finish files (if toStream then none else some arguments.output) <|
        Pipeline.run (f.acceptsEither today arguments.lifecycle) reader text

/-- Matches the records of a file. Without a date of its own the run counts from the day it is. -/
def runMatch (files : FileAccess m) (stdin : m (Option String)) (clock : m Date)
    (arguments : MatchArguments) : m Outcome := do
  match ← settingsOf files (configOf arguments.query) with
  | .error failure => return .failed failure
  | .ok settings =>
    match filterOf settings arguments.query with
    | .error failure => return .failed failure
    | .ok f =>
      let today ← match arguments.today with
        | some d => pure d
        | none => clock
      pipe files stdin arguments today f

/-- Runs a command. -/
def run (files : FileAccess m) (stdin : m (Option String)) (clock : m Date) (command : Command) :
    m Outcome :=
  match command with
  | .check config => check files config
  | .match arguments => runMatch files stdin clock arguments

end Program

end TagQuery
