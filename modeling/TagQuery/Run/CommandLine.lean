import TagQuery.Run.Today
import TagQuery.Text.Digits

/-!
# The command line

The program has two commands, `check` and `match`, with options before and after the command's name.
An option has a long name, mostly a short one too, and a value unless it is a switch. The value is
the next argument, which must not start with a hyphen unless it is just one, or follows an equals
sign; after a short name it may follow directly. Short switches may share a hyphen. No option is
given twice, except that one which both levels know may be given on either side of the command's
name.

Arguments are read from left to right, and the first fault or request for help decides. What a
command requires is looked at in the end.
-/

namespace TagQuery

/-- Where the query of a run comes from. -/
inductive QuerySource where
  /-- A named query of the settings in a file. -/
  | named (name config : String)
  /-- A query given inline, with the settings in a file for its units, if there is one. -/
  | inline (expr : String) (config : Option String)
  deriving DecidableEq, Repr

/-- The arguments of a matching run. -/
structure MatchArguments where
  query : QuerySource
  input : String
  output : String
  lifecycle : Option String
  today : Option Date
  batchSize : Nat

/-- What the program is asked to do. -/
inductive Command where
  | check (config : String)
  | «match» (arguments : MatchArguments)

/-- A command with the options that go with every command. -/
structure Invocation where
  command : Command
  threads : Option Nat
  verbose : Bool

namespace CommandLine

/-! ## Options -/

/-- An option. -/
inductive Name where
  | threads
  | verbose
  | help
  | version
  | config
  | filter
  | expr
  | input
  | output
  | lifecycle
  | today
  | batchSize
  deriving DecidableEq, Repr

namespace Name

/-- The long name of an option. -/
def long : Name → String
  | threads => "threads"
  | verbose => "verbose"
  | help => "help"
  | version => "version"
  | config => "config"
  | filter => "filter"
  | expr => "expr"
  | input => "input"
  | output => "output"
  | lifecycle => "lifecycle"
  | today => "today"
  | batchSize => "batch-size"

/-- The short name of an option, if it has one. -/
def short? : Name → Option Char
  | threads => some 't'
  | verbose => some 'v'
  | help => some 'h'
  | version => some 'V'
  | config => some 'c'
  | filter => some 'f'
  | expr => some 'e'
  | input => some 'i'
  | output => some 'o'
  | _ => none

/-- Whether an option has no value. -/
def isSwitch : Name → Bool
  | verbose | help | version => true
  | _ => false

end Name

/-- Where arguments are read: before the name of a command, or after it. -/
inductive Level where
  | root
  | check
  | «match»
  deriving DecidableEq, Repr

/-- The options of a level. -/
def Level.options : Level → List Name
  | root => [.threads, .verbose, .help, .version]
  | check => [.config, .threads, .verbose, .help]
  | «match» => [.filter, .threads, .expr, .verbose, .config, .input, .output, .lifecycle, .today,
      .batchSize, .help]

/-- The option of a level with a long name. -/
def Level.long? (l : Level) (name : String) : Option Name := l.options.find? (·.long == name)

/-- The option of a level with a short name. -/
def Level.short? (l : Level) (name : Char) : Option Name :=
  l.options.find? (·.short? == some name)

/-! ## Values -/

/-- A whole number of 64 bits without a sign, which may have a plus in front all the same. -/
def size? (value : String) : Option Nat :=
  let digits := match value.toList with
    | '+' :: cs => cs
    | cs => cs
  (Text.ofDigits? digits).bind fun n ↦ if n < UInt64.size then some n else none

/-- Whether an option takes a value. Files have names, counts are whole numbers, and the date is a
full one. -/
def takes (name : Name) (value : String) : Bool :=
  match name with
  | .config | .input | .output => !value.isEmpty
  | .threads | .batchSize => (size? value).isSome
  | .today => (Today.ofText value).isOk
  | _ => true

/-- The options given on one level, with their values; a switch has the empty one. -/
abbrev Given := List (Name × String)

/-- The value of an option. -/
def Given.value? (g : Given) (name : Name) : Option String :=
  (g.find? (·.1 == name)).map (·.2)

/-- Options with one more, unless it has been given already or does not take the value. -/
def Given.add? (g : Given) (name : Name) (value : String) : Option Given :=
  if (g.value? name).isSome || !takes name value then none else some ((name, value) :: g)

/-! ## Reading arguments -/

/-- What help is asked for. -/
inductive Topic where
  | program
  | check
  | «match»
  | help
  deriving DecidableEq, Repr

/-- The topic of the help that is asked for on a level. -/
def Level.topic : Level → Topic
  | root => .program
  | check => .check
  | «match» => .match

/-- What reading the arguments leads to. -/
inductive Request where
  | run (invocation : Invocation)
  | help (topic : Topic)
  | version
  | fault

/-- What reading one argument leads to: the options so far, of which the last may still need its
value, or an answer that no further argument changes. -/
inductive Step where
  | given (options : Given)
  | needsValue (options : Given) (name : Name)
  | answer (request : Request)

/-- An option with its value. -/
def giveValue (g : Given) (name : Name) (value : String) : Step :=
  match g.add? name value with
  | some g => .given g
  | none => .answer .fault

/-- A long option, without the hyphens before it. -/
def readLong (l : Level) (g : Given) (cs : List Char) : Step :=
  match l.long? (.ofList (cs.takeWhile (· != '='))), cs.dropWhile (· != '=') with
  | none, _ => .answer .fault
  | some .help, [] => .answer (.help l.topic)
  | some .version, [] => .answer .version
  | some name, [] => if name.isSwitch then giveValue g name "" else .needsValue g name
  | some name, _ :: value =>
    if name.isSwitch then .answer .fault else giveValue g name (.ofList value)

/-- Short options behind one hyphen. -/
def readShort (l : Level) (g : Given) : List Char → Step
  | [] => .given g
  | c :: cs =>
    match l.short? c with
    | none => .answer .fault
    | some .help => .answer (.help l.topic)
    | some .version => .answer .version
    | some .verbose =>
      match g.add? .verbose "" with
      | some g => readShort l g cs
      | none => .answer .fault
    | some name =>
      match cs with
      | [] => .needsValue g name
      | '=' :: value => giveValue g name (.ofList value)
      | value => giveValue g name (.ofList value)

/-- An argument that starts with a hyphen. -/
def readOption (l : Level) (g : Given) : List Char → Step
  | '-' :: '-' :: cs => readLong l g cs
  | '-' :: c :: cs => readShort l g (c :: cs)
  | _ => .answer .fault

/-- Whether an argument starts with a hyphen and is more than that. -/
def isOption (arg : String) : Bool :=
  match arg.toList with
  | '-' :: _ :: _ => true
  | _ => false

/-- The help that the arguments after the word `help` ask for. -/
def readHelp : List String → Request
  | [] => .help .program
  | ["check"] => .help .check
  | ["match"] => .help .match
  | ["help"] => .help .help
  | _ => .fault

/-- The query of a matching run: exactly one of a name and an inline expression. A name needs
settings. -/
def querySource? (g : Given) : Option QuerySource :=
  match g.value? .filter, g.value? .expr with
  | some name, none => (g.value? .config).map (.named name)
  | none, some expr => some (.inline expr (g.value? .config))
  | _, _ => none

/-- The number of elements in a batch, unless one is given. -/
def defaultBatchSize : Nat := 4096

/-- The command of a level with its options, if none is missing. -/
def command? (l : Level) (g : Given) : Option Command :=
  match l with
  | .root => none
  | .check => (g.value? .config).map .check
  | .match => do
    return .match {
      query := ← querySource? g
      input := ← g.value? .input
      output := (g.value? .output).getD "-"
      lifecycle := g.value? .lifecycle
      today := (g.value? .today).bind fun value ↦ (Today.ofText value).toOption
      batchSize := ((g.value? .batchSize).bind size?).getD defaultBatchSize }

/-- What the options before and after the name of a command lead to. -/
def finish (l : Level) (outer g : Given) : Request :=
  match command? l g with
  | none => .fault
  | some command => .run {
      command
      threads := ((g.value? .threads).or (outer.value? .threads)).bind size?
      verbose := (g.value? .verbose).isSome || (outer.value? .verbose).isSome }

/-- What the arguments from some point on lead to, given the options so far: those before the name
of a command, those after it, and one that needs its value. -/
def readFrom (l : Level) (outer g : Given) (pending : Option Name) : List String → Request
  | [] => if pending.isSome then .fault else finish l outer g
  | arg :: args =>
    match pending with
    | some name =>
      if isOption arg then .fault
      else match g.add? name arg with
        | some g => readFrom l outer g none args
        | none => .fault
    | none =>
      if arg = "--" then if args.isEmpty then finish l outer g else .fault
      else if isOption arg then
        match readOption l g arg.toList with
        | .given g => readFrom l outer g none args
        | .needsValue g name => readFrom l outer g (some name) args
        | .answer request => request
      else match l, arg with
        | .root, "check" => readFrom .check g [] none args
        | .root, "match" => readFrom .match g [] none args
        | .root, "help" => readHelp args
        | _, _ => .fault

/-- What the arguments of the program ask for. -/
def read (args : List String) : Request := readFrom .root [] [] none args

end CommandLine

end TagQuery
