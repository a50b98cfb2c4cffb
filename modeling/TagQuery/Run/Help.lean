import TagQuery.Run.CommandLine

/-!
# Help

What the program prints about itself: its version, and the usage of its commands.
-/

namespace TagQuery.CommandLine

/-- The name and the version of the program. -/
def versionLines : List String := ["elfilter 0.1.0"]

/-- The usage of the program or of one of its commands, by lines. -/
def Topic.lines : Topic → List String
  | program => [
    "Usage: elfilter [OPTIONS] <COMMAND>",
    "",
    "Commands:",
    "  check  Compile every filter in a configuration file",
    "  match  Write the elements of a JSON-lines file that match a filter",
    "  help   Print this message or the help of the given subcommand(s)",
    "",
    "Options:",
    "  -t, --threads <THREADS>  Number of threads (default: all cores)",
    "  -v, --verbose            Enable verbose output",
    "  -h, --help               Print help",
    "  -V, --version            Print version"]
  | check => [
    "Compile every filter in a configuration file",
    "",
    "Usage: elfilter check [OPTIONS] --config <CONFIG>",
    "",
    "Options:",
    "  -c, --config <CONFIG>    Engine configuration file (YAML)",
    "  -t, --threads <THREADS>  Number of threads (default: all cores)",
    "  -v, --verbose            Enable verbose output",
    "  -h, --help               Print help"]
  | «match» => [
    "Write the elements of a JSON-lines file that match a filter",
    "",
    "Usage: elfilter match [OPTIONS] --input <INPUT> <--filter <FILTER>|--expr <EXPR>>",
    "",
    "Options:",
    "  -f, --filter <FILTER>          Name of a filter from the configuration file",
    "  -t, --threads <THREADS>        Number of threads (default: all cores)",
    "  -e, --expr <EXPR>              Filter expression given inline",
    "  -v, --verbose                  Enable verbose output",
    "  -c, --config <CONFIG>          Engine configuration file (YAML)",
    "  -i, --input <INPUT>            Input JSON-lines file, or - for stdin",
    "  -o, --output <OUTPUT>          Output JSON-lines file, or - for stdout [default: -]",
    "      --lifecycle <LIFECYCLE>    Also match elements as if they weren't in this " ++
      "lifecycle state",
    "                                 (e.g. disused)",
    "      --today <TODAY>            Date that relative dates in the filter count from " ++
      "(default: today,",
    "                                 UTC)",
    "      --batch-size <BATCH_SIZE>  Elements per batch handed to the worker pool [default: 4096]",
    "  -h, --help                     Print help"]
  | help => [
    "Print this message or the help of the given subcommand(s)",
    "",
    "Usage: elfilter help [COMMAND]...",
    "",
    "Arguments:",
    "  [COMMAND]...  Print help for the subcommand(s)"]

end TagQuery.CommandLine
