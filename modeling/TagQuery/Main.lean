import Std.Time
import TagQuery.Run.Help
import TagQuery.Run.Program

/-!
# The program

Connects a run to the file system, the standard streams and the clock. Standard output carries
records and reports alone; what was skipped, how far a run came and why it failed go to standard
error.
-/

namespace TagQuery.Main

/-- The result of an action, unless it fails. -/
def attempt {α : Type} (action : IO α) : IO (Option α) := do
  try return some (← action) catch _ => return none

/-- Whether an action succeeds. -/
def succeeds {α : Type} (action : IO α) : IO Bool := do return (← attempt action).isSome

/-- Access to the file system. -/
def fileSystem : FileAccess IO where
  isFile name := succeeds (IO.FS.readBinFile name)
  canOpen name := succeeds (IO.FS.Handle.mk name .read)
  read? name := attempt (IO.FS.readFile name)
  create name := succeeds (IO.FS.writeFile name "")
  append name text := do (← IO.FS.Handle.mk name .append).putStr text

/-- Everything on standard input, unless it is no text. -/
def readStdin : IO (Option String) := attempt do (← IO.getStdin).readToEnd

/-- The day it is, in universal time. -/
def currentDay : IO Date := do
  let seconds := (← Std.Time.Timestamp.now).toSecondsSinceUnixEpoch.val
  let epoch : Int := ((Date.of? 1970 1 1).getD .first).dayNumber
  return (Date.ofDayNumber? (epoch + seconds / 86400)).getD .last

/-- Shows the outcome of a run. -/
def report (verbose : Bool) (o : Outcome) : IO Unit := do
  o.output.forM (IO.println ·)
  o.skippedLines.forM fun number ↦ IO.eprintln s!"WARN Input: skipping line {number}"
  match o.failure, o.summary with
  | some failure, _ => IO.eprintln s!"Error: {failure.message}"
  | none, some summary => if verbose then IO.eprintln s!"INFO Done! {summary.describe}"
  | none, none => return

/-- Runs the program with its arguments, and gives what it tells its caller. -/
def start (args : List String) : IO UInt32 := do
  match CommandLine.read args with
  | .fault =>
    IO.eprintln "error: invalid arguments; for more information, try '--help'."
    return 2
  | .version =>
    CommandLine.versionLines.forM (IO.println ·)
    return 0
  | .help topic =>
    topic.lines.forM (IO.println ·)
    return 0
  | .run invocation =>
    let outcome ← Program.run fileSystem readStdin currentDay invocation.command
    report invocation.verbose outcome
    return .ofNat outcome.exitCode

end TagQuery.Main

/-- The program. -/
def main (args : List String) : IO UInt32 := TagQuery.Main.start args
