import TagQuery.Element.Record
import TagQuery.Filter.Basic
import TagQuery.Run.Progress
import TagQuery.Text.Lines

/-!
# Matching a file of records

A run reads records line by line, hands their elements on in batches, and writes those that the
filter accepts, in their order. Blank lines do not count. A line that is no record is skipped; its
number is kept, counting all lines from one.

The reader collects elements until a batch is full, hands the batch on, and starts the next one; at
the end of the text it hands on what it has. The writer takes the batches in the order in which they
were handed on. It first tests all elements of a batch, and then goes through elements and answers
side by side. Room for a whole batch is reserved before the first line is read, which fails if
memory of that size cannot be addressed.
-/

namespace TagQuery

/-- What a run counted. -/
structure Summary where
  read : Nat
  skipped : Nat
  matched : Nat
  deriving DecidableEq, Repr

/-- A summary in words. -/
def Summary.describe (s : Summary) : String :=
  s!"{s.matched} of {s.read} elements matched, {s.skipped} skipped"

namespace Pipeline

/-! ## Reading -/

/-- The size of the largest batch whose memory can be addressed: an element takes eighty bytes, and
the bytes of a batch are counted by a signed word of 64 bits. Whether so much memory is there to be
had is another matter. It is taken to be: a program that runs out of memory is stopped wherever it
happens to be, and that is left out here. -/
def maxBatchSize : Nat := Int64.maxValue.toInt.toNat / 80

/-- What a reader has counted, collected and handed on. -/
structure Reader where
  /-- The number of elements that fill a batch. -/
  size : Nat
  read : Nat
  skipped : Nat
  /-- The numbers of the skipped lines. -/
  skippedLines : Array Nat
  batch : Array Element
  /-- The batches that were handed on. -/
  sent : Array (List Element)

namespace Reader

/-- A reader before the first line, with room for a batch of the given size; a size of zero counts
as one. Room that can be addressed is taken to be there. -/
def start? (batchSize : Nat) : Option Reader :=
  let size := max batchSize 1
  if size ≤ maxBatchSize then some ⟨size, 0, 0, #[], #[], #[]⟩ else none

/-- Hands the batch on. -/
def send (r : Reader) : Reader := { r with batch := #[], sent := r.sent.push r.batch.toList }

/-- Takes an element into the batch, and hands the batch on if that fills it. -/
def push (r : Reader) (e : Element) : Reader :=
  let r := { r with batch := r.batch.push e }
  if r.size ≤ r.batch.size then r.send else r

/-- Skips a line that is no record. -/
def skip (r : Reader) (index : Nat) : Reader :=
  { r with skipped := r.skipped + 1, skippedLines := r.skippedLines.push (index + 1) }

/-- Whether a line is blank. -/
def isBlank (line : List Char) : Bool := (Text.trim line).isEmpty

/-- Reads a line, with its index from zero. -/
def next (r : Reader) (line : List Char) (index : Nat) : Reader :=
  if isBlank line then r
  else
    let r := { r with read := r.read + 1 }
    match Record.ofLine? line with
    | some e => r.push e
    | none => r.skip index

/-- Reads lines, the first of which has the given index. -/
def readLines (r : Reader) (index : Nat) : List (List Char) → Reader
  | [] => r
  | line :: lines => (r.next line index).readLines (index + 1) lines

/-- Hands on what is left at the end of the text. -/
def finish (r : Reader) : Reader := if r.batch.isEmpty then r else r.send

end Reader

/-! ## Writing -/

/-- The interval at which a run shows its progress. -/
def progressInterval : UInt64 := 100000

/-- What a writer has written and counted. -/
structure Writer where
  written : Array Element
  matched : Nat
  progress : Progress

namespace Writer

/-- A writer before the first batch. -/
def start : Writer := ⟨#[], 0, .new progressInterval⟩

/-- Writes an element if it was hit. -/
def add (w : Writer) (e : Element) (hit : Bool) : Writer :=
  if hit then { w with written := w.written.push e, matched := w.matched + 1 } else w

/-- Takes a batch. -/
def take (accepts : Element → Bool) (w : Writer) (batch : List Element) : Writer :=
  let hits := batch.map accepts
  let w := { w with progress := w.progress.advance (.ofNat batch.length) }
  (batch.zip hits).foldl (fun w (e, hit) ↦ w.add e hit) w

end Writer

/-! ## Running -/

/-- What a run over a text of records leads to. -/
structure Result where
  written : List Element
  summary : Summary
  skippedLines : List Nat
  progress : Progress

/-- The run over a text of records, with a reader that has not read anything. -/
def run (accepts : Element → Bool) (reader : Reader) (text : String) : Result :=
  let r := (reader.readLines 0 (Text.lines text.toList)).finish
  let w := r.sent.foldl (Writer.take accepts) .start
  { written := w.written.toList
    summary := ⟨r.read, r.skipped, w.matched⟩
    skippedLines := r.skippedLines.toList
    progress := w.progress }

end Pipeline

end TagQuery
