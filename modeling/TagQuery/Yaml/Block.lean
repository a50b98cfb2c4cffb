import TagQuery.Yaml.Cursor

/-!
# Block scalars

A block scalar is a header, such as `|` or `>2-`, and the lines below it that are indented by as
many spaces as its first line, or as its header says. In a literal block every line break stands for
itself; in a folded one a break between two lines that start without a blank counts as a space. The
header also says what becomes of the line breaks at the end.
-/

namespace TagQuery.Yaml

/-- What becomes of the line breaks at the end of a block scalar: none is kept, one, or all. -/
inductive Chomping where
  | strip
  | clip
  | keep
  deriving DecidableEq, Repr

namespace Block

/-! ## Headers -/

/-- What the header of a block scalar says. -/
structure Header where
  chomping : Chomping
  /-- The indentation of the lines beyond that of the block around them, if it is given. -/
  increment : Option Nat

/-- The sign at the front of a text, and its length. -/
def sign : List Char → Chomping × Nat
  | '+' :: _ => (.keep, 1)
  | '-' :: _ => (.strip, 1)
  | _ => (.clip, 0)

/-- The digit at the front of a text, which may not be a zero, and its length. -/
def digit? : List Char → Option (Option Nat × Nat)
  | c :: _ =>
    if c = '0' then none
    else if Text.isDigit c then some (some (Text.digitValue c), 1)
    else some (none, 0)
  | [] => some (none, 0)

/-- A header after its first character, and its length. The digit may come before or after the
sign. -/
def header? (cs : List Char) : Option (Header × Nat) := do
  let (chomping, n) := sign cs
  let (increment, m) ← digit? (cs.drop n)
  if n = 0 && m = 1 then
    let (chomping, n) := sign (cs.drop 1)
    return (⟨chomping, increment⟩, n + 1)
  else return (⟨chomping, increment⟩, n + m)

/-! ## Lines -/

/-- A cursor in the first line from it on that is not empty, behind at most `indent` spaces, and the
number of lines before that. -/
def skipEmptyLines (indent : Nat) : Nat → Cursor → Nat × Cursor
  | 0, c => (0, c)
  | fuel + 1, c =>
    let c := c.skipSpacesTo indent
    if c.peek? = some '\n' then
      let (breaks, c) := skipEmptyLines indent fuel c.nextLine
      (breaks + 1, c)
    else (0, c)

/-- A cursor in the first line from it on that holds more than spaces, behind its spaces, the number
of lines before that, and the largest number of spaces on any of them. -/
def findIndent : Nat → Cursor → Nat × Nat × Cursor
  | 0, c => (0, 0, c)
  | fuel + 1, c =>
    let c := c.skipSpacesTo (c.column + c.rest.length)
    if c.peek? = some '\n' then
      let (breaks, indent, next) := findIndent fuel c.nextLine
      (breaks + 1, max c.column indent, next)
    else (0, c.column, c)

/-- What has been read of a block scalar. -/
structure Progress where
  /-- The text so far, in reverse and without the line breaks at its end. -/
  text : List Char
  /-- Whether there is a line whose break has not been added yet. -/
  pending : Bool
  /-- The number of empty lines after it. -/
  empty : Nat
  /-- Whether that line starts with a blank. -/
  indented : Bool

/-- The line breaks that come before a line, in reverse. -/
def Progress.joint (p : Progress) (folded blank : Bool) : List Char :=
  if folded && p.pending && !p.indented && !blank then
    if p.empty = 0 then [' '] else List.replicate p.empty '\n'
  else List.replicate (p.empty + p.pending.toNat) '\n'

/-- The lines of a block scalar of the given indentation from a cursor on, and the cursor behind
them. -/
def lines (folded : Bool) (indent : Nat) : Nat → Progress → Cursor → Progress × Cursor
  | 0, p, c => (p, c)
  | fuel + 1, p, c =>
    if c.column != indent || c.isDone || indent == 0 && atMarker '.' c.rest then (p, c)
    else
      let blank := c.peek?.any isBlank
      let line := c.rest.takeWhile (· != '\n')
      let c := c.skip line.length
      let text := line.reverse ++ (p.joint folded blank ++ p.text)
      if c.isDone then (⟨text, false, 0, blank⟩, c)
      else
        let (empty, c) := skipEmptyLines indent (c.rest.length + 1) c.nextLine
        lines folded indent fuel ⟨text, true, empty, blank⟩ c

/-- The text of a block scalar that has been read up to a cursor. At the end of the text a last line
that is not ended counts as ended. -/
def close (chomping : Chomping) (indent : Nat) (p : Progress) (c : Cursor) : List Char :=
  let last := p.pending.toNat + (c.isDone && max indent 1 ≤ c.column).toNat
  match chomping with
  | .strip => p.text.reverse
  | .clip => p.text.reverse ++ List.replicate last '\n'
  | .keep => p.text.reverse ++ List.replicate (last + p.empty) '\n'

/-- The text of a block scalar without lines at the end of the text, given whether its header is
ended and how many empty lines follow. -/
def closeEmpty (chomping : Chomping) (ended : Bool) (empty : Nat) : List Char :=
  if !ended then []
  else match chomping with
    | .strip => []
    | .clip => ['\n']
    | .keep => List.replicate (max empty 1) '\n'

end Block

/-- The block scalar at a cursor within a block of the given indentation, and the cursor behind
it. -/
def Cursor.block? (folded : Bool) (indent : Int) (c : Cursor) : Option (List Char × Cursor) := do
  let start := c.skip 1
  let (header, n) ← Block.header? start.rest
  let headerEnd ← (start.skip n).skipTrailer?
  if !headerEnd.isAtLineEnd then none
  else
    let first := headerEnd.nextLine
    if first.peek? = some '\t' then none
    else
      let fuel := first.rest.length + 1
      let (empty, width, c) := match header.increment with
        | some n =>
          let width := (max indent 0).toNat + n
          let (empty, c) := Block.skipEmptyLines width fuel first
          (empty, width, c)
        | none =>
          let (empty, width, c) := Block.findIndent fuel first
          (empty, max width (indent + 1).toNat, c)
      if c.isDone then
        return (Block.closeEmpty header.chomping (c.line != start.line) empty, c)
      else if c.column < width && indent < c.column then none
      else
        let (p, c) := Block.lines folded width fuel ⟨[], false, empty, false⟩ c
        return (Block.close header.chomping width p c, c)

end TagQuery.Yaml
