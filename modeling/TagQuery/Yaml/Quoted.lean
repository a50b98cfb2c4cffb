import TagQuery.Yaml.Plain

/-!
# Quoted scalars

In single quotes a quote is written twice; in double quotes a backslash starts an escape. Line
breaks are folded as in plain scalars, and one after a backslash counts for nothing. The lines of a
quoted scalar are indented, and no marker of a document stands within it.
-/

namespace TagQuery.Yaml

/-- The two kinds of quotes. -/
inductive Quote where
  | single
  | double
  deriving DecidableEq, Repr

namespace Quote

/-- The character on both sides. -/
def mark : Quote → Char
  | single => '\''
  | double => '"'

/-! ## Escapes -/

/-- The character that a backslash and another one stand for. -/
def shortEscape? : Char → Option Char
  | '0' => some '\x00'
  | 'a' => some '\x07'
  | 'b' => some '\x08'
  | 't' | '\t' => some '\t'
  | 'n' => some '\n'
  | 'v' => some '\x0b'
  | 'f' => some '\x0c'
  | 'r' => some '\r'
  | 'e' => some '\x1b'
  | ' ' => some ' '
  | '"' => some '"'
  | '/' => some '/'
  | '\\' => some '\\'
  | 'N' => some '\u0085'
  | '_' => some '\u00a0'
  | 'L' => some '\u2028'
  | 'P' => some '\u2029'
  | _ => none

/-- How many hexadecimal digits follow a backslash and a letter. -/
def digitCount? : Char → Option Nat
  | 'x' => some 2
  | 'u' => some 4
  | 'U' => some 8
  | _ => none

/-- The character that an escape writes, given what follows the backslash, and the number of
characters behind the backslash. -/
def escape? : List Char → Option (Char × Nat)
  | [] => none
  | c :: cs =>
    match digitCount? c with
    | some n => do
      let value ← if (cs.take n).length = n then Text.ofHex? (cs.take n) else none
      if value.isValidChar then return (.ofNat value, n + 1) else none
    | none => (shortEscape? c).map (·, 1)

/-! ## Scanning -/

/-- The characters from a cursor up to a blank, a line break or the closing quote, and the cursor
there. The flag tells whether a line break was escaped. -/
def word? (q : Quote) : Nat → Cursor → Option (List Char × Bool × Cursor)
  | 0, _ => none
  | fuel + 1, c =>
    match c.rest with
    | [] => some ([], false, c)
    | d :: cs =>
      if isGap d then some ([], false, c)
      else if d = q.mark then
        if q = single && cs.head? = some q.mark then
          (word? q fuel (c.skip 2)).map fun (word, rest) ↦ (d :: word, rest)
        else some ([], false, c)
      else if d = '\\' && q = double then
        if cs.head? = some '\n' then some ([], true, (c.skip 1).nextLine)
        else do
          let (e, n) ← escape? cs
          let (word, rest) ← word? q fuel (c.skip (n + 1))
          return (e :: word, rest)
      else (word? q fuel (c.skip 1)).map fun (word, rest) ↦ (d :: word, rest)

/-- What lies between two words of a quoted scalar, given what lies before the cursor. After an
escaped line break blanks count for nothing and every further line break for itself. -/
structure Joint where
  escaped : Bool
  fold : Fold

/-- The text of a joint. -/
def Joint.text (j : Joint) : List Char :=
  if j.escaped then List.replicate j.fold.breaks '\n' else j.fold.text

/-- The blanks and line breaks from a cursor on, given those before it. A line within a block is not
indented by tabs. -/
def gap? (indent : Int) : Nat → Joint → Cursor → Option (Joint × Cursor)
  | 0, _, _ => none
  | fuel + 1, j, c =>
    match c.peek? with
    | some '\n' => gap? indent fuel { j with fold := j.fold.newline } c.nextLine
    | some d =>
      if !isBlank d then some (j, c)
      else if d = '\t' && (j.escaped || j.fold.breaks != 0) && c.column < indent then none
      else gap? indent fuel { j with fold := j.fold.blank d } c.skipBlank
    | none => some (j, c)

/-- The scalar from a cursor within its quotes on, and the cursor at the closing quote. -/
def scan? (q : Quote) (indent : Int) : Nat → Cursor → Option (List Char × Cursor)
  | 0, _ => none
  | fuel + 1, c =>
    if c.column == 0 && atDocumentMarker c.rest then none
    else if c.isDone || c.column < indent then none
    else do
      let (word, escaped, c) ← word? q (c.rest.length + 1) c
      if c.peek? = some q.mark then return (word, c)
      let (joint, c) ← gap? indent (c.rest.length + 1) ⟨escaped, Fold.none⟩ c
      let (rest, c) ← scan? q indent fuel c
      return (word ++ joint.text ++ rest, c)

end Quote

/-- Whether a quoted scalar may end before a text, given whether it is on a single line. -/
def mayFollowQuoted (inFlow oneLine : Bool) (cs : List Char) : Bool :=
  atLineEnd cs || match cs with
    | ':' :: _ => inFlow || oneLine
    | c :: _ => inFlow && [',', ']', '\x7d'].contains c
    | [] => true

/-- The quoted scalar at a cursor within a block of the given indentation, and the cursor behind it
and the comment that may follow it. -/
def Cursor.quoted? (q : Quote) (inFlow : Bool) (indent : Int) (c : Cursor) :
    Option (List Char × Cursor) := do
  let (cs, behind) ← q.scan? indent (c.rest.length + 1) (c.skip 1)
  let behind ← (behind.skip 1).skipTrailer?
  if mayFollowQuoted inFlow (c.line == behind.line) behind.rest then return (cs, behind)
  else none

end TagQuery.Yaml
