import TagQuery.Yaml.Character

/-!
# Places in a text

A cursor is a place in a text together with all that the layout of YAML asks about a place: its line
and column, how many characters lie before it, and whether its line has had nothing but blanks so
far.
-/

namespace TagQuery.Yaml

/-- A place in a text, with what follows it. -/
structure Cursor where
  rest : List Char
  line : Nat
  column : Nat
  offset : Nat
  /-- Whether only blanks precede the place on its line. -/
  fresh : Bool

namespace Cursor

/-- The start of a text. -/
def start (cs : List Char) : Cursor := ⟨cs, 0, 0, 0, true⟩

/-- The character at a cursor. -/
def peek? (c : Cursor) : Option Char := c.rest.head?

/-- Whether a cursor is at the end of the text. -/
def isDone (c : Cursor) : Bool := c.rest.isEmpty

/-- Whether a cursor is at the end of its line. -/
def isAtLineEnd (c : Cursor) : Bool := atLineEnd c.rest

/-! ## Moving on -/

/-- A cursor behind a blank. -/
def skipBlank (c : Cursor) : Cursor :=
  { c with rest := c.rest.drop 1, column := c.column + 1, offset := c.offset + 1 }

/-- A cursor behind `n` characters of a line. -/
def skip (c : Cursor) (n : Nat) : Cursor :=
  { c with
    rest := c.rest.drop n, column := c.column + n, offset := c.offset + n, fresh := false }

/-- A cursor at the start of the next line, given one at the end of its line. -/
def nextLine (c : Cursor) : Cursor :=
  if c.isDone then c else ⟨c.rest.drop 1, c.line + 1, 0, c.offset + 1, true⟩

/-- The characters from a cursor on that satisfy `p`, and the cursor behind them. -/
def takeWhile (p : Char → Bool) (c : Cursor) : List Char × Cursor :=
  let taken := c.rest.takeWhile p
  (taken, if taken.isEmpty then c else c.skip taken.length)

/-- A cursor at the end of its line. -/
def skipLine (c : Cursor) : Cursor := (c.takeWhile (· != '\n')).2

/-- A cursor behind the blanks from it on. -/
def skipBlanks (c : Cursor) : Cursor :=
  let n := (c.rest.takeWhile isBlank).length
  { c with rest := c.rest.drop n, column := c.column + n, offset := c.offset + n }

/-- A cursor behind the spaces from it on that lie before a column. -/
def skipSpacesTo (c : Cursor) (column : Nat) : Cursor :=
  let n := min (c.rest.takeWhile (· == ' ')).length (column - c.column)
  { c with rest := c.rest.drop n, column := c.column + n, offset := c.offset + n }

/-! ## The rest of a line -/

/-- A stretch of blanks: whether there is a tab in it, and whether there is a space. -/
structure Blanks where
  tab : Bool
  space : Bool

/-- The blanks from a cursor on. -/
def blanks (c : Cursor) : Blanks :=
  let cs := c.rest.takeWhile isBlank
  ⟨cs.contains '\t', cs.contains ' '⟩

/-- A cursor behind the blanks and the comment that may follow a token on its line. A comment has to
be set off by a blank. -/
def skipTrailer? (c : Cursor) : Option Cursor :=
  let blanks := c.blanks
  let c := c.skipBlanks
  if c.peek? = some '#' then
    if blanks.tab || blanks.space then some c.skipLine else none
  else some c

end Cursor

end TagQuery.Yaml
