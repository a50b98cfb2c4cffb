import TagQuery.Settings.Setting
import TagQuery.Text.Blank
import TagQuery.Text.Digits

/-!
# Settings in INI

A file of INI is a list of entries, a name and a value on both sides of `=` or `:`, under headings
in brackets. Each heading starts a table of its own, which takes the place of an earlier one of that
name; entries before the first heading stand at the top. Every value is a text.

Names, headings and values know escapes, and the parts of a value may be quoted. A name goes on
until its `=` or `:`, over the ends of lines if need be. Comments start in the first column of a
line. A mark of comments after other blanks is an error, but on a line that is indented it starts a
name, as everything does there but a bracket; and where such a name comes to nothing, what it has
read over is given up without an error.
-/

namespace TagQuery.Setting.Ini

/-! ## Texts -/

/-- A text that has been read and what follows, or what follows the place where that failed. -/
abbrev Scan := Except (List Char) (List Char × List Char)

/-- The character that a backslash and another one stand for, if any. -/
def shortEscape : Char → List Char
  | '0' => ['\x00']
  | 'a' => ['\x07']
  | 'b' => ['\x08']
  | 't' => ['\t']
  | 'r' => ['\r']
  | 'n' => ['\n']
  | '\n' => []
  | c => [c]

/-- The characters of a code, and what follows from its last character on. A backslash fails unless
it ends its line. -/
def code : Nat → List Char → Scan
  | 0, cs => .ok ([], cs)
  | _ + 1, [] => .error []
  | n + 1, '\\' :: '\n' :: cs =>
    if n = 0 then .ok (['\\'], '\n' :: cs)
    else (code n cs).map fun (more, rest) ↦ ('\\' :: more, rest)
  | _ + 1, '\\' :: cs => .error cs
  | n + 1, c :: cs =>
    if n = 0 then .ok ([c], c :: cs) else (code n cs).map fun (more, rest) ↦ (c :: more, rest)

/-- The character with a code in hexadecimal, which a plus sign may precede. -/
def ofCode? (digits : List Char) : Option Char := do
  let n ← Text.ofHex? <| match digits with
    | '+' :: digits => digits
    | _ => digits
  if n.isValidChar then return .ofNat n else none

/-- What an escape writes, given what follows the backslash, which stands for itself at the end of
everything. -/
def escape : List Char → Scan
  | [] => .ok (['\\'], [])
  | 'x' :: cs => do
    let (digits, rest) ← code 4 cs
    match ofCode? digits with
    | some c => return ([c], rest.drop 1)
    | none => .error rest
  | c :: cs => .ok (shortEscape c, cs)

/-- The text up to a character that `p` wants, with its escapes read. -/
def textUntil (p : Option Char → Bool) : Nat → List Char → Scan
  | 0, cs => .error cs
  | fuel + 1, cs =>
    if p cs.head? then .ok ([], cs)
    else match cs with
      | [] => .error []
      | '\\' :: cs => do
        let (written, cs) ← escape cs
        (textUntil p fuel cs).map fun (more, rest) ↦ (written ++ more, rest)
      | c :: cs => (textUntil p fuel cs).map fun (more, rest) ↦ (c :: more, rest)

/-- The text up to one of some characters. -/
def textBefore (ends : List Char) (cs : List Char) : Scan :=
  textUntil (fun c ↦ c.any ends.contains) (cs.length + 1) cs

/-- The text up to the end of a line or of everything. -/
def textOfLine (cs : List Char) : Scan :=
  textUntil (fun c ↦ c.all ['\n', '\r'].contains) (cs.length + 1) cs

/-! ## Values -/

/-- A text without the blanks at its start that are on the same line. -/
def skipOnLine (cs : List Char) : List Char :=
  cs.dropWhile fun c ↦ Text.isBlank c && c != '\n' && c != '\r'

/-- The parts of a value up to the end of the line: any number of quoted ones, and a last one
without the blanks at its end, nor those at its start if it is the first. -/
def parts : Nat → Bool → List Char → Scan
  | 0, _, cs => .error cs
  | _ + 1, _, [] => .ok ([], [])
  | fuel + 1, first, c :: cs =>
    if c = '"' || c = '\'' then do
      let (quoted, rest) ← textBefore [c] cs
      (parts fuel false (rest.drop 1)).map fun (more, rest) ↦ (quoted ++ more, rest)
    else do
      let (line, rest) ← textOfLine (c :: cs)
      return (if first then Text.trim line else Text.trimEnd line, rest)

/-- The value at the front of a text. What follows starts at the end of its line. -/
def value (cs : List Char) : Scan :=
  let cs := skipOnLine cs
  parts (cs.length + 1) true cs

/-! ## Places -/

/-- A place in a file: what follows, and whether it is the first column of a line. -/
structure Place where
  fresh : Bool
  rest : List Char

/-- A blank that indents a line. -/
def isIndent (c : Char) : Bool := c == ' ' || c == '\t'

/-- The place behind the blanks and line ends from a place on, but before the blanks that indent a
line. -/
def skipBlanks (fresh : Bool) : List Char → Place
  | [] => ⟨fresh, []⟩
  | c :: cs =>
    if c == '\n' || c == '\r' then
      if cs.head?.any isIndent then ⟨c == '\n', cs⟩ else skipBlanks (c == '\n') cs
    else if Text.isBlank c then skipBlanks false cs
    else ⟨fresh, c :: cs⟩

/-- The place of a text's end part behind blanks and line ends. -/
def placeOf (cs rest : List Char) : Place :=
  skipBlanks (cs[cs.length - rest.length - 1]? == some '\n') rest

/-! ## Files -/

/-- A file as it is read: the entries at the top, and the tables with their headings, all in reverse
order. -/
structure Reading where
  top : List (String × Setting)
  tables : List (String × List (String × Setting))

namespace Reading

/-- A reading with one more heading. -/
def addHeading (r : Reading) (name : List Char) : Reading :=
  { r with tables := (.ofList (Text.trim name), []) :: r.tables }

/-- A reading with one more entry under the last heading. -/
def addEntry (r : Reading) (name value : List Char) : Reading :=
  let entry := (.ofList name, text (.ofList value))
  match r.tables with
  | [] => { r with top := entry :: r.top }
  | (heading, entries) :: tables => { r with tables := (heading, entry :: entries) :: tables }

/-- The table that has been read. -/
def table (r : Reading) : Setting :=
  tableOf <| r.top.reverse ++
    (r.tables.reverse.map fun (heading, entries) ↦ (heading, tableOf entries.reverse))

/-- The reading after an entry, given its name and what follows that, and the place behind it. -/
def entry? (r : Reading) (name rest : List Char) : Option (Reading × Place) :=
  let name := Text.trim name
  if name.isEmpty then none
  else match value (rest.drop 1) with
    | .ok (value, rest) => some (r.addEntry name value, skipBlanks false rest)
    | .error _ => none

/-- The reading after a heading, given what follows its opening bracket, and the place behind it. -/
def heading? (r : Reading) (cs : List Char) : Option (Reading × Place) :=
  match textBefore [']'] cs with
  | .ok (name, rest) => some (r.addHeading name, skipBlanks false (rest.drop 1))
  | .error _ => none

/-- The reading after an indented line, given what follows its blanks, and the place behind it. -/
def indented? (r : Reading) : List Char → Option (Reading × Place)
  | '\n' :: cs => some (r, ⟨true, cs⟩)
  | '\r' :: cs => some (r, ⟨false, cs⟩)
  | '[' :: cs => r.heading? cs
  | cs =>
    match textBefore ['=', ':'] cs with
    | .ok (name, rest) => r.entry? name rest
    | .error rest => some (r, placeOf cs rest)

/-- The reading after what stands at a place, and the place behind it. -/
def next? (r : Reading) (fresh : Bool) : List Char → Option (Reading × Place)
  | ';' :: cs | '#' :: cs =>
    if fresh then some (r, skipBlanks true ((cs.dropWhile (· != '\n')).drop 1)) else none
  | '[' :: cs => r.heading? cs
  | '\n' :: cs => some (r, skipBlanks true cs)
  | '\r' :: cs => some (r, skipBlanks false cs)
  | cs =>
    if cs.head?.any isIndent then r.indented? (cs.dropWhile isIndent)
    else match textBefore ['=', ':'] cs with
      | .ok (name, rest) => r.entry? name rest
      | .error _ => none

end Reading

/-- The file from a place on, given what has been read before it. -/
def read? : Nat → Reading → Place → Option Reading
  | 0, _, _ => none
  | fuel + 1, r, p =>
    if p.rest.isEmpty then some r
    else (r.next? p.fresh p.rest).bind fun (r, p) ↦ read? fuel r p

end Ini

/-- The table that a text in INI writes. -/
def ofIniText? (source : String) : Option Setting :=
  (Ini.read? (source.length + 1) ⟨[], []⟩ ⟨true, source.toList⟩).map Ini.Reading.table

end TagQuery.Setting
