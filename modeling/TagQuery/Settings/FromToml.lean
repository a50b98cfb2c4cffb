import TagQuery.Settings.Toml.Scalar
import TagQuery.Settings.Toml.Tables
import TagQuery.Settings.Toml.Text

/-!
# Settings in TOML

A file of TOML is a list of entries and headings, each on lines of its own. Lists and tables in
braces may go on over several lines, with comments, and a comma may follow their last item. A moment
counts as its text.

Values nest, so the recursion is bounded by a count, which starts above what a text of its length
can use up.
-/

namespace TagQuery.Setting.Toml

/-! ## Blanks and comments -/

/-- A text without the blanks at its start. -/
def skipBlanks (cs : List Char) : List Char := cs.dropWhile isBlank

/-- What follows a comment up to the end of its line, given what follows the `#`. A line break is
the only control character that may stand there. -/
def afterComment? : List Char → Option (List Char)
  | [] => some []
  | c :: cs =>
    if (afterLineBreak? (c :: cs)).isSome then some (c :: cs)
    else if isForbidden c then none
    else afterComment? cs

/-- A text without the blanks, line breaks and comments at its start, of which there are less than
the count. -/
def skipGap? : Nat → List Char → Option (List Char)
  | 0, _ => none
  | fuel + 1, cs =>
    match skipBlanks cs with
    | '#' :: cs => (afterComment? cs).bind (skipGap? fuel)
    | cs =>
      match afterLineBreak? cs with
      | some cs => skipGap? fuel cs
      | none => some cs

/-- A text without the blanks, line breaks and comments at its start. -/
def gap? (cs : List Char) : Option (List Char) := skipGap? (cs.length + 1) cs

/-- What follows the end of a line, blanks and a comment before it aside. -/
def afterLine? (cs : List Char) : Option (List Char) := do
  let cs ← match skipBlanks cs with
    | '#' :: cs => afterComment? cs
    | cs => some cs
  if cs.isEmpty then return [] else afterLineBreak? cs

/-! ## Keys -/

/-- A character of keys without quotes. -/
def isKeyPart (c : Char) : Bool := c.isAlphanum || c == '_' || c == '-'

/-- The single key at the front of a text, and the rest. -/
def simpleKey? (cs : List Char) : Option (String × List Char) :=
  match cs with
  | '"' :: '"' :: '"' :: _ | '\'' :: '\'' :: '\'' :: _ => none
  | '"' :: _ | '\'' :: _ => (quoted? cs).map fun (key, rest) ↦ (.ofList key, rest)
  | _ =>
    let key := cs.takeWhile isKeyPart
    if key.isEmpty then none else some (.ofList key, cs.drop key.length)

/-- The keys at the front of a text with points between them, and the rest, without the blanks
around each. -/
def key? : Nat → List Char → Option (List String × List Char)
  | 0, _ => none
  | fuel + 1, cs => do
    let (key, cs) ← simpleKey? (skipBlanks cs)
    match skipBlanks cs with
    | '.' :: cs => (key? fuel cs).map fun (keys, rest) ↦ (key :: keys, rest)
    | rest => return ([key], rest)

/-- The path at the front of a text, and the rest. -/
def path? (cs : List Char) : Option (List String × List Char) := key? (cs.length + 1) cs

/-! ## Values -/

/-- How many lists and tables in braces may lie within each other. -/
def maxNesting : Nat := 80

mutual

/-- The value at the front of a text, blanks before it aside, and the rest, given how many lists and
tables may nest in it. -/
def value? : Nat → Nat → List Char → Option (Setting × List Char)
  | 0, _, _ => none
  | depth + 1, room, cs =>
    match skipBlanks cs with
    | '[' :: rest =>
      if room = 0 then none
      else (values? depth (room - 1) rest).map fun (items, rest) ↦ (list items, rest)
    | '\x7b' :: rest =>
      if room = 0 then none
      else (braced? depth (room - 1) [] rest).map fun (items, rest) ↦
        (table (settingsOf items), rest)
    | cs =>
      match cs.head? with
      | some '"' | some '\'' =>
        (quoted? cs).map fun (written, rest) ↦ (text (.ofList written), rest)
      | _ =>
        let (word, rest) := takeWord cs
        (ofWord? word).map (·, rest)

/-- The items of a list up to its closing bracket. -/
def values? : Nat → Nat → List Char → Option (List Setting × List Char)
  | 0, _, _ => none
  | depth + 1, room, cs => do
    match ← gap? cs with
    | ']' :: rest => return ([], rest)
    | cs =>
      let (item, cs) ← value? depth room cs
      match ← gap? cs with
      | ',' :: rest => (values? depth room rest).map fun (items, rest) ↦ (item :: items, rest)
      | ']' :: rest => return ([item], rest)
      | _ => none

/-- The entries of a table up to its closing brace, given those before them. -/
def braced? : Nat → Nat → Items → List Char → Option (Items × List Char)
  | 0, _, _, _ => none
  | depth + 1, room, items, cs => do
    match ← gap? cs with
    | '\x7d' :: rest => return (items, rest)
    | cs =>
      let (items, cs) ← entry? depth room items cs
      match ← gap? cs with
      | ',' :: rest => braced? depth room items rest
      | '\x7d' :: rest => return (items, rest)
      | _ => none

/-- A table with the entry at the front of a text, and the rest. -/
def entry? : Nat → Nat → Items → List Char → Option (Items × List Char)
  | 0, _, _, _ => none
  | depth + 1, room, items, cs => do
    let (path, cs) ← path? cs
    match cs with
    | '=' :: cs =>
      let (value, rest) ← value? depth room cs
      return (← items.insert? value path, rest)
    | _ => none

end

/-! ## Files -/

/-- A file as it is read: its tables, and the path of the last heading. -/
structure Reading where
  items : Items
  heading : List String

/-- The reading after a heading, given its path. -/
def Reading.addHeading? (r : Reading) (step : String → Items → Option Items)
    (path : List String) : Option Reading := do
  let key ← path.getLast?
  return ⟨← r.items.under? (step key) path.dropLast, path⟩

/-- The reading after the heading or entry at the front of a text, and the rest. -/
def statement? (r : Reading) : List Char → Option (Reading × List Char)
  | '[' :: '[' :: cs => do
    let (path, cs) ← path? cs
    match cs with
    | ']' :: ']' :: rest => return (← r.addHeading? Items.addTable? path, rest)
    | _ => none
  | '[' :: cs => do
    let (path, cs) ← path? cs
    match cs with
    | ']' :: rest => return (← r.addHeading? Items.openTable? path, rest)
    | _ => none
  | cs => do
    let (path, cs) ← path? cs
    match cs with
    | '=' :: cs =>
      let (value, rest) ← value? (3 * cs.length + 3) maxNesting cs
      return (⟨← r.items.under? (Items.insert? value path) r.heading, r.heading⟩, rest)
    | _ => none

/-- The tables of a file, given what has been read before. -/
def read? : Nat → Reading → List Char → Option Items
  | 0, _, _ => none
  | fuel + 1, r, cs => do
    match ← gap? cs with
    | [] => return r.items
    | cs =>
      let (r, cs) ← statement? r cs
      read? fuel r (← afterLine? cs)

end Toml

/-- The table that a text in TOML writes. -/
def ofTomlText? (source : String) : Option Setting :=
  (Toml.read? (source.length + 1) ⟨[], []⟩ source.toList).map fun items ↦
    table (Toml.settingsOf items)

end TagQuery.Setting
