import TagQuery.Number.Scientific
import TagQuery.Number.Whole
import TagQuery.Settings.Setting
import TagQuery.Unicode.BinaryProperty

/-!
# Settings in RON

RON has maps in braces, lists in brackets, and between parentheses structures with named fields, or
tuples. A structure counts as a table and a tuple as a list; the name that may stand before either
says nothing, and a name alone is null, as `None` and `()` are. What is within `Some` counts for
itself. A key of a table is a text or a single character.

Values nest, so the recursion is bounded by a count, which starts above what a text of its length
can use up.
-/

namespace TagQuery.Setting.Ron

/-! ## Blanks and comments -/

/-- A character that counts for nothing between two tokens: one with the Unicode property
Pattern_White_Space. -/
def isBlank (c : Char) : Bool :=
  let n := c.toNat
  9 ≤ n && n ≤ 13 || n == 0x20 || n == 0x85 || n == 0x200E || n == 0x200F || n == 0x2028 ||
    n == 0x2029

/-- What follows the end of a comment, given how many comments are open; comments nest. -/
def afterComment? : Nat → List Char → Option (List Char)
  | 0, cs => some cs
  | n + 1, '*' :: '/' :: cs => afterComment? n cs
  | n + 1, '/' :: '*' :: cs => afterComment? (n + 2) cs
  | n + 1, _ :: cs => afterComment? (n + 1) cs
  | _ + 1, [] => none
termination_by _ cs => cs.length

/-- A text without the blanks and comments at its start, of which there are less than the count. -/
def skipUpTo : Nat → List Char → List Char
  | fuel + 1, '/' :: '/' :: cs => skipUpTo fuel (cs.dropWhile (· != '\n'))
  | fuel + 1, '/' :: '*' :: cs =>
    match afterComment? 1 cs with
    | some cs => skipUpTo fuel cs
    | none => '/' :: '*' :: cs
  | fuel + 1, c :: cs => if isBlank c then skipUpTo fuel cs else c :: cs
  | _, cs => cs

/-- A text without the blanks and comments at its start. -/
def skip (cs : List Char) : List Char := skipUpTo (cs.length + 1) cs

/-! ## Names -/

/-- The characters that names start with, beside the low line. -/
def nameStarts : Unicode.CodePoints := (Unicode.BinaryProperty.find? "xidstart").getD ⟨[]⟩

/-- The characters that names go on with. -/
def nameParts : Unicode.CodePoints := (Unicode.BinaryProperty.find? "xidcontinue").getD ⟨[]⟩

/-- A character that a name may start with. -/
def isNameStart (c : Char) : Bool := c == '_' || nameStarts.contains c.toNat

/-- A character that a name may go on with. -/
def isNamePart (c : Char) : Bool := nameParts.contains c.toNat

/-- A character of a name behind the mark `r#`. -/
def isRawPart (c : Char) : Bool := isNamePart c || c == '.' || c == '+' || c == '-'

/-- The name of characters with `p` at the front of a text, and the rest. -/
def nameOf (p : Char → Bool) (cs : List Char) : String × List Char :=
  (.ofList (cs.takeWhile p), cs.dropWhile p)

/-- The name at the front of a text, and the rest. What starts a quoted text is no name. -/
def name? : List Char → Option (String × List Char)
  | 'r' :: '#' :: c :: cs => if isRawPart c then some (nameOf isRawPart (c :: cs)) else none
  | 'r' :: '"' :: _ | 'b' :: '"' :: _ | 'b' :: '\'' :: _ => none
  | 'b' :: 'r' :: '"' :: _ | 'b' :: 'r' :: '#' :: _ => none
  | c :: cs =>
    if !isNameStart c || (cs.dropWhile isNamePart).head?.any isRawPart then none
    else some (nameOf isNamePart (c :: cs))
  | [] => none

/-! ## Texts -/

/-- The character that a backslash and another one stand for. -/
def shortEscape? : Char → Option Char
  | '\'' => some '\''
  | '"' => some '"'
  | '\\' => some '\\'
  | 'n' => some '\n'
  | 'r' => some '\r'
  | 't' => some '\t'
  | '0' => some '\x00'
  | _ => none

/-- The character that an escape writes, given what follows the backslash, and the rest. -/
def escape? : List Char → Option (Char × List Char)
  | 'x' :: a :: b :: cs => (Text.ofHex? [a, b]).map fun n ↦ (.ofNat n, cs)
  | 'u' :: '\x7b' :: cs => do
    let digits := cs.takeWhile (· != '\x7d')
    let n ← if digits.length ≤ 6 then Text.ofHex? digits else none
    match cs.drop digits.length with
    | _ :: rest => if n.isValidChar then return (.ofNat n, rest) else none
    | [] => none
  | c :: cs => (shortEscape? c).map (·, cs)
  | [] => none

/-- The text up to the closing quote, and what follows that. -/
def text? : Nat → List Char → Option (List Char × List Char)
  | 0, _ => none
  | _, [] => none
  | _, '"' :: cs => some ([], cs)
  | fuel + 1, '\\' :: cs => do
    let (c, cs) ← escape? cs
    (text? fuel cs).map fun (more, rest) ↦ (c :: more, rest)
  | fuel + 1, c :: cs => (text? fuel cs).map fun (more, rest) ↦ (c :: more, rest)

/-- The text without escapes up to a closing mark, and what follows that. -/
def rawTextTo? (mark : List Char) : List Char → Option (List Char × List Char)
  | [] => none
  | c :: cs =>
    if mark.isPrefixOf (c :: cs) then some ([], (c :: cs).drop mark.length)
    else (rawTextTo? mark cs).map fun (more, rest) ↦ (c :: more, rest)

/-- The text without escapes at the front of a text, given what follows the `r`, and the rest. Its
quotes have equally many hashes on the outside. -/
def rawText? (cs : List Char) : Option (List Char × List Char) :=
  let hashes := cs.takeWhile (· == '#')
  match cs.drop hashes.length with
  | '"' :: cs => rawTextTo? ('"' :: hashes) cs
  | _ => none

/-- The character at the front of a text, given what follows its opening quote, and the rest. -/
def character? (cs : List Char) : Option (Char × List Char) := do
  let (c, cs) ← match cs with
    | '\\' :: cs => escape? cs
    | c :: cs => some (c, cs)
    | [] => none
  match cs with
  | '\'' :: rest => return (c, rest)
  | _ => none

/-! ## Numbers -/

/-- A character of floating-point numbers. -/
def isFloatPart (c : Char) : Bool := Text.isDigit c || ['e', 'E', '.', '+', '-', '_'].contains c

/-- A character of whole numbers. -/
def isWholePart (c : Char) : Bool := (Text.hexDigit? c).isSome || c == '_'

/-- What follows one of some words at the front of a text, or all of it. -/
def dropWord (words : List String) (cs : List Char) : List Char :=
  match words.find? fun word ↦ word.toList.isPrefixOf cs with
  | some word => cs.drop word.length
  | none => cs

/-- The types that may be named behind a whole number. -/
def wholeTypes : List String :=
  ["i8", "i16", "i32", "i64", "i128", "u8", "u16", "u32", "u64", "u128"]

/-- The whole number at the front of a text, and the rest. It fits into a word of 64 bits, signed if
it is negative. -/
def whole? (cs : List Char) : Option (Setting × List Char) := do
  let (negative, cs) := Decimal.takeSign cs
  let (base, cs) := match cs with
    | '0' :: 'x' :: cs => (16, cs)
    | '0' :: 'o' :: cs => (8, cs)
    | '0' :: 'b' :: cs => (2, cs)
    | cs => (10, cs)
  let digits := cs.takeWhile isWholePart
  if digits.head? = some '_' then none
  let n ← Text.ofBase? base (digits.filter (· != '_'))
  let n ← if negative then Whole.ofInt? (-n) else if n < UInt64.size then some (n : Int) else none
  return (int n, dropWord wholeTypes (cs.drop digits.length))

/-- Whether low lines stand between digits alone. -/
def hasPlacedLowLines : Bool → List Char → Bool
  | _, [] => true
  | allowed, '_' :: cs => allowed && hasPlacedLowLines allowed cs
  | _, '.' :: cs => hasPlacedLowLines false cs
  | allowed, c :: cs => hasPlacedLowLines (allowed || Text.isDigit c || c == 'e' || c == 'E') cs

/-- The floating-point number at the front of a text, and the rest. -/
def float? (cs : List Char) : Option (Setting × List Char) := do
  let word := cs.takeWhile isFloatPart
  if !hasPlacedLowLines false word then none
  let x ← Scientific.finite? (word.filter (· != '_'))
  match cs.drop word.length with
  | 'f' :: '3' :: '2' :: rest => return (float x.toFloat32.toFloat, rest)
  | 'f' :: '6' :: '4' :: rest => return (float x, rest)
  | rest => return (float x, rest)

/-- The names of numbers that are not finite. -/
def namedFloat? (name : String) : Option Setting :=
  if ["inf", "inff32", "inff64"].contains name then
    some (float (Binary64.withSign false Binary64.infinityBits))
  else if ["NaN", "NaNf32", "NaNf64"].contains name then
    some (float (Binary64.withSign false Scientific.nanBits))
  else none

/-- The number at the front of a text, and the rest. What is no whole number may still be a
floating-point number, if that is as long. -/
def number? (cs : List Char) : Option (Setting × List Char) :=
  let (negative, name) := Decimal.takeSign cs
  match name? name with
  | some (name, rest) =>
    match namedFloat? name with
    | some (float x) => some (float (if negative then -x else x), rest)
    | _ => none
  | none =>
    let whole := name.takeWhile isWholePart
    let word := name.takeWhile isFloatPart
    let written := if whole.length < word.length then none else whole? cs
    written.or (if whole.length ≤ word.length then float? cs else none)

/-- The number of the byte at the front of a text, given what follows its opening quote, and the
rest. -/
def byte? (cs : List Char) : Option (Setting × List Char) := do
  let (c, rest) ← character? cs
  if c.toNat < UInt8.size then return (int c.toNat, rest) else none

/-! ## Values -/

/-- The key that a value is. -/
def keyOf? : Setting → Option String
  | text s => some s
  | _ => none

/-- Whether a text goes on as the fields of a structure do: with a name and a colon. -/
def atField (cs : List Char) : Bool :=
  match name? (skip cs) with
  | some (_, rest) => (skip rest).head? = some ':'
  | none => false

/-- The entries of a list of keys and values. -/
def pairUp? : List (Setting × Setting) → Option (List (String × Setting)) :=
  List.mapM fun (key, value) ↦ (keyOf? key).map (·, value)

/-- What follows the comma that may follow an item, blanks and comments aside; an item without one
is the last, so the closing mark has to follow it. -/
def afterItem? (close : Char) (cs : List Char) : Option (List Char) :=
  match skip cs with
  | ',' :: rest => some rest
  | c :: rest => if c = close then some (c :: rest) else none
  | [] => none

/-- How many values may lie within each other. -/
def maxNesting : Nat := 128

mutual

/-- The value at the front of a text, blanks before it aside, and the rest, given how many values
may nest in it. -/
def value? : Nat → Nat → List Char → Option (Setting × List Char)
  | 0, _, _ => none
  | depth + 1, room, cs =>
    let cs := skip cs
    match name? cs with
    | some ("true", rest) => some (bool true, rest)
    | some ("false", rest) => some (bool false, rest)
    | some ("None", rest) => some (null, rest)
    | some ("Some", rest) =>
      match skip rest with
      | '(' :: rest => do
        match ← items? depth room ')' rest with
        | ([value], rest) => return (value, rest)
        | _ => none
      | _ => none
    | some (name, rest) =>
      match namedFloat? name, skip rest with
      | some x, _ => some (x, rest)
      | none, '(' :: rest => group? depth room rest
      | none, _ => some (null, rest)
    | none =>
      match cs with
      | '(' :: ')' :: rest => some (null, rest)
      | '(' :: rest => group? depth room rest
      | '[' :: rest => (items? depth room ']' rest).map fun (items, rest) ↦ (list items, rest)
      | '\x7b' :: rest => do
        let (pairs, rest) ← entries? depth room rest
        return (tableOf (← pairUp? pairs), rest)
      | '"' :: rest =>
        (text? (rest.length + 1) rest).map fun (cs, rest) ↦ (text (.ofList cs), rest)
      | 'r' :: rest => (rawText? rest).map fun (cs, rest) ↦ (text (.ofList cs), rest)
      | '\'' :: rest => (character? rest).map fun (c, rest) ↦ (text (.ofList [c]), rest)
      | 'b' :: '\'' :: rest => byte? rest
      | cs => number? cs

/-- The structure or tuple up to its closing parenthesis. -/
def group? : Nat → Nat → List Char → Option (Setting × List Char)
  | 0, _, _ => none
  | depth + 1, room, cs =>
    if atField cs then (fields? depth room cs).map fun (entries, rest) ↦ (tableOf entries, rest)
    else (items? depth room ')' cs).map fun (items, rest) ↦ (list items, rest)

/-- The items up to a closing mark. -/
def items? : Nat → Nat → Char → List Char → Option (List Setting × List Char)
  | 0, _, _, _ | _, 0, _, _ => none
  | depth + 1, room + 1, close, cs =>
    match skip cs with
    | [] => none
    | c :: rest =>
      if c = close then some ([], rest)
      else do
        let (item, cs) ← value? depth room (c :: rest)
        let (items, rest) ← items? depth (room + 1) close (← afterItem? close cs)
        return (item :: items, rest)

/-- The entries of a map up to its closing brace. -/
def entries? : Nat → Nat → List Char → Option (List (Setting × Setting) × List Char)
  | 0, _, _ | _, 0, _ => none
  | depth + 1, room + 1, cs =>
    match skip cs with
    | '\x7d' :: rest => some ([], rest)
    | cs => do
      let (key, cs) ← value? depth room cs
      match skip cs with
      | ':' :: cs =>
        let (value, cs) ← value? depth room cs
        let (entries, rest) ← entries? depth (room + 1) (← afterItem? '\x7d' cs)
        return ((key, value) :: entries, rest)
      | _ => none

/-- The fields of a structure up to its closing parenthesis. -/
def fields? : Nat → Nat → List Char → Option (List (String × Setting) × List Char)
  | 0, _, _ | _, 0, _ => none
  | depth + 1, room + 1, cs =>
    match skip cs with
    | ')' :: rest => some ([], rest)
    | cs => do
      let (name, cs) ← name? cs
      match skip cs with
      | ':' :: cs =>
        let (value, cs) ← value? depth room cs
        let (fields, rest) ← fields? depth (room + 1) (← afterItem? ')' cs)
        return ((name, value) :: fields, rest)
      | _ => none

end

/-! ## Files -/

/-- What may be enabled at the start of a file. Nothing of it matters to settings. -/
def extensions : List String :=
  ["unwrap_newtypes", "implicit_some", "unwrap_variant_newtypes", "explicit_struct_names"]

/-- What follows a list of extensions up to its closing parenthesis. -/
def afterExtensions? : Nat → List Char → Option (List Char)
  | 0, _ => none
  | fuel + 1, cs =>
    match skip cs with
    | ')' :: rest => some rest
    | cs => do
      let (name, cs) ← name? cs
      if extensions.contains name then afterExtensions? fuel (← afterItem? ')' cs) else none

/-- What follows a token, blanks and comments before it aside. -/
def afterToken? (token : String) (cs : List Char) : Option (List Char) :=
  let cs := skip cs
  if token.toList.isPrefixOf cs then some (cs.drop token.length) else none

/-- What follows the attributes at the start of a file. -/
def afterAttributes? : Nat → List Char → Option (List Char)
  | 0, _ => none
  | fuel + 1, cs =>
    match skip cs with
    | '#' :: cs => do
      let cs ← ["!", "[", "enable", "("].foldlM (fun cs token ↦ afterToken? token cs) cs
      let cs ← afterToken? "]" (← afterExtensions? (cs.length + 1) cs)
      afterAttributes? fuel cs
    | cs => some cs

end Ron

/-- The value that a text in RON writes. -/
def ofRonText? (source : String) : Option Setting := do
  let cs ← Ron.afterAttributes? (source.length + 1) source.toList
  let (value, rest) ← Ron.value? (3 * cs.length + 3) Ron.maxNesting cs
  if (Ron.skip rest).isEmpty then return value else none

end TagQuery.Setting
