import TagQuery.Json.Basic
import TagQuery.Number.Scientific
import TagQuery.Number.Whole
import TagQuery.Settings.Setting
import TagQuery.Text.Blank
import TagQuery.Unicode.BinaryProperty
import TagQuery.Unicode.GeneralCategory

/-!
# Settings in JSON5

JSON5 is JSON as people write it: with comments, commas behind the last item, names without quotes,
texts in quotes of either kind, and numbers in hexadecimal or with digits on one side of the point
alone.

A number without point and exponent is a whole number and has to fit into a signed word of 64 bits;
in hexadecimal it has no sign and fits into 32 bits. Infinity and what is no number have names,
which no plus sign may precede.

Values nest, so the recursion is bounded by a count, which starts above what a text of its length
can use up.
-/

namespace TagQuery.Setting.Json5

/-! ## Blanks and comments -/

/-- A character that ends a line. -/
def isLineEnd (c : Char) : Bool := c == '\n' || c == '\r' || c == '\u2028' || c == '\u2029'

/-- A character that counts for nothing between two tokens. -/
def isBlank (c : Char) : Bool := Text.isBlank c && c != '\u0085' || c == '\ufeff'

/-- What follows the end of a comment, given what follows its start. -/
def afterComment? : List Char → Option (List Char)
  | '*' :: '/' :: cs => some cs
  | _ :: cs => afterComment? cs
  | [] => none

/-- A text without the blanks and comments at its start, of which there are less than the count. -/
def skipUpTo : Nat → List Char → List Char
  | fuel + 1, '/' :: '/' :: cs => skipUpTo fuel (cs.dropWhile (!isLineEnd ·))
  | fuel + 1, '/' :: '*' :: cs =>
    match afterComment? cs with
    | some cs => skipUpTo fuel cs
    | none => '/' :: '*' :: cs
  | fuel + 1, c :: cs => if isBlank c then skipUpTo fuel cs else c :: cs
  | _, cs => cs

/-- A text without the blanks and comments at its start. -/
def skip (cs : List Char) : List Char := skipUpTo (cs.length + 1) cs

/-! ## Numbers -/

/-- The whole number in hexadecimal at the front of a text, given what follows `0x`, and the
rest. -/
def hexadecimal? (cs : List Char) : Option (Setting × List Char) := do
  let digits := cs.takeWhile fun c ↦ (Text.hexDigit? c).isSome
  let n ← Text.ofHex? digits
  if n < UInt32.size then return (int n, cs.drop digits.length) else none

/-- The exponent at the front of a text, and the rest. -/
def exponent? : List Char → Option (Int × List Char)
  | 'e' :: cs | 'E' :: cs => do
    let (negative, cs) := Decimal.takeSign cs
    let digits := cs.takeWhile Text.isDigit
    let n ← Text.ofDigits? digits
    return (if negative then -(n : Int) else n, cs.drop digits.length)
  | _ => none

/-- The fraction at the front of a text, which may be a point alone, and the rest. -/
def fraction? : List Char → Option (List Char × List Char)
  | '.' :: cs => some (cs.takeWhile Text.isDigit, cs.dropWhile Text.isDigit)
  | _ => none

/-- The number in decimal at the front of a text, given its sign, and the rest. -/
def decimal? (negative : Bool) (cs : List Char) : Option (Setting × List Char) := do
  let whole := cs.takeWhile Text.isDigit
  let cs := cs.drop whole.length
  if whole.head? = some '0' && 1 < whole.length then none
  let fraction := fraction? cs
  let (places, cs) := fraction.getD ([], cs)
  if whole.isEmpty && places.isEmpty then none
  let exponent := exponent? cs
  let (shift, cs) := exponent.getD (0, cs)
  let n := Text.ofDigits (whole ++ places)
  if fraction.isNone && exponent.isNone then
    return (int (← Whole.ofInt? (if negative then -(n : Int) else n)), cs)
  else
    let x := Binary64.ofDecimal negative n (shift - places.length)
    if x.isInf then none else return (float x, cs)

/-- The number that is not finite whose name is at the front of a text, and the rest. -/
def named? (negative : Bool) (cs : List Char) : Option (Setting × List Char) :=
  if "Infinity".toList.isPrefixOf cs then
    some (float (Binary64.withSign negative Binary64.infinityBits), cs.drop "Infinity".length)
  else if "NaN".toList.isPrefixOf cs then
    some (float (Binary64.withSign negative Scientific.nanBits), cs.drop "NaN".length)
  else none

/-- The number at the front of a text, and the rest. -/
def number? : List Char → Option (Setting × List Char)
  | '0' :: 'x' :: cs | '0' :: 'X' :: cs => hexadecimal? cs
  | '+' :: cs => decimal? false cs
  | '-' :: cs => (named? true cs).or (decimal? true cs)
  | cs => (named? false cs).or (decimal? false cs)

/-! ## Texts -/

/-- The character that four hexadecimal digits write, given what follows `\u`, and the rest. A
character beyond the first plane takes two escapes. -/
def unicodeEscape? : List Char → Option (Char × List Char)
  | a :: b :: c :: d :: cs => do
    let high ← Json.hexOfFour a b c d
    if high < 0xD800 ∨ 0xDFFF < high then return (.ofNat high, cs)
    else if 0xDBFF < high then none
    else match cs with
      | '\\' :: 'u' :: a :: b :: c :: d :: cs =>
        let low ← Json.hexOfFour a b c d
        if 0xDC00 ≤ low ∧ low ≤ 0xDFFF then return (Json.ofSurrogates high low, cs) else none
      | _ => none
  | _ => none

/-- The character that a backslash and another one stand for. -/
def shortEscape : Char → Char
  | 'b' => '\x08'
  | 'f' => '\x0c'
  | 'n' => '\n'
  | 'r' => '\r'
  | 't' => '\t'
  | 'v' => '\x0b'
  | '0' => '\x00'
  | c => c

/-- What an escape writes, given what follows the backslash, and the rest. A line break writes
nothing, and no digit but zero can be escaped. -/
def escape? : List Char → Option (List Char × List Char)
  | '\r' :: '\n' :: cs => some ([], cs)
  | 'x' :: a :: b :: cs => (Text.ofHex? [a, b]).map fun n ↦ ([.ofNat n], cs)
  | 'u' :: cs => (unicodeEscape? cs).map fun (c, cs) ↦ ([c], cs)
  | 'x' :: _ => none
  | c :: cs =>
    if isLineEnd c then some ([], cs)
    else if Text.isDigit c && c != '0' then none
    else some ([shortEscape c], cs)
  | [] => none

/-- The text up to a closing quote, and what follows that. -/
def text? (quote : Char) : Nat → List Char → Option (List Char × List Char)
  | 0, _ => none
  | _, [] => none
  | fuel + 1, '\\' :: cs => do
    let (written, cs) ← escape? cs
    (text? quote fuel cs).map fun (more, rest) ↦ (written ++ more, rest)
  | fuel + 1, c :: cs =>
    if c = quote then some ([], cs)
    else if isLineEnd c then none
    else (text? quote fuel cs).map fun (more, rest) ↦ (c :: more, rest)

/-! ## Names -/

/-- The letters that names start with, beside the dollar and the low line. -/
def letters : Unicode.CodePoints :=
  .unions <| ["l", "nl"].filterMap Unicode.GeneralCategory.find?

/-- What names may go on with, beside what they may start with. -/
def marks : Unicode.CodePoints :=
  .unions <| (["mn", "nd", "pc"].filterMap Unicode.GeneralCategory.find?) ++
    (Unicode.BinaryProperty.find? "diacritic").toList ++ [⟨[(0x200C, 0x200D)]⟩]

/-- A character that a name may start with. -/
def isNameStart (c : Char) : Bool := c == '$' || c == '_' || letters.contains c.toNat

/-- A character that a name may go on with. -/
def isNamePart (c : Char) : Bool := isNameStart c || marks.contains c.toNat

/-- The rest of a name at the front of a text, and what follows the name. -/
def nameTail? : Nat → List Char → Option (List Char × List Char)
  | 0, _ => none
  | fuel + 1, '\\' :: 'u' :: cs => do
    let (c, cs) ← unicodeEscape? cs
    (nameTail? fuel cs).map fun (name, rest) ↦ (c :: name, rest)
  | fuel + 1, c :: cs =>
    if isNamePart c then (nameTail? fuel cs).map fun (name, rest) ↦ (c :: name, rest)
    else some ([], c :: cs)
  | _ + 1, [] => some ([], [])

/-- The name of a member at the front of a text, with quotes or without, and the rest. -/
def name? : List Char → Option (List Char × List Char)
  | '"' :: cs => text? '"' (cs.length + 1) cs
  | '\'' :: cs => text? '\'' (cs.length + 1) cs
  | '\\' :: cs => nameTail? (cs.length + 2) ('\\' :: cs)
  | c :: cs => if isNameStart c then nameTail? (cs.length + 2) (c :: cs) else none
  | [] => none

/-! ## Values -/

mutual

/-- The value at the front of a text, blanks before it aside, and the rest. -/
def value? : Nat → List Char → Option (Setting × List Char)
  | 0, _ => none
  | depth + 1, cs =>
    match skip cs with
    | 'n' :: 'u' :: 'l' :: 'l' :: rest => some (null, rest)
    | 't' :: 'r' :: 'u' :: 'e' :: rest => some (bool true, rest)
    | 'f' :: 'a' :: 'l' :: 's' :: 'e' :: rest => some (bool false, rest)
    | '"' :: rest =>
      (text? '"' (rest.length + 1) rest).map fun (cs, rest) ↦ (text (.ofList cs), rest)
    | '\'' :: rest =>
      (text? '\'' (rest.length + 1) rest).map fun (cs, rest) ↦ (text (.ofList cs), rest)
    | '[' :: rest => (items? depth rest).map fun (items, rest) ↦ (list items, rest)
    | '\x7b' :: rest => (members? depth rest).map fun (entries, rest) ↦ (tableOf entries, rest)
    | rest => number? rest

/-- The items of a list up to its closing bracket. -/
def items? : Nat → List Char → Option (List Setting × List Char)
  | 0, _ => none
  | depth + 1, cs =>
    match skip cs with
    | ']' :: rest => some ([], rest)
    | cs => do
      let (item, cs) ← value? depth cs
      match skip cs with
      | ',' :: rest =>
        let (items, rest) ← items? depth rest
        return (item :: items, rest)
      | ']' :: rest => return ([item], rest)
      | _ => none

/-- The members of an object up to its closing brace. -/
def members? : Nat → List Char → Option (List (String × Setting) × List Char)
  | 0, _ => none
  | depth + 1, cs =>
    match skip cs with
    | '\x7d' :: rest => some ([], rest)
    | cs => do
      let (name, cs) ← name? cs
      match skip cs with
      | ':' :: cs =>
        let (value, cs) ← value? depth cs
        match skip cs with
        | ',' :: rest =>
          let (members, rest) ← members? depth rest
          return ((.ofList name, value) :: members, rest)
        | '\x7d' :: rest => return ([(.ofList name, value)], rest)
        | _ => none
      | _ => none

end

end Json5

/-- The value that a text in JSON5 writes. -/
def ofJson5Text? (source : String) : Option Setting := do
  let cs := source.toList
  let (value, rest) ← Json5.value? (2 * cs.length + 2) cs
  if (Json5.skip rest).isEmpty then return value else none

end TagQuery.Setting
