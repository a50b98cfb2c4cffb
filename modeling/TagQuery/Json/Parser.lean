import TagQuery.Json.Basic

/-!
# Reading JSON

The grammar of JSON over characters. Blanks are the space, the tab and the two line breaks. A string
holds no control characters, and its escapes are checked for their form alone; a number has no
leading zeros and digits on both sides of its point.

Values nest, so the recursion is bounded by a count, which starts above what a text of its length
can use up.
-/

namespace TagQuery.Json

/-- A blank of JSON. -/
def isBlank (c : Char) : Bool := c == ' ' || c == '\t' || c == '\n' || c == '\r'

/-- A text without the blanks at its start. -/
def skipBlanks (cs : List Char) : List Char := cs.dropWhile isBlank

/-- The body of a string, given what follows its opening quote, and what follows its closing
quote. -/
def scanString? : List Char → Option (List Char × List Char)
  | [] => none
  | '"' :: cs => some ([], cs)
  | '\\' :: 'u' :: a :: b :: c :: d :: cs =>
    if (hexOfFour a b c d).isSome then
      (scanString? cs).map fun (body, rest) ↦ ('\\' :: 'u' :: a :: b :: c :: d :: body, rest)
    else none
  | '\\' :: c :: cs =>
    if (ofShortEscape? c).isSome then
      (scanString? cs).map fun (body, rest) ↦ ('\\' :: c :: body, rest)
    else none
  | ['\\'] => none
  | c :: cs =>
    if c.toNat < 0x20 then none
    else (scanString? cs).map fun (body, rest) ↦ (c :: body, rest)

/-- One digit or more at the front of a text, and the rest. -/
def scanDigits? (cs : List Char) : Option (List Char × List Char) :=
  if (cs.takeWhile Text.isDigit).isEmpty then none
  else some (cs.takeWhile Text.isDigit, cs.dropWhile Text.isDigit)

/-- The sign of a number. -/
def scanSign : List Char → List Char × List Char
  | '-' :: cs => (['-'], cs)
  | cs => ([], cs)

/-- The digits of a number before its point: a zero alone, or digits without a leading zero. -/
def scanWhole? : List Char → Option (List Char × List Char)
  | '0' :: cs => some (['0'], cs)
  | cs => scanDigits? cs

/-- The fraction of a number, if it has one. -/
def scanFraction? : List Char → Option (List Char × List Char)
  | '.' :: cs => (scanDigits? cs).map fun (digits, rest) ↦ ('.' :: digits, rest)
  | cs => some ([], cs)

/-- The exponent of a number, if it has one. -/
def scanExponent? : List Char → Option (List Char × List Char)
  | c :: cs =>
    if c = 'e' ∨ c = 'E' then
      match cs with
      | '+' :: cs => (scanDigits? cs).map fun (digits, rest) ↦ (c :: '+' :: digits, rest)
      | '-' :: cs => (scanDigits? cs).map fun (digits, rest) ↦ (c :: '-' :: digits, rest)
      | cs => (scanDigits? cs).map fun (digits, rest) ↦ (c :: digits, rest)
    else some ([], c :: cs)
  | [] => some ([], [])

/-- The number literal at the front of a text, and the rest. -/
def scanNumber? (cs : List Char) : Option (List Char × List Char) := do
  let (sign, cs) := scanSign cs
  let (whole, cs) ← scanWhole? cs
  let (fraction, cs) ← scanFraction? cs
  let (exponent, cs) ← scanExponent? cs
  return (sign ++ whole ++ fraction ++ exponent, cs)

mutual

/-- The value at the front of a text, blanks before it aside, and the rest. -/
def scanValue? : Nat → List Char → Option (Json × List Char)
  | 0, _ => none
  | depth + 1, cs =>
    match skipBlanks cs with
    | 'n' :: 'u' :: 'l' :: 'l' :: rest => some (null, rest)
    | 't' :: 'r' :: 'u' :: 'e' :: rest => some (bool true, rest)
    | 'f' :: 'a' :: 'l' :: 's' :: 'e' :: rest => some (bool false, rest)
    | '"' :: rest => (scanString? rest).map fun (body, rest) ↦ (string body, rest)
    | '[' :: rest =>
      match skipBlanks rest with
      | ']' :: rest => some (array [], rest)
      | rest => (scanItems? depth rest).map fun (items, rest) ↦ (array items, rest)
    | '\x7b' :: rest =>
      match skipBlanks rest with
      | '\x7d' :: rest => some (object [], rest)
      | rest => (scanMembers? depth rest).map fun (members, rest) ↦ (object members, rest)
    | rest => (scanNumber? rest).map fun (literal, rest) ↦ (number literal, rest)

/-- The items of an array up to its closing bracket. -/
def scanItems? : Nat → List Char → Option (List Json × List Char)
  | 0, _ => none
  | depth + 1, cs => do
    let (item, cs) ← scanValue? depth cs
    match skipBlanks cs with
    | ',' :: rest =>
      let (items, rest) ← scanItems? depth rest
      return (item :: items, rest)
    | ']' :: rest => return ([item], rest)
    | _ => none

/-- The members of an object up to its closing brace. -/
def scanMembers? : Nat → List Char → Option (List (List Char × Json) × List Char)
  | 0, _ => none
  | depth + 1, cs =>
    match skipBlanks cs with
    | '"' :: cs => do
      let (name, cs) ← scanString? cs
      match skipBlanks cs with
      | ':' :: cs =>
        let (value, cs) ← scanValue? depth cs
        match skipBlanks cs with
        | ',' :: rest =>
          let (members, rest) ← scanMembers? depth rest
          return ((name, value) :: members, rest)
        | '\x7d' :: rest => return ([(name, value)], rest)
        | _ => none
      | _ => none
    | _ => none

end

/-- The value that a text writes, given its characters. -/
def ofChars? (cs : List Char) : Option Json := do
  let (value, rest) ← scanValue? (2 * cs.length + 2) cs
  if (skipBlanks rest).isEmpty then return value else none

/-- The value that a text writes. -/
def ofText? (text : String) : Option Json := ofChars? text.toList

end TagQuery.Json
