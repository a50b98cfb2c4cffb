import TagQuery.Text.Digits

/-!
# Texts in TOML

A text stands in double quotes, where a backslash starts an escape, or in single quotes, where it
stands for itself. In three quotes of either kind it may go on over several lines: a line break
right behind the opening quotes does not count, one or two quotes more than three may end it, and
between double quotes a backslash at the end of a line joins what follows, without the blanks before
it.

Tabs are the only control characters that may stand for themselves.
-/

namespace TagQuery.Setting.Toml

/-- A control character that may not stand for itself. -/
def isForbidden (c : Char) : Bool := c.toNat < 0x20 && c != '\t' || c.toNat == 0x7F

/-- A blank within a line. -/
def isBlank (c : Char) : Bool := c == ' ' || c == '\t'

/-- What follows the line break at the front of a text. -/
def afterLineBreak? : List Char → Option (List Char)
  | '\n' :: cs | '\r' :: '\n' :: cs => some cs
  | _ => none

/-! ## Escapes -/

/-- The character that a backslash and another one stand for. -/
def shortEscape? : Char → Option Char
  | 'b' => some '\x08'
  | 'e' => some '\x1b'
  | 'f' => some '\x0c'
  | 'n' => some '\n'
  | 'r' => some '\r'
  | 't' => some '\t'
  | '"' => some '"'
  | '\\' => some '\\'
  | _ => none

/-- How many hexadecimal digits follow a backslash and a letter. -/
def digitCount? : Char → Option Nat
  | 'x' => some 2
  | 'u' => some 4
  | 'U' => some 8
  | _ => none

/-- The character that an escape writes, given what follows the backslash, and the rest. -/
def escape? : List Char → Option (Char × List Char)
  | [] => none
  | c :: cs =>
    match digitCount? c with
    | none => (shortEscape? c).map (·, cs)
    | some n => do
      let value ← if (cs.take n).length = n then Text.ofHex? (cs.take n) else none
      if value.isValidChar then return (.ofNat value, cs.drop n) else none

/-! ## On one line -/

/-- The text up to a double quote, and what follows that. -/
def basicText? : Nat → List Char → Option (List Char × List Char)
  | 0, _ => none
  | _, [] => none
  | _, '"' :: cs => some ([], cs)
  | fuel + 1, '\\' :: cs => do
    let (c, cs) ← escape? cs
    (basicText? fuel cs).map fun (more, rest) ↦ (c :: more, rest)
  | fuel + 1, c :: cs =>
    if isForbidden c then none
    else (basicText? fuel cs).map fun (more, rest) ↦ (c :: more, rest)

/-- The text up to a single quote, and what follows that. -/
def literalText? : List Char → Option (List Char × List Char)
  | [] => none
  | '\'' :: cs => some ([], cs)
  | c :: cs =>
    if isForbidden c then none
    else (literalText? cs).map fun (more, rest) ↦ (c :: more, rest)

/-! ## On several lines -/

/-- A text without the line break at its start. -/
def dropLineBreak (cs : List Char) : List Char := (afterLineBreak? cs).getD cs

/-- A text without the blanks and line breaks at its start. -/
def dropGap (cs : List Char) : List Char :=
  cs.dropWhile fun c ↦ isBlank c || c == '\n' || c == '\r'

/-- What follows the end of a line, given what follows the backslash there. -/
def afterJoint? (cs : List Char) : Option (List Char) :=
  (afterLineBreak? (cs.dropWhile isBlank)).map dropGap

/-- The quotes that belong to a text with as many quotes at its end, and how many of them are left
over. -/
def closing (quote : Char) (cs : List Char) : List Char × List Char :=
  let n := min 5 (cs.takeWhile (· == quote)).length
  (List.replicate (n - 3) quote, cs.drop n)

/-- The text up to three quotes, and what follows them. -/
def longText? (quote : Char) : Nat → List Char → Option (List Char × List Char)
  | 0, _ => none
  | _, [] => none
  | fuel + 1, c :: cs =>
    if c = quote then
      if [quote, quote].isPrefixOf cs then some (closing quote (c :: cs))
      else (longText? quote fuel cs).map fun (more, rest) ↦ (c :: more, rest)
    else if c = '\\' && quote = '"' then
      match afterJoint? cs with
      | some cs => longText? quote fuel cs
      | none => do
        let (c, cs) ← escape? cs
        (longText? quote fuel cs).map fun (more, rest) ↦ (c :: more, rest)
    else if isForbidden c && (afterLineBreak? (c :: cs)).isNone then none
    else (longText? quote fuel cs).map fun (more, rest) ↦ (c :: more, rest)

/-- The text at the front of a text, and the rest, if there is a quote. -/
def quoted? : List Char → Option (List Char × List Char)
  | '"' :: '"' :: '"' :: cs => longText? '"' (cs.length + 1) (dropLineBreak cs)
  | '\'' :: '\'' :: '\'' :: cs => longText? '\'' (cs.length + 1) (dropLineBreak cs)
  | '"' :: cs => basicText? (cs.length + 1) cs
  | '\'' :: cs => literalText? cs
  | _ => none

end TagQuery.Setting.Toml
