import TagQuery.Text.Digits

/-!
# JSON values

A JSON value as it stands in a text. Numbers and strings keep their spelling: a number is the
literal that writes it, and a string is what stands between its quotes, escapes and all. What a
spelling means is asked for where it matters, since a reader may refuse a value that another one
skips: a fraction is no identifier, and half a surrogate pair is no text.

An object is the list of its members in the order of the text. A name may occur twice; which member
counts, if any, is the reader's decision.
-/

namespace TagQuery

/-- A JSON value with the spelling of its numbers and strings. -/
inductive Json where
  | null
  | bool (value : Bool)
  | number (literal : List Char)
  | string (body : List Char)
  | array (items : List Json)
  | object (members : List (List Char × Json))
  deriving BEq, Repr, Inhabited

namespace Json

mutual

/-- How many arrays and objects lie within each other. -/
def depth : Json → Nat
  | array items => depthOfItems items + 1
  | object members => depthOfMembers members + 1
  | _ => 0

/-- The largest depth of any item. -/
def depthOfItems : List Json → Nat
  | [] => 0
  | item :: items => max (depth item) (depthOfItems items)

/-- The largest depth of the value of any member. -/
def depthOfMembers : List (List Char × Json) → Nat
  | [] => 0
  | (_, value) :: members => max (depth value) (depthOfMembers members)

end

/-! ## Texts -/

/-- The number that four hexadecimal digits write. -/
def hexOfFour (a b c d : Char) : Option Nat := Text.ofHex? [a, b, c, d]

/-- The character that a surrogate pair stands for. -/
def ofSurrogates (high low : Nat) : Char :=
  .ofNat (0x10000 + (high - 0xD800) * 0x400 + (low - 0xDC00))

/-- The character that a backslash and a letter stand for. -/
def ofShortEscape? : Char → Option Char
  | '"' => some '"'
  | '\\' => some '\\'
  | '/' => some '/'
  | 'b' => some '\x08'
  | 'f' => some '\x0c'
  | 'n' => some '\n'
  | 'r' => some '\r'
  | 't' => some '\t'
  | _ => none

/-- The text of the body of a string. Surrogates have to come in pairs. -/
def decode? : List Char → Option (List Char)
  | [] => some []
  | '\\' :: 'u' :: a :: b :: c :: d :: cs =>
    match hexOfFour a b c d with
    | none => none
    | some high =>
      if high < 0xD800 ∨ 0xDFFF < high then (decode? cs).map (Char.ofNat high :: ·)
      else if 0xDBFF < high then none
      else match cs with
        | '\\' :: 'u' :: a :: b :: c :: d :: cs =>
          match hexOfFour a b c d with
          | some low =>
            if 0xDC00 ≤ low ∧ low ≤ 0xDFFF then (decode? cs).map (ofSurrogates high low :: ·)
            else none
          | none => none
        | _ => none
  | '\\' :: c :: cs =>
    match ofShortEscape? c with
    | some c => (decode? cs).map (c :: ·)
    | none => none
  | ['\\'] => none
  | c :: cs => (decode? cs).map (c :: ·)

/-- One character of the body of a written string. -/
def escape (c : Char) : List Char :=
  if c = '"' then ['\\', '"']
  else if c = '\\' then ['\\', '\\']
  else if c = '\x08' then ['\\', 'b']
  else if c = '\x0c' then ['\\', 'f']
  else if c = '\n' then ['\\', 'n']
  else if c = '\r' then ['\\', 'r']
  else if c = '\t' then ['\\', 't']
  else if c.toNat < 0x20 then
    ['\\', 'u', '0', '0', Nat.digitChar (c.toNat / 16), Nat.digitChar (c.toNat % 16)]
  else [c]

/-- A text as the body of a string. -/
def encode (cs : List Char) : List Char := cs.flatMap escape

/-- A text as a string of JSON, with its quotes. -/
def quote (s : String) : List Char := '"' :: encode s.toList ++ ['"']

/-! ## Reading values -/

/-- The text of a string. -/
def text? : Json → Option String
  | string body => (decode? body).map .ofList
  | _ => none

/-- The whole number that a literal without fraction and exponent writes. There is no negative
zero. -/
def wholeOfLiteral? : List Char → Option Int
  | '-' :: digits => (Text.ofDigits? digits).bind fun n ↦ if n = 0 then none else some (-(n : Int))
  | digits => (Text.ofDigits? digits).map .ofNat

/-- The whole number that a number is. -/
def whole? : Json → Option Int
  | number literal => wholeOfLiteral? literal
  | _ => none

/-- The names of an object's members as texts, with the members; nothing if a name is no text. -/
def namedMembers? (members : List (List Char × Json)) : Option (List (String × Json)) :=
  members.mapM fun (name, value) ↦ (decode? name).map fun cs ↦ (.ofList cs, value)

end Json

end TagQuery
