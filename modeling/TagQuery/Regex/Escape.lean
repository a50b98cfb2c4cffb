import TagQuery.Regex.Flags
import TagQuery.Text.Digits
import TagQuery.Unicode.Age
import TagQuery.Unicode.GraphemeBreak
import TagQuery.Unicode.Script
import TagQuery.Unicode.SentenceBreak
import TagQuery.Unicode.WordBreak

/-!
# Escapes in a regular expression

A backslash makes a character of a symbol, and gives letters a meaning: control characters, code
points in hexadecimal, classes, Unicode properties, and looks. Digits have none, since there are no
references back to what was matched, and neither have other letters nor characters beyond ASCII.
-/

namespace TagQuery.Regex

/-- The smallest part of an expression. -/
inductive Primitive where
  | character (c : Char)
  | chars (chars : CharClass)
  | look (look : Look)

namespace Primitive

/-! ## Code points -/

/-- The character of a code point. -/
def character? (n : Nat) : Option Char := if n.isValidChar then some (.ofNat n) else none

/-- Exactly `n` hexadecimal digits, as the digits after those that write `value`, and the rest. -/
def hexDigits? (f : Flags) : Nat → Nat → Reader Nat
  | 0, value, cs => some (value, cs)
  | _ + 1, _, [] => none
  | n + 1, value, c :: cs => do hexDigits? f n (16 * value + (← Text.hexDigit? c)) (f.skip cs)

/-- The character that digits write: any number of them in braces, or exactly `n`. Without Unicode two
digits write a byte, which is a character only within ASCII. -/
def digits? (f : Flags) (n : Nat) : Reader Char
  | '\x7b' :: cs =>
    Reader.make (f.upToBrace? false cs) fun digits ↦ (Text.ofHex? digits).bind character?
  | cs =>
    Reader.make (hexDigits? f n 0 cs) fun value ↦
      if n = 2 ∧ !f.unicode ∧ 0x7F < value then none else character? value

/-- The character of a code point, layout aside. -/
def codePoint? (f : Flags) (n : Nat) : Reader Char := fun cs ↦ digits? f n (f.skip cs)

/-! ## Properties -/

/-- The letters of a property's name that count: small ones, without separators and without an `is`
in front. -/
def canonicalName (name : List Char) : String :=
  let clean (cs : List Char) : List Char :=
    (cs.filter fun c ↦ c != ' ' && c != '_' && c != '-' && c.toNat < 128).map Char.toLower
  .ofList <| match name with
    | a :: b :: cs =>
      if a.toLower = 'i' ∧ b.toLower = 's' then
        if clean cs = ['c'] then ['i', 's', 'c'] else clean cs
      else clean name
    | _ => clean name

/-- The characters with a property that is named alone. The names of three general categories are
also those of other properties. -/
def namedProperty? (name : List Char) : Option CharClass :=
  let name := canonicalName name
  let binary :=
    if name = "cf" ∨ name = "sc" ∨ name = "lc" then none else Unicode.BinaryProperty.find? name
  (binary.or ((Unicode.GeneralCategory.find? name).or (Unicode.Script.find? name))).map .points

/-- The characters that have a value for a property. -/
def valuedProperty? (property value : List Char) : Option CharClass :=
  let value := canonicalName value
  let points := match canonicalName property with
    | "gc" | "generalcategory" => Unicode.GeneralCategory.find? value
    | "sc" | "script" => Unicode.Script.find? value
    | "scx" | "scriptextensions" => Unicode.Script.findExtended? value
    | "age" => Unicode.Age.find? value
    | "gcb" | "graphemeclusterbreak" => Unicode.GraphemeBreak.find? value
    | "wb" | "wordbreak" => Unicode.WordBreak.find? value
    | "sb" | "sentencebreak" => Unicode.SentenceBreak.find? value
    | _ => none
  points.map .points

/-- A text up to the first place where another one starts in it, and what follows that one there. -/
def splitAtFirst? (separator : List Char) : List Char → Option (List Char × List Char)
  | [] => none
  | c :: cs =>
    if (c :: cs).take separator.length = separator then
      some ([], (c :: cs).drop separator.length)
    else (splitAtFirst? separator cs).map fun (front, back) ↦ (c :: front, back)

/-- The property that is written between braces: whether its characters are those without the value,
and the characters with it. -/
def property? (content : List Char) : Option (Bool × CharClass) :=
  match splitAtFirst? ['!', '='] content with
  | some (name, value) => (valuedProperty? name value).map (true, ·)
  | none =>
    match (splitAtFirst? [':'] content).or (splitAtFirst? ['='] content) with
    | some (name, value) => (valuedProperty? name value).map (false, ·)
    | none => (namedProperty? content).map (false, ·)

/-- The class of a property that is named in braces or by a single letter. -/
def propertyName? (f : Flags) (negated : Bool) : Reader CharClass
  | '\x7b' :: cs =>
    Reader.make (f.upToBrace? false cs) fun content ↦
      (property? content).bind fun (without, a) ↦ f.negate? (negated != without) (f.fold a)
  | '\\' :: _ | [] => none
  | c :: rest =>
    ((namedProperty? [c]).bind fun a ↦ f.negate? negated (f.fold a)).map (·, rest)

/-- The class of a property, given what follows its letter. -/
def propertyClass? (f : Flags) (negated : Bool) : Reader CharClass :=
  if f.unicode then fun cs ↦ propertyName? f negated (f.skip cs) else fun _ ↦ none

/-! ## Letters -/

/-- The class of a letter. -/
def letterClass? (f : Flags) : Char → Option CharClass
  | 'd' => some (if f.unicode then .digit else .asciiDigit)
  | 's' => some (if f.unicode then .blank else .asciiBlank)
  | 'w' => some (if f.unicode then .word else .asciiWord)
  | _ => none

/-- The look that is written after `\b` in braces. -/
def braceLook? (ascii : Bool) : String → Option Look
  | "start" => some (.wordStart ascii)
  | "end" => some (.wordEnd ascii)
  | "start-half" => some (.wordStartHalf ascii)
  | "end-half" => some (.wordEndHalf ascii)
  | _ => none

/-- A character of the name of a look. -/
def isLookLetter (c : Char) : Bool :=
  'a' ≤ c && c ≤ 'z' || 'A' ≤ c && c ≤ 'Z' || c == '-'

/-- The look that `\b` and a brace open. The brace belongs to it if a letter or a hyphen follows, and
opens a repetition otherwise. -/
def braceBoundary? (f : Flags) : Reader Look := fun cs ↦
  match f.skip cs with
  | [] => none
  | c :: _ =>
    if isLookLetter c then
      Reader.make (f.upToBrace? false cs) fun name ↦ braceLook? (!f.unicode) (.ofList name)
    else some (.wordBoundary (!f.unicode), '\x7b' :: cs)

/-- The look that `\b` opens. -/
def boundary? (f : Flags) : Reader Look
  | '\x7b' :: cs => braceBoundary? f cs
  | cs => some (.wordBoundary (!f.unicode), cs)

/-- A character that stands for itself after a backslash: any of ASCII but letters, digits and the
angle brackets. -/
def isEscapable (c : Char) : Bool :=
  c.toNat < 128 && !c.isAlphanum && c != '<' && c != '>'

/-- What a backslash and a character that does not stand for itself begin. -/
def meaning? (f : Flags) (c : Char) : Reader Primitive :=
  match c with
  | 'x' => fun cs ↦ (codePoint? f 2 cs).map fun x ↦ (character x.1, x.2)
  | 'u' => fun cs ↦ (codePoint? f 4 cs).map fun x ↦ (character x.1, x.2)
  | 'U' => fun cs ↦ (codePoint? f 8 cs).map fun x ↦ (character x.1, x.2)
  | 'p' => fun cs ↦ (propertyClass? f false cs).map fun x ↦ (chars x.1, x.2)
  | 'P' => fun cs ↦ (propertyClass? f true cs).map fun x ↦ (chars x.1, x.2)
  | 'd' | 's' | 'w' => fun cs ↦ (letterClass? f c).map fun a ↦ (chars a, cs)
  | 'D' | 'S' | 'W' => fun cs ↦
    ((letterClass? f c.toLower).bind (f.negate? true)).map fun a ↦ (chars a, cs)
  | 'a' => fun cs ↦ some (character '\x07', cs)
  | 'f' => fun cs ↦ some (character '\x0c', cs)
  | 'n' => fun cs ↦ some (character '\n', cs)
  | 'r' => fun cs ↦ some (character '\r', cs)
  | 't' => fun cs ↦ some (character '\t', cs)
  | 'v' => fun cs ↦ some (character '\x0b', cs)
  | 'A' => fun cs ↦ some (look .textStart, cs)
  | 'z' => fun cs ↦ some (look .textEnd, cs)
  | 'b' => fun cs ↦ (boundary? f cs).map fun x ↦ (look x.1, x.2)
  | 'B' => fun cs ↦ some (look (.notWordBoundary (!f.unicode)), cs)
  | '<' => fun cs ↦ some (look (.wordStart (!f.unicode)), cs)
  | '>' => fun cs ↦ some (look (.wordEnd (!f.unicode)), cs)
  | _ => fun _ ↦ none

/-- What a backslash makes of what follows it. -/
def escape? (f : Flags) : Reader Primitive
  | [] => none
  | c :: cs => if isEscapable c then some (character c, cs) else meaning? f c cs

end Primitive

end TagQuery.Regex
