import TagQuery.Text.Digits
import TagQuery.Unicode.Edition

/-!
# Quoted text

Messages show a text of the user in quotes, with everything escaped that could not be seen or
would be mistaken for something else: the delimiter and the backslash, line breaks and tabs,
characters without a glyph, and characters that would attach to the one before them. A quote that is
not the delimiter stands for itself.
-/

namespace TagQuery.Text

/-- What stands around a quoted text. -/
inductive QuoteStyle where
  | text
  | character
  deriving DecidableEq, Repr

namespace QuoteStyle

/-- The quote on both sides. -/
def delimiter : QuoteStyle → Char
  | text => '"'
  | character => '\''

/-- The voiced sound marks of Katakana in half width, which attach to the character before them but
take a place of their own. -/
def isSoundMark (c : Char) : Bool := c == '\uff9e' || c == '\uff9f'

/-- A character that is shown as it is. -/
def showsItself (c : Char) : Bool :=
  let n := c.toNat
  if n < 0x7F then 0x20 ≤ n
  else if Unicode.Edition.graphemeExtend.contains n then isSoundMark c
  else !(Unicode.Edition.isUnprintable n || Unicode.BinaryProperty.defaultIgnorable.contains n)

/-- One character of a quoted text. -/
def escape (style : QuoteStyle) (c : Char) : List Char :=
  if c = '\x00' then ['\\', '0']
  else if c = '\t' then ['\\', 't']
  else if c = '\r' then ['\\', 'r']
  else if c = '\n' then ['\\', 'n']
  else if c = '\\' then ['\\', '\\']
  else if c = style.delimiter then ['\\', c]
  else if showsItself c then [c]
  else '\\' :: 'u' :: '\x7b' :: toHex c.toNat ++ ['\x7d']

/-- A text in quotes. -/
def quote (style : QuoteStyle) (cs : List Char) : List Char :=
  style.delimiter :: cs.flatMap style.escape ++ [style.delimiter]

end QuoteStyle

/-- A text in double quotes. -/
def quoted (s : String) : String := .ofList (QuoteStyle.text.quote s.toList)

/-- A character in single quotes. -/
def quotedChar (c : Char) : String := .ofList (QuoteStyle.character.quote [c])

end TagQuery.Text
