import TagQuery.Text.Digits

/-!
# Characters of YAML

Classes of characters, and what stands at the front of a text. Line breaks are line feeds; the end
of the text counts as one.
-/

namespace TagQuery.Yaml

/-- A space or a tab. -/
def isBlank (c : Char) : Bool := c == ' ' || c == '\t'

/-- A blank or a line break. -/
def isGap (c : Char) : Bool := isBlank c || c == '\n'

/-- A character with a meaning within brackets and braces. -/
def isFlowIndicator (c : Char) : Bool := [',', '[', ']', '\x7b', '\x7d'].contains c

/-- A letter or digit of ASCII, an underscore or a hyphen. -/
def isNameCharacter (c : Char) : Bool := c.isAlphanum || c == '_' || c == '-'

/-- A character of the name of an anchor. -/
def isAnchorCharacter (c : Char) : Bool :=
  !(isGap c || isFlowIndicator c || c == '\ufeff')

/-- A character of a URI. -/
def isUriCharacter (c : Char) : Bool :=
  c.isAlphanum || c == '-' ||
    ['#', ';', '/', '?', ':', '@', '&', '=', '+', '$', ',', '_', '.', '!', '~', '*', '\'', '(', ')',
      '[', ']', '%'].contains c

/-- A character of the suffix of a tag. -/
def isTagCharacter (c : Char) : Bool := isUriCharacter c && !isFlowIndicator c && c != '!'

/-! ## The front of a text -/

/-- Whether a text is at the end of its line. -/
def atLineEnd (cs : List Char) : Bool := cs.head?.all (· == '\n')

/-- Whether a text is at the end of a word: at a blank or the end of its line. -/
def atWordEnd (cs : List Char) : Bool := cs.head?.all isGap

/-- Whether a text starts with an indicator of flow style. -/
def atFlowIndicator (cs : List Char) : Bool := cs.head?.any isFlowIndicator

/-- Whether a text starts with a marker of three equal characters. -/
def atMarker (c : Char) : List Char → Bool
  | x :: y :: z :: rest => x == c && y == c && z == c && atWordEnd rest
  | _ => false

/-- Whether a text starts with a marker that opens or closes a document. -/
def atDocumentMarker (cs : List Char) : Bool := atMarker '-' cs || atMarker '.' cs

end TagQuery.Yaml
