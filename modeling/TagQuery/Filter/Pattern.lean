import TagQuery.Regex.Matching
import TagQuery.Regex.Parser

/-!
# Patterns

A pattern of a query describes whole texts. A lone asterisk is any text. A pattern without a
character that has a meaning in regular expressions is just that text; all others are regular
expressions, which have to match from the start of a text to its end.

To that end an expression is read within `^(?:` and `)$`. Patterns for keys are always read as
expressions, several of them at once as the choices of one expression.
-/

namespace TagQuery

/-- A regular expression for whole texts, with the text between its anchors. -/
structure AnchoredRegex where
  source : String
  regex : Regex
  deriving Repr

namespace AnchoredRegex

/-- The text of an expression with its anchors. -/
def anchor (source : String) : String := "^(?:" ++ source ++ ")$"

/-- The expression with the given text between its anchors. -/
def ofSource? (source : String) : Option AnchoredRegex :=
  (Regex.ofText? (anchor source)).map (⟨source, ·⟩)

/-- The text of an expression with its anchors. -/
def text (r : AnchoredRegex) : String := anchor r.source

/-- Whether an expression matches a text. -/
def holds (r : AnchoredRegex) (text : String) : Bool := r.regex.matchesIn text.toList

end AnchoredRegex

/-- A pattern for values. -/
inductive Pattern where
  | any
  | exact (text : String)
  | regex (regex : AnchoredRegex)
  deriving Repr

namespace Pattern

/-- A character with a meaning in regular expressions. -/
def isMeta (c : Char) : Bool := ".*+?()[]\x7b\x7d^$\\|".toList.contains c

/-- The pattern that a text writes; nothing if it is a faulty expression. -/
def ofText? (text : String) : Option Pattern :=
  if text = "*" then some any
  else if text.toList.any isMeta then (AnchoredRegex.ofSource? text).map regex
  else some (exact text)

/-- Whether a value fits a pattern. -/
def holds (value : String) : Pattern → Bool
  | any => true
  | exact text => value == text
  | regex r => r.holds value

end Pattern

end TagQuery
