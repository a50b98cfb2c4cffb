import TagQuery.Regex.CharClass

/-!
# Regular expressions

A regular expression describes which stretches of a text may stand between which positions. Besides
characters of a class, sequence, choice and repetition there are *looks*, which take up no character
but state something about the two neighbours of a position: that a line or the text starts or ends
there, or a word.

The meaning is a relation between positions of one text, `Spans`; a position is a cut of the text
into what lies before it and what lies after it. Since looks see the neighbours of a stretch, and
not only the stretch itself, a set of words would not be enough.
-/

namespace TagQuery

/-- A statement about a position, decided by the characters before and after it. -/
inductive Regex.Look where
  | textStart
  | textEnd
  | lineStart
  | lineEnd
  /-- The start of a line that a carriage return, a line feed or both in this order end. -/
  | lineStartCrlf
  /-- The end of such a line. -/
  | lineEndCrlf
  | wordBoundary (ascii : Bool)
  | notWordBoundary (ascii : Bool)
  | wordStart (ascii : Bool)
  | wordEnd (ascii : Bool)
  | wordStartHalf (ascii : Bool)
  | wordEndHalf (ascii : Bool)
  deriving DecidableEq, Repr

namespace Regex.Look

/-- Whether a neighbour of a position, which is missing at the ends of the text, belongs to a
word. -/
def isWordAt (ascii : Bool) : Option Char → Bool
  | none => false
  | some c => if ascii then Unicode.isAsciiWord c else Unicode.isWord c

/-- Whether a look holds between two neighbours. -/
def holds (look : Look) (before after : Option Char) : Bool :=
  match look with
  | textStart => before.isNone
  | textEnd => after.isNone
  | lineStart => before.isNone || before == some '\n'
  | lineEnd => after.isNone || after == some '\n'
  | lineStartCrlf =>
    before.isNone || before == some '\n' || (before == some '\r' && after != some '\n')
  | lineEndCrlf =>
    after.isNone || after == some '\r' || (after == some '\n' && before != some '\r')
  | wordBoundary ascii => isWordAt ascii before != isWordAt ascii after
  | notWordBoundary ascii => isWordAt ascii before == isWordAt ascii after
  | wordStart ascii => !isWordAt ascii before && isWordAt ascii after
  | wordEnd ascii => isWordAt ascii before && !isWordAt ascii after
  | wordStartHalf ascii => !isWordAt ascii before
  | wordEndHalf ascii => !isWordAt ascii after

end Regex.Look

/-- A regular expression. -/
inductive Regex where
  /-- Nothing, between a position and itself. -/
  | empty
  | chars (chars : Regex.CharClass)
  | look (look : Regex.Look)
  | seq (first second : Regex)
  | alt (first second : Regex)
  /-- At least `min` times, and at most `max` times if there is such a bound. -/
  | repetition (body : Regex) (min : Nat) (max : Option Nat)
  deriving Repr, Inhabited

namespace Regex

/-! ## Meaning -/

/-- A position in a text: the characters before it, the nearest first, and those after it. -/
structure Position where
  before : List Char
  after : List Char
  deriving DecidableEq, Repr

/-- A relation that holds over `n` steps of another one. -/
inductive Steps (step : Position → Position → Prop) : Nat → Position → Position → Prop
  | zero (p : Position) : Steps step 0 p p
  | succ {n : Nat} {p q r : Position} : step p q → Steps step n q r → Steps step (n + 1) p r

/-- Whether a number of repetitions is within bounds. -/
def allows (min : Nat) (max : Option Nat) (n : Nat) : Prop := min ≤ n ∧ ∀ m ∈ max, n ≤ m

/-- Whether a regular expression leads from one position of a text to another. -/
def Spans : Regex → Position → Position → Prop
  | empty, p, q => p = q
  | chars a, p, q => ∃ c rest, p.after = c :: rest ∧ a.contains c ∧ q = ⟨c :: p.before, rest⟩
  | look l, p, q => p = q ∧ l.holds p.before.head? p.after.head?
  | seq r s, p, q => ∃ m, r.Spans p m ∧ s.Spans m q
  | alt r s, p, q => r.Spans p q ∨ s.Spans p q
  | repetition r min max, p, q => ∃ n, allows min max n ∧ Steps r.Spans n p q

/-- Whether a regular expression leads from some position of a text to another. -/
def Occurs (r : Regex) (text : List Char) : Prop :=
  ∃ before middle after, text = before ++ middle ++ after ∧
    r.Spans ⟨before.reverse, middle ++ after⟩ ⟨(before ++ middle).reverse, after⟩

/-- Whether a regular expression leads from the start of a text to its end. -/
def Denotes (r : Regex) (text : List Char) : Prop := r.Spans ⟨[], text⟩ ⟨text.reverse, []⟩

end Regex

end TagQuery
