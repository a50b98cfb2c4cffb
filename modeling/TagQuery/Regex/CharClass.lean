import TagQuery.Unicode.BinaryProperty
import TagQuery.Unicode.CaseFolding
import TagQuery.Unicode.GeneralCategory
import TagQuery.Unicode.WordCharacter

/-!
# Character classes

A class is a description of a set of characters, built from ranges and Unicode properties by the
operations of sets, and closed under case where case is ignored. Nothing is computed when a class is
built; a class only has to tell whether a character is in it.
-/

namespace TagQuery.Regex

/-- A description of a set of characters. -/
inductive CharClass where
  | empty
  | range (first last : Char)
  | points (points : Unicode.CodePoints)
  | word
  | union (a b : CharClass)
  | inter (a b : CharClass)
  | compl (a : CharClass)
  /-- The characters that differ from a member in case alone. -/
  | folded (a : CharClass)
  /-- The members, and the letters of ASCII that differ from a member in case alone. -/
  | asciiFolded (a : CharClass)
  deriving Repr, Inhabited

namespace CharClass

/-- The class of one character. -/
def single (c : Char) : CharClass := range c c

/-- The members of the first class that are not in the second. -/
def diff (a b : CharClass) : CharClass := inter a (compl b)

/-- The members of exactly one of two classes. -/
def symmDiff (a b : CharClass) : CharClass := union (diff a b) (diff b a)

/-- The characters of several ranges. -/
def ranges (pairs : List (Char × Char)) : CharClass :=
  pairs.foldr (fun (first, last) rest ↦ union (range first last) rest) empty

/-- A letter of ASCII in the other case; any other character as it is. -/
def swapAsciiCase (c : Char) : Char :=
  if 'a' ≤ c ∧ c ≤ 'z' then c.toUpper else if 'A' ≤ c ∧ c ≤ 'Z' then c.toLower else c

/-- The characters that differ from `c` in case alone, `c` itself among them. -/
def caseVariants (c : Char) : List Char := (Unicode.CaseFolding.variants c.toNat).map Char.ofNat

/-- Whether a character is in a class. -/
def contains : CharClass → Char → Bool
  | empty, _ => false
  | range first last, c => first ≤ c && c ≤ last
  | points s, c => s.contains c.toNat
  | word, c => Unicode.isWord c
  | union a b, c => a.contains c || b.contains c
  | inter a b, c => a.contains c && b.contains c
  | compl a, c => !a.contains c
  | folded a, c => (caseVariants c).any a.contains
  | asciiFolded a, c => a.contains c || a.contains (swapAsciiCase c)

@[simp] theorem contains_single (d c : Char) : (single d).contains c = decide (c = d) := by
  simp only [single, contains]
  by_cases h : c = d
  · simp [h]
  · rw [decide_eq_false h]
    simp only [Bool.and_eq_false_iff, decide_eq_false_iff_not]
    exact Classical.byContradiction fun hn ↦ by
      simp only [not_or, Classical.not_not] at hn
      exact h (Char.le_antisymm hn.2 hn.1)

/-! ## Named classes -/

/-- The digits of all scripts. -/
def digit : CharClass := points Unicode.GeneralCategory.decimalDigits

/-- The blanks. -/
def blank : CharClass :=
  points ((Unicode.BinaryProperty.find? "whitespace").getD ⟨[]⟩)

/-- The digits of ASCII. -/
def asciiDigit : CharClass := range '0' '9'

/-- The blanks of ASCII. -/
def asciiBlank : CharClass := ranges [('\t', '\r'), (' ', ' ')]

/-- The word characters of ASCII. -/
def asciiWord : CharClass := ranges [('0', '9'), ('A', 'Z'), ('a', 'z'), ('_', '_')]

/-- The class of ASCII with a name that is written between brackets and colons. -/
def ofBracketName? : String → Option CharClass
  | "alnum" => some (ranges [('0', '9'), ('A', 'Z'), ('a', 'z')])
  | "alpha" => some (ranges [('A', 'Z'), ('a', 'z')])
  | "ascii" => some (range '\x00' '\x7f')
  | "blank" => some (ranges [('\t', '\t'), (' ', ' ')])
  | "cntrl" => some (ranges [('\x00', '\x1f'), ('\x7f', '\x7f')])
  | "digit" => some asciiDigit
  | "graph" => some (range '!' '~')
  | "lower" => some (range 'a' 'z')
  | "print" => some (range ' ' '~')
  | "punct" => some (ranges [('!', '/'), (':', '@'), ('[', '\x60'), ('\x7b', '~')])
  | "space" => some asciiBlank
  | "upper" => some (range 'A' 'Z')
  | "word" => some asciiWord
  | "xdigit" => some (ranges [('0', '9'), ('A', 'F'), ('a', 'f')])
  | _ => none

end CharClass

end TagQuery.Regex
