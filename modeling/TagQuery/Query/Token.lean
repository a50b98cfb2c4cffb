import TagQuery.Comparison
import TagQuery.Element.Kind
import TagQuery.Text.Blank
import TagQuery.Text.Utf8
import TagQuery.Text.Quoted

/-!
# Tokens of a query

A query is a sequence of tokens: keywords, symbols, bare words and quoted texts, with spaces, tabs
and line breaks between them where they would otherwise run together. Symbols are tried first and
the longer ones before the shorter, then a quoted text, then a word. A word is the longest stretch
of characters that are neither blank nor control characters nor reserved for symbols; if it spells a
keyword, it is that keyword.

Between double quotes a backslash escapes a double quote or another backslash, and stands for itself
before anything else. A text whose closing quote is missing is no token, so the fault lies at its
opening quote.

The scan goes over the characters of a text. `Token.scan?` reads one token and leaves the rest,
which is shorter (`length_scan?_lt`); `tokens` repeats it and records the byte offset of each token.
The end of the text closes the row of its tokens (`stops`), so that a fault has a place also where a
token is missing.
-/

namespace TagQuery.Query

/-- A word with a meaning of its own. -/
inductive Keyword where
  | kind (kind : Kind)
  | withClause
  | and
  | or
  | not
  deriving DecidableEq, Repr

namespace Keyword

/-- The word of a keyword. -/
def spelling : Keyword → String
  | kind k => k.keyword
  | withClause => "with"
  | and => "and"
  | or => "or"
  | not => "not"

/-- The keyword that a word spells. -/
def ofWord? : String → Option Keyword
  | "nodes" => some (kind .node)
  | "ways" => some (kind .way)
  | "relations" => some (kind .relation)
  | "with" => some withClause
  | "and" => some and
  | "or" => some or
  | "not" => some not
  | _ => none

theorem ofWord?_spelling (k : Keyword) : ofWord? k.spelling = some k := by
  cases k with
  | kind k => cases k <;> rfl
  | _ => rfl

end Keyword

/-- An operator or a punctuation mark. -/
inductive Symbol where
  | equal
  | notEqual
  | like
  | notLike
  | comparison (op : Comparison)
  | bang
  | openParen
  | closeParen
  | comma
  | bar
  deriving DecidableEq, Repr

namespace Symbol

/-- The characters of a symbol. -/
def spelling : Symbol → String
  | equal => "="
  | notEqual => "!="
  | like => "~"
  | notLike => "!~"
  | comparison op => op.sign
  | bang => "!"
  | openParen => "("
  | closeParen => ")"
  | comma => ","
  | bar => "|"

/-- The longest symbol that a text starts with, and the rest. -/
def scan? : List Char → Option (Symbol × List Char)
  | '!' :: '=' :: cs => some (notEqual, cs)
  | '!' :: '~' :: cs => some (notLike, cs)
  | '<' :: '=' :: cs => some (comparison .lessEqual, cs)
  | '>' :: '=' :: cs => some (comparison .greaterEqual, cs)
  | '=' :: cs => some (equal, cs)
  | '~' :: cs => some (like, cs)
  | '<' :: cs => some (comparison .less, cs)
  | '>' :: cs => some (comparison .greater, cs)
  | '!' :: cs => some (bang, cs)
  | '(' :: cs => some (openParen, cs)
  | ')' :: cs => some (closeParen, cs)
  | ',' :: cs => some (comma, cs)
  | '|' :: cs => some (bar, cs)
  | _ => none

/-- A symbol is scanned off the front of a text character by character. -/
theorem eq_append_of_scan? {cs rest : List Char} {s : Symbol} (h : scan? cs = some (s, rest)) :
    cs = s.spelling.toList ++ rest := by
  unfold scan? at h
  split at h <;> simp_all [spelling, Comparison.sign]
  all_goals (obtain ⟨rfl, rfl⟩ := h; rfl)

end Symbol

/-- A token of a query. -/
inductive Token where
  | keyword (keyword : Keyword)
  | symbol (symbol : Symbol)
  | word (text : String)
  | quoted (text : String)
  deriving DecidableEq, Repr

/-- A character that separates tokens and is otherwise without meaning. -/
def isSeparator (c : Char) : Bool := c == ' ' || c == '\t' || c == '\r' || c == '\n'

/-- A character with a meaning of its own, which ends a word. -/
def isReserved (c : Char) : Bool := "(),|=!~<>\"&".toList.contains c

/-- A character of a bare word. -/
def isWordCharacter (c : Char) : Bool :=
  !Text.isBlank c && !Text.isControl c && !isReserved c

namespace Token

/-- The text of a token that can be a key, a value or part of a literal. -/
def text? : Token → Option String
  | word s | quoted s => some s
  | _ => none

/-- A token as a message shows it. -/
def describe : Token → String
  | keyword k => s!"'{k.spelling}'"
  | symbol s => s!"'{s.spelling}'"
  | word s => s!"'{s}'"
  | quoted s => "\"" ++ s ++ "\""

/-- The token that a bare word is. -/
def ofWord (cs : List Char) : Token :=
  match Keyword.ofWord? (.ofList cs) with
  | some k => keyword k
  | none => word (.ofList cs)

/-! ## Quoted texts -/

/-- What a backslash followed by a character stands for. -/
def unescape (c : Char) : List Char := if c = '"' ∨ c = '\\' then [c] else ['\\', c]

/-- The content of a quoted text, given what follows its opening quote, and what follows its closing
quote. -/
def scanQuoted? : List Char → Option (List Char × List Char)
  | [] => none
  | '"' :: cs => some ([], cs)
  | ['\\'] => none
  | '\\' :: c :: cs => (scanQuoted? cs).map fun (value, rest) ↦ (unescape c ++ value, rest)
  | c :: cs => (scanQuoted? cs).map fun (value, rest) ↦ (c :: value, rest)

/-- The characters of a text within quotes, with quotes and backslashes escaped. -/
def escape (cs : List Char) : List Char :=
  cs.flatMap fun c ↦ if c = '"' ∨ c = '\\' then ['\\', c] else [c]

/-! ## Scanning -/

/-- The token that a text starts with, and the rest. -/
def scan? (cs : List Char) : Option (Token × List Char) :=
  match Symbol.scan? cs with
  | some (s, rest) => some (symbol s, rest)
  | none =>
    match cs with
    | '"' :: cs => (scanQuoted? cs).map fun (value, rest) ↦ (quoted (.ofList value), rest)
    | cs =>
      if (cs.takeWhile isWordCharacter).isEmpty then none
      else some (ofWord (cs.takeWhile isWordCharacter), cs.dropWhile isWordCharacter)

theorem length_scanQuoted?_lt {cs value rest : List Char}
    (h : scanQuoted? cs = some (value, rest)) : rest.length < cs.length := by
  fun_induction scanQuoted? cs generalizing value rest with
  | case1 => simp at h
  | case2 cs => simp_all
  | case3 => simp at h
  | case4 c cs ih =>
    obtain ⟨⟨v, r⟩, hv, he⟩ := Option.map_eq_some_iff.mp h
    have := ih hv
    simp only [Prod.mk.injEq] at he
    simp only [List.length_cons, ← he.2]
    omega
  | case5 c cs _ _ _ ih =>
    obtain ⟨⟨v, r⟩, hv, he⟩ := Option.map_eq_some_iff.mp h
    have := ih hv
    simp only [Prod.mk.injEq] at he
    simp only [List.length_cons, ← he.2]
    omega

/-- What follows a token is shorter than what starts with it. -/
theorem length_scan?_lt {cs rest : List Char} {t : Token} (h : scan? cs = some (t, rest)) :
    rest.length < cs.length := by
  unfold scan? at h
  split at h
  · next s rest' hs =>
    simp only [Option.some.injEq, Prod.mk.injEq] at h
    rw [Symbol.eq_append_of_scan? hs, ← h.2, List.length_append]
    have : 0 < s.spelling.toList.length := by
      cases s with
      | comparison op => cases op <;> decide
      | _ => decide
    omega
  · split at h
    · next cs' _ =>
      obtain ⟨⟨v, r⟩, hv, he⟩ := Option.map_eq_some_iff.mp h
      have := length_scanQuoted?_lt hv
      simp only [Prod.mk.injEq] at he
      simp only [List.length_cons, ← he.2]
      omega
    · split at h
      · simp at h
      · next hne =>
        simp only [Option.some.injEq, Prod.mk.injEq] at h
        have hl := congrArg List.length
          (List.takeWhile_append_dropWhile : cs.takeWhile isWordCharacter ++ _ = cs)
        have : 0 < (cs.takeWhile isWordCharacter).length := by
          simpa [List.length_pos_iff] using hne
        rw [List.length_append] at hl
        rw [← h.2]
        omega

end Token

/-- A token and the byte offset at which it starts. -/
structure PlacedToken where
  token : Token
  offset : Nat
  deriving DecidableEq, Repr

/-- A character that starts no token. -/
structure LexError where
  character : Char
  offset : Nat
  deriving DecidableEq, Repr

/-- The fault as it is shown. -/
def LexError.message (e : LexError) : String :=
  s!"unexpected character {Text.quotedChar e.character} at offset {e.offset}"

/-- The tokens of a text that starts at a byte offset. -/
def tokensFrom (offset : Nat) (cs : List Char) : Except LexError (List PlacedToken) :=
  let start := offset + Text.utf8Length (cs.takeWhile isSeparator)
  match _h : cs.dropWhile isSeparator with
  | [] => .ok []
  | c :: cs' =>
    match _hs : Token.scan? (c :: cs') with
    | none => .error ⟨c, start⟩
    | some (token, rest) =>
      (tokensFrom (start + (Text.utf8Length (c :: cs') - Text.utf8Length rest)) rest).map
        (⟨token, start⟩ :: ·)
termination_by cs.length
decreasing_by
  have h₁ := Token.length_scan?_lt _hs
  have h₂ : (cs.dropWhile isSeparator).length ≤ cs.length :=
    (List.dropWhile_suffix isSeparator).length_le
  rw [_h] at h₂
  omega

/-- The tokens of a query text, with their byte offsets. -/
def tokens (source : String) : Except LexError (List PlacedToken) := tokensFrom 0 source.toList

/-- A place at which reading a text may come to a halt: one of its tokens, or its end. -/
structure Stop where
  /-- Nothing for the end of the text. -/
  token : Option Token
  offset : Nat
  deriving DecidableEq, Repr

/-- The tokens of a query text as stops, and after them its end. -/
def stops (source : String) : Except LexError (List Stop) :=
  (tokens source).map fun placed ↦
    placed.map (fun p ↦ ⟨some p.token, p.offset⟩) ++ [⟨none, Text.utf8Length source.toList⟩]

end TagQuery.Query
