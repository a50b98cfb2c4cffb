import TagQuery.Query.Basic
import TagQuery.Query.Token

/-!
# Reading queries

The grammar of queries, over tokens:

* a query is a list of kinds with commas, and then optionally `with` and a disjunction;
* a disjunction is a chain of conjunctions with `or`, a conjunction a chain of operands with `and`;
* an operand is `not` and an operand, a disjunction in parentheses, or a condition;
* a condition is a key alone or after `!`; a key with `=` or `!=` and a value; a key with `~` or
  `!~` and patterns; a key with a comparison and a literal; `~` and key patterns, with or without
  a further `~` and patterns; `!~` and key patterns; `older` or `newer` and a literal;
* patterns are values with `|`, and a literal is one value or more, joined by spaces.

Keys and values are words or quoted texts. The bare words `older` and `newer` open a condition on
the age only before a word or a quoted text, and are keys otherwise.

Reading goes from left to right and decides by the next token, or by the next two for `older` and
`newer`. It works on tokens alone: a fault is reported as what was expected and the tokens left, of
which the first is the impossible one. `parse` turns that into the byte offset of the token.

The depth of recursion is bounded by a count that starts above what any list of tokens of its length
can use up. How much memory the recursion takes is left out.
-/

namespace TagQuery.Query

/-- What may stand in the place of an impossible token. -/
inductive Expectation where
  | kind
  | commaOrWith
  | key
  | value
  | pattern
  | numberOrDate
  | operand
  | closeParen
  | connectiveOrEnd
  deriving DecidableEq, Repr

/-- What is expected, as a message names it. -/
def Expectation.describe : Expectation → String
  | kind => "'nodes', 'ways' or 'relations'"
  | commaOrWith => "',' or 'with'"
  | key => "tag key"
  | value => "tag value"
  | pattern => "value"
  | numberOrDate => "number or date"
  | operand => "tag key, '!', '~', '!~', 'not' or '('"
  | closeParen => "')'"
  | connectiveOrEnd => "'and', 'or', ')' or end of input"

/-- A fault in a list of tokens: what was expected where the given tokens remained. -/
structure Fault where
  expected : Expectation
  remaining : List Token
  deriving DecidableEq, Repr

/-- A reader takes what it reads off the front of a list of tokens. -/
abbrev Reader (α : Type) := List Token → Except Fault (α × List Token)

namespace Reader

/-! ## Conditions -/

/-- The text of a word or a quoted text. -/
def text (expected : Expectation) : Reader String
  | .word s :: ts => .ok (s, ts)
  | .quoted s :: ts => .ok (s, ts)
  | ts => .error ⟨expected, ts⟩

/-- The patterns that follow, each after a bar. -/
def morePatterns : Reader (List String)
  | .symbol .bar :: .word s :: ts | .symbol .bar :: .quoted s :: ts =>
    (morePatterns ts).map fun (ps, ts) ↦ (s :: ps, ts)
  | .symbol .bar :: ts => .error ⟨.pattern, ts⟩
  | ts => .ok ([], ts)

/-- Patterns with bars between them. -/
def patterns : Reader (List String) := fun ts ↦ do
  let (p, ts) ← text .pattern ts
  let (ps, ts) ← morePatterns ts
  return (p :: ps, ts)

/-- All texts at the front, as they follow one another. -/
def texts : List Token → List String × List Token
  | .word s :: ts | .quoted s :: ts => let (ss, ts) := texts ts; (s :: ss, ts)
  | ts => ([], ts)

/-- A literal: one text or more, joined by spaces. -/
def literal : Reader String := fun ts ↦ do
  let (s, ts) ← text .numberOrDate ts
  let (ss, ts) := texts ts
  return (" ".intercalate (s :: ss), ts)

/-- What a condition states about the value of a key. -/
def aboutKey (key : String) : Reader Condition
  | .symbol (.comparison op) :: ts =>
    (literal ts).map fun (l, ts) ↦ (.compares key op l, ts)
  | .symbol .equal :: ts => (text .value ts).map fun (v, ts) ↦ (.equals key v, ts)
  | .symbol .notEqual :: ts => (text .value ts).map fun (v, ts) ↦ (.notEquals key v, ts)
  | .symbol .like :: ts => (patterns ts).map fun (ps, ts) ↦ (.matchesAny key ps, ts)
  | .symbol .notLike :: ts => (patterns ts).map fun (ps, ts) ↦ (.matchesNone key ps, ts)
  | ts => .ok (.hasKey key, ts)

/-- What a condition that opens with key patterns goes on to state. -/
def aboutKeysLike (keyPatterns : List String) : Reader Condition
  | .symbol .like :: ts => (patterns ts).map fun (ps, ts) ↦ (.hasTagLike keyPatterns ps, ts)
  | ts => .ok (.hasKeyLike keyPatterns, ts)

/-- The age condition that a word opens, if a text follows it. -/
def age? (word : String) (next : List Token) : Option Age :=
  if (next.head?.bind Token.text?).isSome then Age.ofWord? word else none

/-- A condition. -/
def condition : Reader Condition
  | .symbol .bang :: ts => (text .key ts).map fun (k, ts) ↦ (.lacksKey k, ts)
  | .symbol .like :: ts => do
    let (ps, ts) ← patterns ts
    aboutKeysLike ps ts
  | .symbol .notLike :: ts => (patterns ts).map fun (ps, ts) ↦ (.lacksKeyLike ps, ts)
  | .word w :: ts =>
    match age? w ts with
    | some age => (literal ts).map fun (l, ts) ↦ (.aged age l, ts)
    | none => aboutKey w ts
  | .quoted k :: ts => aboutKey k ts
  | ts => .error ⟨.operand, ts⟩

/-! ## Expressions -/

mutual

/-- An operand. -/
def operand : Nat → Reader (Expr Condition)
  | 0, ts => .error ⟨.operand, ts⟩
  | depth + 1, .keyword .not :: ts => do
    let (e, ts) ← operand depth ts
    return (.not e, ts)
  | depth + 1, .symbol .openParen :: ts => do
    match ← disjunction depth ts with
    | (e, .symbol .closeParen :: ts) => return (e, ts)
    | (_, ts) => .error ⟨.closeParen, ts⟩
  | _ + 1, ts => do
    let (c, ts) ← condition ts
    return (.leaf c, ts)

/-- What follows the conjunction `e`, joined to it. -/
def conjunctionFrom : Nat → Expr Condition → Reader (Expr Condition)
  | depth + 1, e, .keyword .and :: ts => do
    let (e', ts) ← operand depth ts
    conjunctionFrom depth (e.and e') ts
  | _, e, ts => .ok (e, ts)

/-- A chain of operands with `and`. -/
def conjunction : Nat → Reader (Expr Condition)
  | 0, ts => .error ⟨.operand, ts⟩
  | depth + 1, ts => do
    let (e, ts) ← operand depth ts
    conjunctionFrom depth e ts

/-- What follows the disjunction `e`, joined to it. -/
def disjunctionFrom : Nat → Expr Condition → Reader (Expr Condition)
  | depth + 1, e, .keyword .or :: ts => do
    let (e', ts) ← conjunction depth ts
    disjunctionFrom depth (e.or e') ts
  | _, e, ts => .ok (e, ts)

/-- A chain of conjunctions with `or`. -/
def disjunction : Nat → Reader (Expr Condition)
  | 0, ts => .error ⟨.operand, ts⟩
  | depth + 1, ts => do
    let (e, ts) ← conjunction depth ts
    disjunctionFrom depth e ts

end

/-- A depth that reading a list of tokens cannot exhaust. -/
def depthFor (ts : List Token) : Nat := 3 * ts.length + 3

/-! ## Queries -/

/-- The kinds that follow the given ones, each after a comma. -/
def moreKinds (kinds : KindSet) : Reader KindSet
  | .symbol .comma :: .keyword (.kind k) :: ts => moreKinds (kinds.insert k) ts
  | .symbol .comma :: ts => .error ⟨.kind, ts⟩
  | ts => .ok (kinds, ts)

/-- Kinds with commas between them. -/
def kinds : Reader KindSet
  | .keyword (.kind k) :: ts => moreKinds (KindSet.empty.insert k) ts
  | ts => .error ⟨.kind, ts⟩

end Reader

/-- The query that a list of tokens is. -/
def ofTokens (ts : List Token) : Except Fault Query := do
  match ← Reader.kinds ts with
  | (kinds, []) => return ⟨kinds, none⟩
  | (kinds, .keyword .withClause :: ts) =>
    match ← Reader.disjunction (Reader.depthFor ts) ts with
    | (e, []) => return ⟨kinds, some e⟩
    | (_, ts) => .error ⟨.connectiveOrEnd, ts⟩
  | (_, ts) => .error ⟨.commaOrWith, ts⟩

/-! ## Reading a text -/

/-- An impossible token, or the end of the text where a token had to follow. -/
structure SyntaxError where
  position : Nat
  expected : Expectation
  found : Option Token
  deriving DecidableEq, Repr

/-- What was found, as a message names it. -/
def SyntaxError.describeFound (e : SyntaxError) : String :=
  (e.found.map Token.describe).getD "end of input"

/-- The fault as it is shown. -/
def SyntaxError.message (e : SyntaxError) : String :=
  s!"syntax error at offset {e.position}: expected {e.expected.describe}, " ++
    s!"found {e.describeFound}"

/-- What is wrong with the text of a query, before its conditions are looked into. -/
inductive ParseError where
  | lexical (error : LexError)
  | syntactic (error : SyntaxError)
  deriving DecidableEq, Repr

/-- The fault as it is shown. -/
def ParseError.message : ParseError → String
  | lexical e => s!"lex error: {e.message}"
  | syntactic e => e.message

/-- A fault in the tokens of a text with the place of the first remaining token, which is the end of
the text if none remains. -/
def SyntaxError.ofFault (source : String) (placed : List PlacedToken) (fault : Fault) :
    SyntaxError where
  position := ((placed.drop (placed.length - fault.remaining.length)).head?.map (·.offset)).getD
    (Text.utf8Length source.toList)
  expected := fault.expected
  found := fault.remaining.head?

/-- The query that a text writes. -/
def parse (source : String) : Except ParseError Query :=
  match tokens source with
  | .error e => .error (.lexical e)
  | .ok placed =>
    (ofTokens (placed.map (·.token))).mapError fun fault ↦
      .syntactic (.ofFault source placed fault)

end TagQuery.Query
