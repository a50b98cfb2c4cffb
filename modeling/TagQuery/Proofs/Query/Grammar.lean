import TagQuery.Query.Parser

/-!
# The grammar of queries

The grammar as derivation trees, with no reference to how a query is read. Each rule

```text
query      = types ("with" or_expr)?
types      = type ("," type)*
or_expr    = and_expr ("or" and_expr)*
and_expr   = unary_expr ("and" unary_expr)*
unary_expr = "not" unary_expr | "(" or_expr ")" | leaf
leaf       = KEY | "!" KEY | KEY ("=" | "!=") VALUE | KEY ("~" | "!~") value_list
           | KEY ("<" | "<=" | ">" | ">=") literal
           | "~" value_list ("~" value_list)? | "!~" value_list | ("older" | "newer") literal
value_list = VALUE ("|" VALUE)*
literal    = VALUE+
```

is a type of trees, `Derivation` on top; a constructor is an alternative. A tree has a *yield*, the
tokens that it derives (`tokens`), and a *meaning*, the query that it denotes (`meaning`). What a
list of tokens means is thus said without a reader; the reader is compared with it elsewhere.

## Chains

A chain of one connective is a single node of a query. The chain extends its first operand if that
already is such a node, which is only possible in parentheses, and takes all others as they are.
`Expr.anyOf` and `Expr.allOf` say this at one stroke; that joining the operands one after another
from the left comes to the same is `foldl_or` and `foldl_and`.
-/

namespace TagQuery.Query

namespace Expr

variable {α : Type}

/-- The operands that an expression brings into a disjunction that it opens. -/
def disjuncts : Expr α → List (Expr α)
  | any operands => operands
  | e => [e]

/-- The operands that an expression brings into a conjunction that it opens. -/
def conjuncts : Expr α → List (Expr α)
  | all operands => operands
  | e => [e]

/-- A chain with *or*. -/
def anyOf (first : Expr α) : List (Expr α) → Expr α
  | [] => first
  | more => any (first.disjuncts ++ more)

/-- A chain with *and*. -/
def allOf (first : Expr α) : List (Expr α) → Expr α
  | [] => first
  | more => all (first.conjuncts ++ more)

theorem or_eq_any (d e : Expr α) : d.or e = any (d.disjuncts ++ [e]) := by cases d <;> rfl

theorem and_eq_all (d e : Expr α) : d.and e = all (d.conjuncts ++ [e]) := by cases d <;> rfl

theorem foldl_or (first : Expr α) (more : List (Expr α)) :
    more.foldl or first = anyOf first more := by
  induction more generalizing first with
  | nil => rfl
  | cons e more ih =>
    rw [List.foldl_cons, ih, or_eq_any]
    cases more with
    | nil => rfl
    | cons e' more => simp only [anyOf, disjuncts, List.append_assoc, List.singleton_append]

theorem foldl_and (first : Expr α) (more : List (Expr α)) :
    more.foldl and first = allOf first more := by
  induction more generalizing first with
  | nil => rfl
  | cons e more ih =>
    rw [List.foldl_cons, ih, and_eq_all]
    cases more with
    | nil => rfl
    | cons e' more => simp only [allOf, conjuncts, List.append_assoc, List.singleton_append]

end Expr

namespace Grammar

/-! ## Parts of a condition -/

/-- One item or more. -/
structure Several (α : Type) where
  first : α
  more : List α

namespace Several

variable {α β : Type}

/-- The items. -/
def toList (s : Several α) : List α := s.first :: s.more

theorem toList_injective {s t : Several α} (h : s.toList = t.toList) : s = t := by
  obtain ⟨a, as⟩ := s
  obtain ⟨b, bs⟩ := t
  obtain ⟨rfl, rfl⟩ := List.cons.inj h
  rfl

end Several

/-- A `KEY` or a `VALUE`. -/
inductive Value where
  | word (text : String)
  | quoted (text : String)

namespace Value

/-- The token that a value is. -/
def token : Value → Token
  | word s => .word s
  | quoted s => .quoted s

/-- What a value says. -/
def text : Value → String
  | word s => s
  | quoted s => s

theorem text?_token (v : Value) : v.token.text? = some v.text := by cases v <;> rfl

theorem token_injective : ∀ {v w : Value}, v.token = w.token → v = w
  | word _, word _, h => by injection h with h; rw [h]
  | quoted _, quoted _, h => by injection h with h; rw [h]

end Value

/-- The tokens of items, each after a separator. -/
def after {α : Type} (separator : Token) (token : α → Token) (items : List α) : List Token :=
  items.flatMap fun a ↦ [separator, token a]

/-- The tokens of items with separators between them. -/
def separated {α : Type} (separator : Token) (token : α → Token) (items : Several α) :
    List Token :=
  token items.first :: after separator token items.more

/-- The tokens of a `value_list`. -/
def listTokens : Several Value → List Token := separated (.symbol .bar) Value.token

/-- The tokens of a `literal`. -/
def literalTokens (literal : Several Value) : List Token := literal.toList.map Value.token

/-- The values of a list. -/
def texts (values : Several Value) : List String := values.toList.map Value.text

/-- What a literal says: its values with spaces between them. -/
def literalText (literal : Several Value) : String := " ".intercalate (texts literal)

/-! ## Conditions -/

/-- A `leaf`. -/
inductive Leaf where
  | key (key : Value)
  | lacks (key : Value)
  | equals (key value : Value)
  | notEquals (key value : Value)
  | like (key : Value) (values : Several Value)
  | notLike (key : Value) (values : Several Value)
  | compares (key : Value) (op : Comparison) (literal : Several Value)
  | keysLike (keys : Several Value)
  | tagsLike (keys values : Several Value)
  | notKeysLike (keys : Several Value)
  /-- Opened by the bare word alone; in quotes it is a key. -/
  | aged (age : Age) (literal : Several Value)

namespace Leaf

/-- The tokens of a leaf. -/
def tokens : Leaf → List Token
  | key k => [k.token]
  | lacks k => [.symbol .bang, k.token]
  | equals k v => [k.token, .symbol .equal, v.token]
  | notEquals k v => [k.token, .symbol .notEqual, v.token]
  | like k vs => k.token :: .symbol .like :: listTokens vs
  | notLike k vs => k.token :: .symbol .notLike :: listTokens vs
  | compares k op l => k.token :: .symbol (.comparison op) :: literalTokens l
  | keysLike ks => .symbol .like :: listTokens ks
  | tagsLike ks vs => .symbol .like :: listTokens ks ++ .symbol .like :: listTokens vs
  | notKeysLike ks => .symbol .notLike :: listTokens ks
  | aged age l => .word age.word :: literalTokens l

/-- The condition that a leaf states. -/
def meaning : Leaf → Condition
  | key k => .hasKey k.text
  | lacks k => .lacksKey k.text
  | equals k v => .equals k.text v.text
  | notEquals k v => .notEquals k.text v.text
  | like k vs => .matchesAny k.text (texts vs)
  | notLike k vs => .matchesNone k.text (texts vs)
  | compares k op l => .compares k.text op (literalText l)
  | keysLike ks => .hasKeyLike (texts ks)
  | tagsLike ks vs => .hasTagLike (texts ks) (texts vs)
  | notKeysLike ks => .lacksKeyLike (texts ks)
  | aged age l => .aged age (literalText l)

end Leaf

/-! ## Expressions -/

mutual

/-- An `or_expr`. -/
inductive Disjunction where
  | chain (first : Conjunction) (more : List Conjunction)

/-- An `and_expr`. -/
inductive Conjunction where
  | chain (first : Operand) (more : List Operand)

/-- A `unary_expr`. -/
inductive Operand where
  | not (operand : Operand)
  | parens (inner : Disjunction)
  | leaf (leaf : Leaf)

end

mutual

/-- The tokens of a disjunction. -/
def Disjunction.tokens : Disjunction → List Token
  | .chain first more => first.tokens ++ orTokens more

/-- The tokens of conjunctions, each after `or`. -/
def orTokens : List Conjunction → List Token
  | [] => []
  | c :: cs => .keyword .or :: (c.tokens ++ orTokens cs)

/-- The tokens of a conjunction. -/
def Conjunction.tokens : Conjunction → List Token
  | .chain first more => first.tokens ++ andTokens more

/-- The tokens of operands, each after `and`. -/
def andTokens : List Operand → List Token
  | [] => []
  | o :: os => .keyword .and :: (o.tokens ++ andTokens os)

/-- The tokens of an operand. -/
def Operand.tokens : Operand → List Token
  | .not o => .keyword .not :: o.tokens
  | .parens d => .symbol .openParen :: (d.tokens ++ [.symbol .closeParen])
  | .leaf l => l.tokens

end

mutual

/-- The expression that a disjunction denotes. -/
def Disjunction.meaning : Disjunction → Expr Condition
  | .chain first more => first.meaning.anyOf (disjunctMeanings more)

/-- The expressions that conjunctions denote. -/
def disjunctMeanings : List Conjunction → List (Expr Condition)
  | [] => []
  | c :: cs => c.meaning :: disjunctMeanings cs

/-- The expression that a conjunction denotes. -/
def Conjunction.meaning : Conjunction → Expr Condition
  | .chain first more => first.meaning.allOf (conjunctMeanings more)

/-- The expressions that operands denote. -/
def conjunctMeanings : List Operand → List (Expr Condition)
  | [] => []
  | o :: os => o.meaning :: conjunctMeanings os

/-- The expression that an operand denotes. Parentheses leave no trace of their own. -/
def Operand.meaning : Operand → Expr Condition
  | .not o => .not o.meaning
  | .parens d => d.meaning
  | .leaf l => .leaf l.meaning

end

theorem orTokens_append (cs ds : List Conjunction) :
    orTokens (cs ++ ds) = orTokens cs ++ orTokens ds := by
  induction cs with
  | nil => rfl
  | cons c cs ih => rw [List.cons_append, orTokens, orTokens, ih, List.cons_append,
      List.append_assoc]

theorem disjunctMeanings_append (cs ds : List Conjunction) :
    disjunctMeanings (cs ++ ds) = disjunctMeanings cs ++ disjunctMeanings ds := by
  induction cs with
  | nil => rfl
  | cons c cs ih => rw [List.cons_append, disjunctMeanings, disjunctMeanings, ih, List.cons_append]

/-! ## Queries -/

/-- A `query`, the root of a derivation. -/
structure Derivation where
  kinds : Several Kind
  condition : Option Disjunction

namespace Derivation

/-- The tokens of a list of kinds. -/
def kindTokens : Several Kind → List Token :=
  separated (.symbol .comma) fun k ↦ .keyword (.kind k)

/-- The tokens of a condition and the word that opens it. -/
def clauseTokens : Option Disjunction → List Token
  | none => []
  | some c => .keyword .withClause :: c.tokens

/-- The tokens that a derivation derives. -/
def tokens (d : Derivation) : List Token := kindTokens d.kinds ++ clauseTokens d.condition

/-- The query that a derivation denotes: it selects the set of the listed kinds. -/
def meaning (d : Derivation) : Query :=
  ⟨KindSet.ofList d.kinds.toList, d.condition.map Disjunction.meaning⟩

end Derivation

end Grammar

end TagQuery.Query
