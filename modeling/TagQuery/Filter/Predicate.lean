import TagQuery.Filter.Pattern
import TagQuery.Literal.Date
import TagQuery.Query.Parser
import TagQuery.Units

/-!
# Predicates

Compiling a query reads the patterns and literals of its conditions once and for all. A comparison
is one of dates if its literal looks like a date, and one of quantities otherwise. The tree above
the conditions stays as it is, and the first faulty condition from the left is reported; within a
condition the keys come before the values.
-/

namespace TagQuery

/-- What is wrong with a condition of a query. -/
inductive CompileError where
  | invalidRegex (pattern : String)
  | literal (error : LiteralError)
  deriving DecidableEq, Repr

/-- The fault as it is shown. Of a faulty pattern only the text is given: the reason why it is no
regular expression, which follows after a colon, is left out. -/
def CompileError.message : CompileError → String
  | invalidRegex pattern => s!"invalid regex pattern '{pattern}'"
  | literal e => e.message

/-- A condition whose patterns and literals have been read. -/
inductive Predicate where
  | hasKey (key : String)
  | lacksKey (key : String)
  | equals (key value : String)
  | notEquals (key value : String)
  | matchesAny (key : String) (patterns : List Pattern)
  | matchesNone (key : String) (patterns : List Pattern)
  | quantity (key : String) (op : Comparison) (threshold : Quantity)
  | date (key : String) (op : Comparison) (date : DateLiteral)
  | hasKeyLike (keys : AnchoredRegex)
  | lacksKeyLike (keys : AnchoredRegex)
  | hasTagLike (keys : AnchoredRegex) (patterns : List Pattern)
  | aged (age : Query.Age) (date : DateLiteral)

namespace Predicate

/-- Whether a predicate depends on the date. -/
def usesDates : Predicate → Bool
  | date .. | aged .. => true
  | _ => false

/-- The pattern that a text writes. -/
def pattern (text : String) : Except CompileError Pattern :=
  match Pattern.ofText? text with
  | some p => .ok p
  | none => .error (.invalidRegex text)

/-- The patterns that some texts write. -/
def patterns : List String → Except CompileError (List Pattern)
  | [] => .ok []
  | text :: texts =>
    match pattern text with
    | .error e => .error e
    | .ok p => (patterns texts).map (p :: ·)

/-- The expression for keys that fit one of several patterns. -/
def keys (texts : List String) : Except CompileError AnchoredRegex :=
  let source := "|".intercalate texts
  match AnchoredRegex.ofSource? source with
  | some r => .ok r
  | none => .error (.invalidRegex source)

/-- The comparison of a key's value with a literal. -/
def comparison (units : UnitTable) (key : String) (op : Comparison) (literal : String) :
    Except CompileError Predicate :=
  if DateLiteral.looksLikeDate literal then
    ((DateLiteral.parse literal).map (date key op)).mapError .literal
  else ((units.parseLiteral literal).map (quantity key op)).mapError .literal

/-- The predicate of a condition. -/
def ofCondition (units : UnitTable) : Query.Condition → Except CompileError Predicate
  | .hasKey key => .ok (hasKey key)
  | .lacksKey key => .ok (lacksKey key)
  | .equals key value => .ok (equals key value)
  | .notEquals key value => .ok (notEquals key value)
  | .matchesAny key texts => (patterns texts).map (matchesAny key)
  | .matchesNone key texts => (patterns texts).map (matchesNone key)
  | .compares key op literal => comparison units key op literal
  | .hasKeyLike texts => (keys texts).map hasKeyLike
  | .lacksKeyLike texts => (keys texts).map lacksKeyLike
  | .hasTagLike keyTexts texts => do return hasTagLike (← keys keyTexts) (← patterns texts)
  | .aged age literal => ((DateLiteral.parse literal).map (aged age)).mapError .literal

end Predicate

end TagQuery
