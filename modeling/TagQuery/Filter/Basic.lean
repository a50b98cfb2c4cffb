import TagQuery.Element.Lifecycle
import TagQuery.Filter.Evaluation

/-!
# Filters

A filter is a compiled query with the text that it came from and the units by which it reads tag
values. It accepts an element on a given day if it selects the element's kind and the condition, if
there is one, holds.

An element may also be accepted for what it would be outside a lifecycle state. A filter is asked
about that view as it is asked about any element.
-/

namespace TagQuery

/-- What is wrong with the text of a query. -/
inductive QueryError where
  | parse (error : Query.ParseError)
  | compile (error : CompileError)
  deriving DecidableEq, Repr

/-- The fault as it is shown. -/
def QueryError.message : QueryError → String
  | parse e => e.message
  | compile e => s!"compile error: {e.message}"

/-- A compiled query. -/
structure Filter where
  source : String
  kinds : KindSet
  condition : Option (Query.Expr Predicate)
  units : UnitTable

namespace Filter

/-- The condition of a query with its leaves compiled. -/
def compileCondition (units : UnitTable) :
    Option (Query.Expr Query.Condition) → Except CompileError (Option (Query.Expr Predicate))
  | none => .ok none
  | some e => (e.traverse (Predicate.ofCondition units)).map some

/-- The filter of a query that was read from a text. -/
def ofQuery (units : UnitTable) (source : String) (query : Query) : Except CompileError Filter :=
  (compileCondition units query.condition).map (⟨source, query.kinds, ·, units⟩)

/-- The filter that a text writes. -/
def ofSource (units : UnitTable) (source : String) : Except QueryError Filter :=
  match Query.parse source with
  | .error e => .error (.parse e)
  | .ok query => (ofQuery units source query).mapError .compile

/-- The predicates of a filter, from left to right. -/
def leaves (f : Filter) : List Predicate := (f.condition.map (·.leaves)).getD []

/-- Whether the answers of a filter may depend on the date. -/
def usesDates (f : Filter) : Bool := f.leaves.any (·.usesDates)

/-- A filter as a listing of its parts. -/
def describe (f : Filter) : String :=
  "ElementFilter \x7b source: " ++ Text.quoted f.source ++ ", types: " ++ f.kinds.braced ++
    ", leaves: " ++ toString f.leaves.length ++ " \x7d"

/-! ## Asking -/

section Asking

variable {ε : Type} [ElementView ε]

/-- Whether a filter accepts an element on a given day, and what it looked at. -/
def examine (f : Filter) (today : Date) (e : ε) : Traced Bool :=
  if f.kinds.contains (ElementView.kind e) then
    match f.condition with
    | none => .pure true
    | some c => c.evaluate (Predicate.evaluate f.units today e)
  else .pure false

/-- Whether a filter accepts an element on a given day. -/
def accepts (f : Filter) (today : Date) (e : ε) : Bool := (f.examine today e).value

/-- The date that a filter goes by if none is given: that of the clock, which is not read if no
answer depends on it. -/
def clockDate {m : Type → Type} [Monad m] (f : Filter) (clock : m Date) : m Date :=
  if f.usesDates then clock else return .first

/-- Whether a filter accepts an element on the day that the clock shows. -/
def acceptsNow {m : Type → Type} [Monad m] (f : Filter) (clock : m Date) (e : ε) : m Bool := do
  if f.kinds.contains (ElementView.kind e) then return f.accepts (← f.clockDate clock) e
  else return false

variable [LawfulTagView ε]

/-- Whether a filter accepts what an element would be outside a lifecycle state that it is in. -/
def acceptsView (f : Filter) (today : Date) (lifecycle : String) (e : ε) : Bool :=
  (LifecycleView.of? lifecycle e).any (f.accepts today)

/-- Whether a filter accepts an element, or what it would be outside a lifecycle state. -/
def acceptsEither (f : Filter) (today : Date) (lifecycle : Option String) (e : ε) : Bool :=
  f.accepts today e || lifecycle.any (f.acceptsView today · e)

end Asking

end Filter

end TagQuery
