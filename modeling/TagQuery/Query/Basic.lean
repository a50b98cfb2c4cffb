import TagQuery.Comparison
import TagQuery.Element.Kind
import TagQuery.Query.Expr

/-!
# Queries

A query selects kinds of elements and may state a condition on them, a boolean expression whose
leaves speak about single tags or about the age of an element. At this stage the values, patterns
and literals of the leaves are texts as written.
-/

namespace TagQuery.Query

/-- Which side of a date the last known check of an element lies on. -/
inductive Age where
  | older
  | newer
  deriving DecidableEq, Repr

namespace Age

/-- The word that opens a condition on the age. -/
def word : Age → String
  | older => "older"
  | newer => "newer"

/-- The age condition that a word opens. -/
def ofWord? : String → Option Age
  | "older" => some older
  | "newer" => some newer
  | _ => none

end Age

/-- A condition of a query. -/
inductive Condition where
  | hasKey (key : String)
  | lacksKey (key : String)
  | equals (key value : String)
  | notEquals (key value : String)
  | matchesAny (key : String) (patterns : List String)
  | matchesNone (key : String) (patterns : List String)
  | compares (key : String) (op : Comparison) (literal : String)
  | hasKeyLike (patterns : List String)
  | lacksKeyLike (patterns : List String)
  | hasTagLike (keyPatterns patterns : List String)
  | aged (age : Age) (literal : String)
  deriving DecidableEq, Repr

end TagQuery.Query

namespace TagQuery

/-- A query: the kinds that it selects and the condition that it states on them, if any. -/
structure Query where
  kinds : KindSet
  condition : Option (Query.Expr Query.Condition)
  deriving Repr

end TagQuery
