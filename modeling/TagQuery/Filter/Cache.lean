import TagQuery.Filter.Basic

/-!
# Caching filters

A cache keeps every filter that was compiled through it, by the text that it came from. Asking again
for the same text gives the same filter; what does not compile is not kept. All filters of one cache
share one table of units.

Filters are values, so whether two answers are one kept filter could not be seen in them. Each kept
filter therefore carries the number of filters that were kept before it.
-/

namespace TagQuery

/-- A filter that a cache keeps. -/
structure KeptFilter where
  filter : Filter
  /-- The number of filters kept before this one, which tells it from all others of its cache. -/
  serial : Nat

/-- The filters compiled so far, by their texts. -/
structure FilterCache where
  units : UnitTable
  entries : Dictionary KeptFilter

namespace FilterCache

/-- A cache without filters. -/
def new (units : UnitTable) : FilterCache := ⟨units, .empty⟩

/-- The number of filters that are kept. -/
def size (c : FilterCache) : Nat := c.entries.size

/-- Whether no filter is kept. -/
def isEmpty (c : FilterCache) : Bool := c.entries.isEmpty

/-- A cache that also keeps a filter. -/
def keep (c : FilterCache) (source : String) (f : KeptFilter) : FilterCache :=
  { c with entries := c.entries.insert source f }

/-- The filter that a text writes, kept or newly compiled, and the cache after that. -/
def getOrCompile (c : FilterCache) (source : String) : Except QueryError KeptFilter × FilterCache :=
  match c.entries.get? source with
  | some f => (.ok f, c)
  | none =>
    match Filter.ofSource c.units source with
    | .ok f => (.ok ⟨f, c.size⟩, c.keep source ⟨f, c.size⟩)
    | .error e => (.error e, c)

/-- The answers to several requests, one after the other, each with the cache after it. -/
def run (c : FilterCache) : List String → List (Except QueryError KeptFilter × FilterCache)
  | [] => []
  | source :: sources => c.getOrCompile source :: run (c.getOrCompile source).2 sources

end FilterCache

end TagQuery
