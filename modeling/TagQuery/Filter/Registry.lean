import TagQuery.Filter.Cache
import TagQuery.Settings.Basic

/-!
# Named filters

The queries that settings name are compiled in the order of their names, through one cache. Checking
them reports on every one; a registry holds them all, and does not exist if one of them is faulty.
-/

namespace TagQuery

/-- What compiling a named query led to. -/
structure CheckReport where
  name : String
  result : Except QueryError KeptFilter

namespace CheckReport

/-- Reports on named queries, compiled through a cache one after the other, and the cache after
that. -/
def ofEntries : List (String × String) → FilterCache → List CheckReport × FilterCache
  | [], cache => ([], cache)
  | (name, source) :: entries, cache =>
    let (result, cache) := cache.getOrCompile source
    let (reports, cache) := ofEntries entries cache
    (⟨name, result⟩ :: reports, cache)

/-- Reports on the named queries of settings. -/
def ofSettings (settings : Settings) (cache : FilterCache) : List CheckReport × FilterCache :=
  ofEntries settings.filters.entries cache

/-- Whether a named query is faulty. -/
def failed (r : CheckReport) : Bool := !r.result.isOk

end CheckReport

/-- A named query that keeps a registry from coming into being. -/
structure RegistryError where
  name : String
  error : QueryError
  deriving DecidableEq, Repr

/-- The fault as it is shown. -/
def RegistryError.message (e : RegistryError) : String := s!"Registry: filter '{e.name}'"

/-- Filters by their names. -/
structure Registry where
  filters : Dictionary KeptFilter

namespace Registry

/-- The filters of named queries, compiled through a cache one after the other. -/
def ofEntries : List (String × String) → FilterCache →
    Except RegistryError (List (String × KeptFilter))
  | [], _ => .ok []
  | (name, source) :: entries, cache =>
    match cache.getOrCompile source with
    | (.error e, _) => .error ⟨name, e⟩
    | (.ok f, cache) => (ofEntries entries cache).map ((name, f) :: ·)

/-- The registry of the named queries of settings. -/
def ofSettings (settings : Settings) (cache : FilterCache) : Except RegistryError Registry :=
  (ofEntries settings.filters.entries cache).map fun entries ↦ ⟨.ofList entries⟩

/-- The filter with a name. -/
def get? (r : Registry) (name : String) : Option KeptFilter := r.filters.get? name

/-- The names, in ascending order. -/
def names (r : Registry) : List String := r.filters.keys

/-- The number of filters. -/
def size (r : Registry) : Nat := r.filters.size

/-- Whether there are no filters. -/
def isEmpty (r : Registry) : Bool := r.filters.isEmpty

end Registry

end TagQuery
