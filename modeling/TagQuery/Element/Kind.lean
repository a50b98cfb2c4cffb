/-!
# Kinds of elements

An element of the map is a node, a way or a relation. A query selects some of the three; a
selection is a set of kinds, listed in this order wherever it is shown.
-/

namespace TagQuery

/-- The kind of an element. -/
inductive Kind where
  | node
  | way
  | relation
  deriving DecidableEq, Repr

namespace Kind

/-- All kinds, in the order in which they are listed. -/
def all : List Kind := [node, way, relation]

/-- The name of a kind in a record. -/
def name : Kind → String
  | node => "node"
  | way => "way"
  | relation => "relation"

/-- The name of a kind in a listing of variants. -/
def capitalizedName : Kind → String
  | node => "Node"
  | way => "Way"
  | relation => "Relation"

/-- The word of a query that selects a kind. -/
def keyword : Kind → String
  | node => "nodes"
  | way => "ways"
  | relation => "relations"

/-- The kind with a name, in exactly the spelling of records. -/
def ofName? : String → Option Kind
  | "node" => some node
  | "way" => some way
  | "relation" => some relation
  | _ => none

/-- The kind that a text names by its name or initial, in either case of the ASCII letters. -/
def ofText? (text : String) : Option Kind :=
  match String.ofList (text.toList.map Char.toLower) with
  | "node" | "n" => some node
  | "way" | "w" => some way
  | "relation" | "r" => some relation
  | _ => none

/-- What is reported of a text that names no kind. -/
def invalidMessage (text : String) : String := s!"invalid element type: {text}"

theorem ofName?_name (k : Kind) : ofName? k.name = some k := by cases k <;> rfl

theorem mem_all (k : Kind) : k ∈ all := by cases k <;> decide

end Kind

/-- A set of kinds. -/
structure KindSet where
  nodes : Bool
  ways : Bool
  relations : Bool
  deriving DecidableEq, Repr

namespace KindSet

/-- The set without kinds. -/
def empty : KindSet := ⟨false, false, false⟩

/-- The set of all kinds. -/
def full : KindSet := ⟨true, true, true⟩

/-- Whether a kind is in a set. -/
def contains (s : KindSet) : Kind → Bool
  | .node => s.nodes
  | .way => s.ways
  | .relation => s.relations

/-- A set with one more kind. -/
def insert (s : KindSet) : Kind → KindSet
  | .node => { s with nodes := true }
  | .way => { s with ways := true }
  | .relation => { s with relations := true }

/-- Whether a set has no kinds. -/
def isEmpty (s : KindSet) : Bool := s == empty

/-- The kinds of a set, in their order. -/
def toList (s : KindSet) : List Kind := Kind.all.filter s.contains

/-- The set of some kinds. -/
def ofList (kinds : List Kind) : KindSet := kinds.foldl insert empty

@[simp] theorem contains_insert (s : KindSet) (k l : Kind) :
    (s.insert k).contains l = (decide (l = k) || s.contains l) := by
  cases k <;> cases l <;> rfl

theorem contains_ofList (kinds : List Kind) (k : Kind) :
    (ofList kinds).contains k = decide (k ∈ kinds) := by
  have hfoldl : ∀ s : KindSet,
      (kinds.foldl insert s).contains k = (decide (k ∈ kinds) || s.contains k) := by
    induction kinds with
    | nil => simp
    | cons l kinds ih =>
      intro s
      rw [List.foldl_cons, ih, contains_insert]
      by_cases hk : k = l <;> simp [hk]
  have hempty : empty.contains k = false := by cases k <;> rfl
  rw [ofList, hfoldl, hempty, Bool.or_false]

theorem isEmpty_eq_false {s : KindSet} {k : Kind} (h : s.contains k = true) :
    s.isEmpty = false := by
  rw [isEmpty, beq_eq_false_iff_ne]
  rintro rfl
  cases k <;> cases h

theorem ext_contains {s t : KindSet} (h : ∀ k, s.contains k = t.contains k) : s = t := by
  obtain ⟨a, b, c⟩ := s
  obtain ⟨a', b', c'⟩ := t
  have h₁ : a = a' := h .node
  have h₂ : b = b' := h .way
  have h₃ : c = c' := h .relation
  rw [h₁, h₂, h₃]

/-- A set is the set of its own kinds. -/
theorem ofList_toList (s : KindSet) : ofList s.toList = s := by
  obtain ⟨a, b, c⟩ := s
  cases a <;> cases b <;> cases c <;> rfl

/-- A set as a list of keywords. -/
def describe (s : KindSet) : String := ", ".intercalate (s.toList.map Kind.keyword)

/-- A set in braces, by the capitalized names of its kinds. -/
def braced (s : KindSet) : String :=
  "\x7b" ++ ", ".intercalate (s.toList.map Kind.capitalizedName) ++ "\x7d"

end KindSet

end TagQuery
