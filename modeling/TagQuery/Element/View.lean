import TagQuery.Element.Basic

/-!
# Views of elements

Filters ask an element for its kind, its stamp and its tags, and nothing else. What answers these
questions is a *view* of an element: a stored element itself, or one that is derived from another
without being stored. Tags are asked for by key, or all in turn in an order that nobody relies on.

The two ways of asking should agree. A view is lawful if it has every key at most once and finds
under a key just the value that turns up there when all tags are walked.
-/

namespace TagQuery

/-- Tags that can be asked for. -/
class TagView (ε : Type) where
  /-- The value under a key. -/
  tag? : ε → String → Option String
  /-- All tags, in no particular order. -/
  tags : ε → List (String × String)

/-- An element that filters can be asked about. -/
class ElementView (ε : Type) extends TagView ε where
  kind : ε → Kind
  id : ε → Int64
  stamp : ε → Option Stamp

/-- Tags under unique keys, each of which is found under its key. -/
class LawfulTagView (ε : Type) [TagView ε] : Prop where
  unique (e : ε) : (TagView.tags e).Pairwise fun a b ↦ a.1 ≠ b.1
  tag?_eq_some_iff (e : ε) (key value : String) :
    TagView.tag? e key = some value ↔ (key, value) ∈ TagView.tags e

/-- The date of the last edit. -/
def ElementView.editDate {ε : Type} [ElementView ε] (e : ε) : Option Date :=
  (stamp e).map (·.date)

/-! ## Elements as views of themselves -/

instance : TagView Tags := ⟨Dictionary.get?, Dictionary.entries⟩

instance : LawfulTagView Tags where
  unique tags := tags.sorted.imp String.ne_of_lt
  tag?_eq_some_iff _ _ _ := Dictionary.mem_entries_iff.symm

/-- Elements are stored ones unless something else is said. -/
@[default_instance]
instance : ElementView Element where
  tag? e := e.tags.get?
  tags e := e.tags.entries
  kind := Element.kind
  id := Element.id
  stamp := Element.stamp

instance : LawfulTagView Element where
  unique e := LawfulTagView.unique e.tags
  tag?_eq_some_iff e := LawfulTagView.tag?_eq_some_iff e.tags

@[simp] theorem ElementView.kind_element (e : Element) : ElementView.kind e = e.kind := rfl

end TagQuery
