import TagQuery.Calendar.Stamp
import TagQuery.Dictionary
import TagQuery.Element.Kind

/-!
# Elements

An element of the map has a kind, an identifier of 64 bits, tags, and possibly the stamp of its last
edit. Tags form a dictionary, so an element has every key at most once.

Two elements are the same if their kinds, identifiers and tags agree and their stamps mark the same
moment; the clocks on which the moments were read do not matter.
-/

namespace TagQuery

/-- The tags of an element. -/
abbrev Tags := Dictionary String

/-- An element of the map. -/
structure Element where
  kind : Kind
  id : Int64
  tags : Tags
  stamp : Option Stamp

namespace Element

/-- The date of the last edit. -/
def editDate (e : Element) : Option Date := e.stamp.map (·.date)

/-- Whether two optional stamps are both missing or mark the same moment. -/
def sameMoment : Option Stamp → Option Stamp → Bool
  | none, none => true
  | some s, some t => s.sameInstant t
  | _, _ => false

/-- Whether two elements are the same. -/
def same (e f : Element) : Bool :=
  e.kind == f.kind && e.id == f.id && decide (e.tags = f.tags) && sameMoment e.stamp f.stamp

end Element

end TagQuery
