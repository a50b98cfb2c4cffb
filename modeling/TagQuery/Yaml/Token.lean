import TagQuery.Yaml.Directive

/-!
# Tokens of YAML

The tokens of a text, in which indentation has become explicit: blocks are opened and closed like
collections in brackets, and every key and every value of a mapping is announced.
-/

namespace TagQuery.Yaml

/-- A token. -/
inductive Token where
  | directive (directive : Directive)
  | documentStart
  | documentEnd
  | blockSequence
  | blockMapping
  | blockEnd
  | blockEntry
  | flowSequence
  | flowSequenceEnd
  | flowMapping
  | flowMappingEnd
  | flowEntry
  | key
  | value
  /-- A node that stands for the one with the anchor of this name. -/
  | reference (name : String)
  | anchor (name : String)
  | tag (tag : Tag)
  /-- A scalar, and whether it is plain. -/
  | scalar (plain : Bool) (text : String)
  deriving DecidableEq, Repr

end TagQuery.Yaml
