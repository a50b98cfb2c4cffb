/-!
# YAML values

A YAML document is a scalar, a sequence or a mapping, and the keys of a mapping are values like any
other. A real number keeps its spelling, so two spellings of one number are different keys.
-/

namespace TagQuery

/-- A value of a YAML document. -/
inductive Yaml where
  | null
  | bool (value : Bool)
  | int (value : Int)
  | real (spelling : String)
  | text (text : String)
  | sequence (items : List Yaml)
  | mapping (entries : List (Yaml × Yaml))
  /-- What has no value: a scalar that does not fit its tag, or an alias within the node that it
  stands for. -/
  | undefined
  deriving BEq, Repr, Inhabited

namespace Yaml

/-- Whether a value is that of a node without one. -/
def isUndefined : Yaml → Bool
  | undefined => true
  | _ => false

/-- The entries of a mapping that keys and values make, one after the other, on top of earlier
entries. No key occurs twice. What has no value is passed over where a key is due, and so is a key
without a value at the end. -/
def pairUp? (entries : List (Yaml × Yaml)) : List Yaml → Option (List (Yaml × Yaml))
  | [] | [_] => some entries.reverse
  | key :: value :: rest =>
    if key.isUndefined then pairUp? entries (value :: rest)
    else if entries.any (·.1 == key) then none
    else pairUp? ((key, value) :: entries) rest

end Yaml

end TagQuery
