import TagQuery.Element.Basic
import TagQuery.Json.Parser
import TagQuery.Number.Whole

/-!
# Records

A record is one element in a line of JSON. It is an object with the members `type` and `id`, and
optionally `tags` and `timestamp`; other members are skipped, whatever their values. Each of the
four may be given once. The four values may also stand in this order in an array, from whose end the
optional ones may be left out.

A written record is an object with its members in the order above and without blanks; the tags are
always written, and the time stamp if there is one. The order of the tags is up to the writer; where
a listing has to be the same every time, it is that of their keys. Each record is a line of its own.
A stamp of a year before 0 has no written form, and an element with such a stamp cannot be written.
-/

namespace TagQuery.Record

/-! ## Reading -/

/-- The kind that a value names: by a string, or by the name of an object's only member if that
member is null. -/
def kindOf? : Json → Option Kind
  | .object [(name, .null)] => (Json.decode? name).bind fun cs ↦ Kind.ofName? (.ofList cs)
  | value => value.text?.bind Kind.ofName?

/-- The identifier that a value is. -/
def idOf? (value : Json) : Option Int64 :=
  value.whole?.bind fun n ↦ if Whole.fits n then some (.ofInt n) else none

/-- The tags that a value is: an object of strings. Of members with one name the last counts. -/
def tagsOf? : Json → Option Tags
  | .object members => do
    let members ← Json.namedMembers? members
    let entries ← members.mapM fun (key, value) ↦ value.text?.map (key, ·)
    return .ofList entries
  | _ => none

/-- The time stamp that a value is, or its absence. -/
def stampOf? : Json → Option (Option Stamp)
  | .null => some none
  | value => (value.text?.bind Stamp.ofText?).map some

/-- The element with the given parts, of which the last two may be missing. -/
def ofParts? (kind id : Json) (tags stamp : Option Json) : Option Element := do
  return {
    kind := ← kindOf? kind
    id := ← idOf? id
    tags := ← (tags.map tagsOf?).getD (some .empty)
    stamp := ← (stamp.map stampOf?).getD (some none) }

/-- The names of a record's members. -/
def fieldNames : List String := ["type", "id", "tags", "timestamp"]

/-- Whether none of the given names occurs twice among the members of an object. -/
def namesOnce (names : List String) (members : List (String × Json)) : Bool :=
  names.all fun name ↦ (members.filter (·.1 == name)).length ≤ 1

/-- The value of a member. -/
def member? (members : List (String × Json)) (name : String) : Option Json :=
  (members.find? (·.1 == name)).map (·.2)

/-- The element that a value of JSON is. -/
def ofJson? : Json → Option Element
  | .object members => do
    let members ← Json.namedMembers? members
    if namesOnce fieldNames members then
      ofParts? (← member? members "type") (← member? members "id") (member? members "tags")
        (member? members "timestamp")
    else none
  | .array [kind, id] => ofParts? kind id none none
  | .array [kind, id, tags] => ofParts? kind id (some tags) none
  | .array [kind, id, tags, stamp] => ofParts? kind id (some tags) (some stamp)
  | _ => none

/-- The element that a line writes. -/
def ofLine? (line : List Char) : Option Element := (Json.ofChars? line).bind ofJson?

/-! ## Writing -/

/-- A member of a written object. -/
def writeMember (name : String) (value : List Char) : List Char :=
  Json.quote name ++ ':' :: value

/-- Members between braces. -/
def writeObject (members : List (List Char)) : List Char :=
  '\x7b' :: List.intercalate [','] members ++ ['\x7d']

/-- The tags of a written record, in the order in which they are given. -/
def writeTags (tags : List (String × String)) : List Char :=
  writeObject (tags.map fun (key, value) ↦ writeMember key (Json.quote value))

/-- A whole number. -/
def writeId (id : Int64) : List Char :=
  (if id < 0 then ['-'] else []) ++ Nat.toDigits 10 id.toInt.natAbs

/-- An element as a line, without the line's end, and with its tags in a given order. -/
def writeOrdered (e : Element) (tags : List (String × String)) : List Char :=
  writeObject <|
    [writeMember "type" (Json.quote e.kind.name), writeMember "id" (writeId e.id),
      writeMember "tags" (writeTags tags)] ++
    (e.stamp.map fun s ↦ writeMember "timestamp" (Json.quote s.toText)).toList

/-- An element as a line, without the line's end. -/
def write (e : Element) : List Char := writeOrdered e e.tags.entries

/-- An element as a line, without the line's end. -/
def writeLine (e : Element) : String := .ofList (write e)

/-- What is put out for an element, if its stamp has a written form: a line with its end. -/
def emit? (e : Element) (tags : List (String × String)) : Option (List Char) :=
  if e.stamp.all Stamp.isWritable then some (writeOrdered e tags ++ ['\n']) else none

end TagQuery.Record
