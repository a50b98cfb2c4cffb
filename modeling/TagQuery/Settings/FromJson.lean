import TagQuery.Json.Number
import TagQuery.Json.Parser
import TagQuery.Number.Whole
import TagQuery.Settings.Setting

/-!
# Settings in JSON

A number of JSON that a machine word holds counts as a whole number, and every other one as a
floating-point number.
-/

namespace TagQuery.Setting

mutual

/-- A value of JSON as a setting. -/
def ofJson? : Json → Option Setting
  | .null => some .null
  | .bool b => some (.bool b)
  | .number literal =>
    match (Json.wholeOfLiteral? literal).bind Whole.ofInt? with
    | some n => some (.int n)
    | none => (Json.floatOfLiteral? literal).map .float
  | .string body => (Json.decode? body).map fun cs ↦ .text (.ofList cs)
  | .array items => (ofJsonItems? items).map .list
  | .object members => (ofJsonMembers? members).map .tableOf

/-- Items of JSON as settings. -/
def ofJsonItems? : List Json → Option (List Setting)
  | [] => some []
  | item :: items => do return (← ofJson? item) :: (← ofJsonItems? items)

/-- Members of JSON as entries of a table. -/
def ofJsonMembers? : List (List Char × Json) → Option (List (String × Setting))
  | [] => some []
  | (name, value) :: members => do
    let name ← Json.decode? name
    return (.ofList name, ← ofJson? value) :: (← ofJsonMembers? members)

end

/-- How many arrays and objects may lie within each other in settings. -/
def maxJsonDepth : Nat := 127

/-- The value that a text in JSON writes. -/
def ofJsonText? (source : String) : Option Setting := do
  let value ← Json.ofText? source
  if value.depth ≤ maxJsonDepth then ofJson? value else none

end TagQuery.Setting
