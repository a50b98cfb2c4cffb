import TagQuery.Yaml.Tag

/-!
# Directives

A line that starts with a percent sign speaks about the document after it: it names the version of
YAML, or declares the prefix of a handle. Lines that say something else are passed over.
-/

namespace TagQuery.Yaml

/-- A directive. -/
inductive Directive where
  | version
  | tag (handle replacement : String)
  | other
  deriving DecidableEq, Repr

namespace Directive

/-- What follows a number of at most nine digits. -/
def afterNumber? (cs : List Char) : Option (List Char) :=
  let n := (cs.takeWhile Text.isDigit).length
  if 1 ≤ n ∧ n ≤ 9 then some (cs.drop n) else none

/-- What follows the number of a version, given what follows its directive's name. -/
def afterVersion? (cs : List Char) : Option (List Char) := do
  match ← afterNumber? (cs.dropWhile isBlank) with
  | '.' :: cs => afterNumber? cs
  | _ => none

/-- The prefix at the front of a text, and the rest. Its first character is an exclamation mark or
one of a tag. -/
def replacement? (cs : List Char) : Option (List Char × List Char) :=
  match cs with
  | [] => none
  | c :: _ =>
    if c = '!' || isTagCharacter c then Tag.uri? isUriCharacter (cs.length + 1) cs else none

/-- The handle and the prefix that a directive declares, given what follows its name, and the
rest. -/
def declaration? (cs : List Char) : Option (Directive × List Char) := do
  let (handle, cs) ← Tag.handle? (cs.dropWhile isBlank)
  if !(Tag.isClosed handle || handle.length = 1) then none
  else
    let (replacement, rest) ← replacement? (cs.dropWhile isBlank)
    if atWordEnd rest then return (tag (.ofList handle) (.ofList replacement), rest) else none

/-- The directive at the front of a text, given what follows the percent sign, and the rest. -/
def scan? (cs : List Char) : Option (Directive × List Char) :=
  let name := cs.takeWhile isNameCharacter
  let rest := cs.drop name.length
  if name.isEmpty || !atWordEnd rest then none
  else match String.ofList name with
    | "YAML" => (afterVersion? rest).map (version, ·)
    | "TAG" => declaration? rest
    | _ => some (other, rest.dropWhile (· != '\n'))

end Directive

end TagQuery.Yaml
