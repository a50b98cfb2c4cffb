import TagQuery.Yaml.Cursor

/-!
# Tags

A tag names the type of a node. It is written in full between angle brackets, or as a handle and a
suffix, where the handle stands for a prefix: `!!` for that of the standard types, others for what a
directive of the document says. A handle between two exclamation marks has to be declared, while a
tag with a single one is local to the document and means itself.
-/

namespace TagQuery.Yaml

/-- A tag as it is written, or with the prefix in place of its handle. -/
structure Tag where
  handle : String
  suffix : String
  deriving DecidableEq, Repr

namespace Tag

/-- The prefix of the standard types. -/
def standard : String := "tag:yaml.org,2002:"

/-! ## URIs -/

/-- The value of a byte that is written by a percent sign and two digits, and the rest. -/
def byte? : List Char → Option (Nat × List Char)
  | '%' :: a :: b :: cs => (Text.ofHex? [a, b]).map (·, cs)
  | _ => none

/-- How many bytes follow the first byte of a character. -/
def trailCount? (byte : Nat) : Option Nat :=
  if byte < 0x80 then some 0
  else if byte < 0xC0 then none
  else if byte < 0xE0 then some 1
  else if byte < 0xF0 then some 2
  else if byte < 0xF8 then some 3
  else none

/-- The number that bytes after the first ones write, one after the other, and the rest. -/
def trail? (code : Nat) : Nat → List Char → Option (Nat × List Char)
  | 0, cs => some (code, cs)
  | n + 1, cs => do
    let (byte, cs) ← byte? cs
    if byte / 0x40 = 2 then trail? (0x100 * code + byte) n cs else none

/-- The character whose code is the number that escaped bytes write, and the rest. -/
def escaped? (cs : List Char) : Option (Char × List Char) := do
  let (byte, cs) ← byte? cs
  let (code, cs) ← trail? byte (← trailCount? byte) cs
  if code.isValidChar then return (.ofNat code, cs) else none

/-- The longest stretch of characters with `p` at the front of a text, with escaped ones decoded,
and the rest. -/
def uri? (p : Char → Bool) : Nat → List Char → Option (List Char × List Char)
  | 0, _ => none
  | _ + 1, [] => some ([], [])
  | fuel + 1, c :: cs =>
    if !p c then some ([], c :: cs)
    else do
      let (c, cs) ← if c = '%' then escaped? (c :: cs) else some (c, cs)
      let (front, rest) ← uri? p fuel cs
      return (c :: front, rest)

/-! ## Tags of nodes -/

/-- The handle at the front of a text: an exclamation mark, letters and digits, and another
exclamation mark if there is one; and the rest. -/
def handle? : List Char → Option (List Char × List Char)
  | '!' :: cs =>
    let name := cs.takeWhile isNameCharacter
    match cs.drop name.length with
    | '!' :: rest => some ('!' :: name ++ ['!'], rest)
    | rest => some ('!' :: name, rest)
  | _ => none

/-- Whether a handle ends with an exclamation mark of its own. -/
def isClosed (handle : List Char) : Bool := 2 ≤ handle.length && handle.getLast? == some '!'

/-- The tag in full at the front of a text, given what follows its opening bracket, and the rest. -/
def verbatim? (cs : List Char) : Option (Tag × List Char) := do
  match ← uri? isUriCharacter (cs.length + 1) cs with
  | (suffix, '>' :: rest) => return (⟨"", .ofList suffix⟩, rest)
  | _ => none

/-- The tag of a handle and a suffix at the front of a text, and the rest. -/
def shorthand? (cs : List Char) : Option (Tag × List Char) := do
  let (handle, rest) ← handle? cs
  let (suffix, rest) ← uri? isTagCharacter (rest.length + 1) rest
  if isClosed handle then
    if suffix.isEmpty then none else return (⟨.ofList handle, .ofList suffix⟩, rest)
  else
    match handle.drop 1 ++ suffix with
    | [] => return (⟨"", "!"⟩, rest)
    | suffix => return (⟨"!", .ofList suffix⟩, rest)

/-- The tag at the front of a text, and the rest. -/
def scan? : List Char → Option (Tag × List Char)
  | '!' :: '<' :: cs => verbatim? cs
  | cs => shorthand? cs

/-! ## Prefixes -/

/-- The prefixes that handles stand for. -/
abbrev Prefixes := List (String × String)

/-- A tag with the prefix in place of its handle. -/
def resolve? (prefixes : Prefixes) (tag : Tag) : Option Tag :=
  match prefixes.lookup tag.handle with
  | some replacement => some { tag with handle := replacement }
  | none =>
    if tag.handle = "!!" then some { tag with handle := standard }
    else if isClosed tag.handle.toList then none
    else some tag

end Tag

end TagQuery.Yaml
