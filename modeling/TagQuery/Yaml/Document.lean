import TagQuery.Yaml.Layout
import TagQuery.Yaml.Scalar

/-!
# Documents

The values of the documents that tokens write. A node may be named by an anchor, and an alias stands
for the last node before it with its name; a name may be given again. Within the node that it names
an alias has no value yet.

Of the directives before a document the last one alone counts.
-/

namespace TagQuery.Yaml

/-- What is left to read, and the nodes and prefixes that are known. -/
structure Reader where
  tokens : List Token
  /-- The names of nodes, the last one first, with their values as far as they are complete. -/
  anchors : List (String × Yaml)
  prefixes : Tag.Prefixes

/-- Reading may fail. -/
abbrev Reading := StateT Reader Option

namespace Reading

/-! ## Tokens -/

/-- The next token. -/
def peek? : Reading (Option Token) := return (← get).tokens.head?

/-- Takes the next token off. -/
def advance : Reading Unit := modify fun r ↦ { r with tokens := r.tokens.drop 1 }

/-- Takes the next token off if it is a given one, and tells whether it was. -/
def accept (t : Token) : Reading Bool := do
  if (← peek?) = some t then
    advance
    return true
  else return false

/-- Takes off the next token, which is a given one. -/
def expect (t : Token) : Reading Unit := do if !(← accept t) then failure

/-- Whether the next token is one of some, or the end. -/
def isAt (tokens : List Token) : Reading Bool := return (← peek?).any tokens.contains

/-! ## Properties of nodes -/

/-- The tag and the anchor of a node, in either order. An anchor is given by the number of those
before it. -/
structure Properties where
  tag : Option Tag
  anchor : Option Nat

/-- Whether there are any properties. -/
def Properties.isEmpty (p : Properties) : Bool := p.tag.isNone && p.anchor.isNone

/-- The tag that is next, if one is. -/
def tag : Reading (Option Tag) := do
  match ← peek? with
  | some (.tag t) =>
    advance
    match t.resolve? (← get).prefixes with
    | some t => return some t
    | none => failure
  | _ => return none

/-- The anchor that is next, if one is. Its name stands for no value yet. -/
def anchor : Reading (Option Nat) := do
  match ← peek? with
  | some (.anchor name) =>
    advance
    let number := (← get).anchors.length
    modify fun r ↦ { r with anchors := (name, undefined) :: r.anchors }
    return some number
  | _ => return none

/-- The properties that are next. -/
def properties : Reading Properties := do
  match ← anchor with
  | some number => return ⟨← tag, some number⟩
  | none =>
    match ← tag with
    | some t => return ⟨some t, ← anchor⟩
    | none => return ⟨none, none⟩

/-- Gives the anchor among the properties of a node its value. -/
def complete (p : Properties) (value : Yaml) : Reading Yaml := do
  match p.anchor with
  | some number =>
    modify fun r ↦ { r with
      anchors := r.anchors.modify (r.anchors.length - 1 - number) fun (name, _) ↦ (name, value) }
    return value
  | none => return value

/-- The value that a name stands for. -/
def referred (name : String) : Reading Yaml := do
  match (← get).anchors.lookup name with
  | some value => return value
  | none => failure

/-- The mapping of keys and values. -/
def mappingOf (nodes : List Yaml) : Reading Yaml :=
  match pairUp? [] nodes with
  | some entries => return mapping entries
  | none => failure

/-! ## Nodes -/

mutual

/-- A node. In a block it may be a block itself, and as the value of a mapping a sequence that is
not indented. -/
def node (inBlock asValue : Bool) : Nat → Reading Yaml
  | 0 => failure
  | fuel + 1 => do
    match ← peek? with
    | some (.reference name) =>
      advance
      referred name
    | _ =>
      let p ← properties
      complete p (← content inBlock asValue p fuel)

/-- What follows the properties of a node. -/
def content (inBlock asValue : Bool) (p : Properties) : Nat → Reading Yaml
  | 0 => failure
  | fuel + 1 => do
    match ← peek?, inBlock with
    | some (.scalar plain s), _ =>
      advance
      return ofScalar plain p.tag s
    | some .flowSequence, _ =>
      advance
      return sequence (← flowItems true fuel)
    | some .flowMapping, _ =>
      advance
      mappingOf (← flowNodes true fuel)
    | some .blockSequence, true =>
      advance
      return sequence (← blockItems fuel)
    | some .blockMapping, true =>
      advance
      mappingOf (← blockNodes fuel)
    | some .blockEntry, _ =>
      if asValue then return sequence (← flushItems fuel)
      else if p.isEmpty then failure
      else return ofScalar true p.tag ""
    | _, _ => if p.isEmpty then failure else return ofScalar true p.tag ""

/-- The items of a block sequence, up to its end. -/
def blockItems : Nat → Reading (List Yaml)
  | 0 => failure
  | fuel + 1 => do
    if ← accept .blockEnd then return []
    else
      expect .blockEntry
      let item ← if ← isAt [.blockEntry, .blockEnd] then pure null else node true false fuel
      return item :: (← blockItems fuel)

/-- The items of a sequence that is not indented. -/
def flushItems : Nat → Reading (List Yaml)
  | 0 => failure
  | fuel + 1 => do
    if ← accept .blockEntry then
      let item ← if ← isAt [.blockEntry, .key, .value, .blockEnd] then pure null
        else node true false fuel
      return item :: (← flushItems fuel)
    else return []

/-- The keys and values of a block mapping, up to its end. -/
def blockNodes : Nat → Reading (List Yaml)
  | 0 => failure
  | fuel + 1 => do
    if ← accept .blockEnd then return []
    else
      let key ←
        if ← accept .key then
          if ← isAt [.key, .value, .blockEnd] then pure null else node true true fuel
        else if ← isAt [.value] then pure null
        else failure
      let value ←
        if ← accept .value then
          if ← isAt [.key, .value, .blockEnd] then pure null else node true true fuel
        else pure null
      return key :: value :: (← blockNodes fuel)

/-- The items of a flow sequence, up to its closing bracket. -/
def flowItems (isFirst : Bool) : Nat → Reading (List Yaml)
  | 0 => failure
  | fuel + 1 => do
    if ← accept .flowSequenceEnd then return []
    else
      if !isFirst then expect .flowEntry
      if ← accept .flowSequenceEnd then return []
      else
        let item ← if ← accept .key then mappingOf (← flowPair fuel) else node false false fuel
        return item :: (← flowItems false fuel)

/-- The key and the value of an entry without braces. What follows the question mark of a missing
key is passed over. -/
def flowPair : Nat → Reading (List Yaml)
  | 0 => failure
  | fuel + 1 => do
    let key ←
      if ← isAt [.value, .flowEntry, .flowSequenceEnd] then
        advance
        pure null
      else node false false fuel
    let value ←
      if ← accept .value then
        if ← isAt [.flowEntry, .flowSequenceEnd] then pure null else node false false fuel
      else pure null
    return [key, value]

/-- The keys and values of a flow mapping, up to its closing brace. -/
def flowNodes (isFirst : Bool) : Nat → Reading (List Yaml)
  | 0 => failure
  | fuel + 1 => do
    if ← accept .flowMappingEnd then return []
    else
      if !isFirst then expect .flowEntry
      if ← accept .flowMappingEnd then return []
      else
        let announced ← accept .key
        let keyless ← isAt (if announced then [.value, .flowEntry, .flowMappingEnd] else [.value])
        let key ← if keyless then pure null else node false false fuel
        let value ←
          if announced || keyless then
            if ← accept .value then
              if ← isAt [.flowEntry, .flowMappingEnd] then pure null else node false false fuel
            else pure null
          else pure null
        return key :: value :: (← flowNodes false fuel)

end

/-! ## Documents -/

/-- Whether the next token is a directive. -/
def isAtDirective : Reading Bool := return (← peek?) matches some (.directive _)

/-- Takes directives off, of which the last one counts. There is at most one for the version. -/
def directives (versioned : Bool) : Nat → Reading Unit
  | 0 => failure
  | fuel + 1 => do
    match ← peek? with
    | some (.directive d) =>
      if versioned && d == .version then failure
      advance
      modify fun r ↦ { r with
        prefixes := match d with
          | .tag handle replacement => [(handle, replacement)]
          | _ => [] }
      directives (versioned || d == .version) fuel
    | _ => return

/-- The value of a document that is opened by a marker. -/
def explicitDocument (fuel : Nat) : Reading Yaml := do
  directives false fuel
  expect .documentStart
  if (← peek?).isNone || (← isAtDirective) || (← isAt [.documentStart, .documentEnd]) then
    return null
  else node true false fuel

/-- The values of documents. A document that does not follow the marker that ends another one has to
be opened by a marker. -/
def documents (afterEnd : Bool) : Nat → Reading (List Yaml)
  | 0 => failure
  | fuel + 1 => do
    if ← accept .documentEnd then documents afterEnd fuel
    else if (← peek?).isNone then return []
    else
      let isExplicit := (← isAtDirective) || (← isAt [.documentStart]) || !afterEnd
      let value ← if isExplicit then explicitDocument fuel else node true false fuel
      let ended ← accept .documentEnd
      if !ended && (← isAtDirective) then failure
      modify fun r ↦ { r with prefixes := [] }
      return value :: (← documents ended fuel)

end Reading

/-- The values of the documents of a text. -/
def documents? (source : String) : Option (List Yaml) := do
  let tokens ← tokens? source
  let (values, _) ← (Reading.documents true (3 * tokens.length + 3)).run ⟨tokens, [], []⟩
  return values

end TagQuery.Yaml
