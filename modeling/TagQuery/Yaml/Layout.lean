import TagQuery.Yaml.Block
import TagQuery.Yaml.Quoted
import TagQuery.Yaml.Token

/-!
# Layout

Reading the tokens of a text while keeping account of its indentation. What makes this more than a
list of lexemes is that a key is known only by the colon after it: whatever may turn out to be a key
is remembered, and when its colon comes the tokens that announce it are put in front of it.

## Indentation

Each block has a column, and ends with the first token that is set further left. Behind the colon of
an entry, and around brackets in a block, lines have to be indented by one more column, whatever
they hold; that column is *soft*, for it opens no block, and a plain or a block scalar drops it.

## Keys

A key stands on one line and is at most 1024 characters long. It is *required* where a line of a
block mapping starts, since nothing else can stand there. Within brackets a key may be of any length
and may span lines, and every bracket remembers a key of its own.
-/

namespace TagQuery.Yaml

/-- What may turn out to be a key. -/
structure Candidate where
  /-- The number of tokens before it. -/
  index : Nat
  line : Nat
  column : Nat
  offset : Nat
  required : Bool

/-- A column that lines are indented to: that of a block, or a soft one, with the column outside. -/
structure Margin where
  outer : Int
  isBlock : Bool

/-- The largest distance between a key and its colon. -/
def Candidate.maxLength : Nat := 1024

/-- Whether what may be a key can no longer be one when its colon is at a cursor. -/
def Candidate.isStale (key : Candidate) (colon : Cursor) : Bool :=
  key.line < colon.line || key.offset + maxLength < colon.offset

/-- How far a text has been read. -/
structure Layout where
  cursor : Cursor
  tokens : Array Token
  /-- The column of the innermost block, or one to the right of it while a soft column counts. -/
  indent : Int
  /-- The margins around the cursor, the innermost one first. -/
  margins : List Margin
  /-- The number of brackets around the cursor. -/
  depth : Nat
  /-- What may be a key, for each bracket and for the blocks around them. -/
  candidates : List (Option Candidate)
  keyAllowed : Bool
  /-- Where a colon needs no blank behind it. -/
  adjacent : Nat
  /-- Whether braces, or a question mark in brackets, have announced a mapping. -/
  announced : Bool
  /-- For every square bracket around the cursor whether an entry without braces is open in it. -/
  pairs : List Bool

namespace Layout

/-- The state before a text. -/
def start (cs : List Char) : Layout where
  cursor := .start cs
  tokens := #[]
  indent := -1
  margins := []
  depth := 0
  candidates := [none]
  keyAllowed := true
  adjacent := 0
  announced := false
  pairs := []

/-- Whether the cursor is within brackets. -/
def inFlow (l : Layout) : Bool := l.depth != 0

/-- With one more token. -/
def push (l : Layout) (t : Token) : Layout := { l with tokens := l.tokens.push t }

/-- With a token in front of the one at an index. -/
def insertAt (l : Layout) (index : Nat) (t : Token) : Layout :=
  { l with tokens := l.tokens.insertIdxIfInBounds index t }

/-- With a token of `n` characters at the cursor, and the cursor behind it. -/
def pushSkip (l : Layout) (n : Nat) (t : Token) : Layout :=
  { l with cursor := l.cursor.skip n }.push t

/-! ## Indentation -/

/-- Whether the innermost margin is that of a block. -/
def inBlock (l : Layout) : Bool := l.margins.head?.any (·.isBlock)

/-- Without the margins to the right of a column, whose blocks end. Brackets know no margins. -/
def closeTo (column : Int) (l : Layout) : Layout :=
  if l.inFlow then l else go l.margins l
where
  /-- Goes through margins from the innermost one on. -/
  go : List Margin → Layout → Layout
    | [], l => { l with margins := [] }
    | m :: ms, l =>
      if column < l.indent then
        let l := { l with indent := m.outer }
        go ms (if m.isBlock then l.push .blockEnd else l)
      else { l with margins := m :: ms }

/-- Without soft margins on top of that of a block. -/
def harden (l : Layout) : Layout := go l.margins l
where
  /-- Goes through margins from the innermost one on. -/
  go : List Margin → Layout → Layout
    | [], l => { l with margins := [] }
    | m :: ms, l =>
      if m.isBlock then { l with margins := m :: ms } else go ms { l with indent := m.outer }

/-- With a soft margin, unless the cursor is within brackets, in no block, or there is one. -/
def soften (l : Layout) : Layout :=
  if !l.inFlow && l.inBlock then
    { l with margins := ⟨l.indent, false⟩ :: l.margins, indent := l.indent + 1 }
  else l

/-- With a block at a column, opened by a token at an index, unless there is one. A soft margin that
is not to the right of it is dropped first. -/
def openBlock (column : Int) (index : Nat) (t : Token) (l : Layout) : Layout :=
  if l.inFlow then l
  else
    let l := match l.margins with
      | m :: ms =>
        if l.indent ≤ column && !m.isBlock then { l with indent := m.outer, margins := ms } else l
      | [] => l
    if l.indent < column then
      { l with margins := ⟨l.indent, true⟩ :: l.margins, indent := column }.insertAt index t
    else l

/-! ## Keys -/

/-- What may be a key at this depth. -/
def candidate? (l : Layout) : Option Candidate := l.candidates.head?.join

/-- With another candidate for a key at this depth. -/
def setCandidate (candidate : Option Candidate) (l : Layout) : Layout :=
  { l with candidates := candidate :: l.candidates.drop 1 }

/-- With what starts at the cursor as a candidate, if a key may stand there. -/
def offerKey (l : Layout) : Layout :=
  if l.keyAllowed then
    l.setCandidate <| some {
      index := l.tokens.size, line := l.cursor.line, column := l.cursor.column
      offset := l.cursor.offset
      required := !l.inFlow && l.indent == l.cursor.column && l.inBlock }
  else l

/-- Without the candidate at this depth, which may not be required. -/
def dropKey? (l : Layout) : Option Layout :=
  if l.candidate?.any (·.required) then none else some (l.setCandidate none)

/-- Without a candidate that can no longer be a key, which may not be required. -/
def dropStaleKey? (l : Layout) : Option Layout :=
  if !l.inFlow && l.candidate?.any (·.isStale l.cursor) then l.dropKey? else some l

/-- With keys allowed or not. -/
def allowKey (allowed : Bool) (l : Layout) : Layout := { l with keyAllowed := allowed }

/-! ## Between tokens -/

/-- Whether the cursor is at a tab that stands for indentation within a block. -/
def atTabIndent (l : Layout) : Bool :=
  l.cursor.peek? == some '\t' && !l.margins.isEmpty && l.cursor.fresh && l.cursor.column < l.indent

/-- With the cursor at the next token, or at the end of the text. A line that is indented by a tab
has to be empty. -/
def skipGap? : Nat → Layout → Option Layout
  | 0, _ => none
  | fuel + 1, l =>
    match l.cursor.peek? with
    | some '\n' =>
      skipGap? fuel { l with
        cursor := l.cursor.nextLine, keyAllowed := l.keyAllowed || !l.inFlow }
    | some '#' => skipGap? fuel { l with cursor := l.cursor.skipLine }
    | some c =>
      if l.atTabIndent then do
        let cursor ← l.cursor.skipTrailer?
        if cursor.isAtLineEnd then skipGap? fuel { l with cursor } else none
      else if isBlank c then skipGap? fuel { l with cursor := l.cursor.skipBlank }
      else some l
    | none => some l

/-- With the cursor at the next token. -/
def next? (l : Layout) : Option Layout := skipGap? (l.cursor.rest.length + 1) l

/-- With the cursor behind the blanks and the comment after a token. -/
def trailed? (l : Layout) : Option Layout :=
  l.cursor.skipTrailer?.map fun cursor ↦ { l with cursor }

/-! ## Documents -/

/-- Behind a marker that opens or closes a document. -/
def marker? (t : Token) (l : Layout) : Option Layout :=
  ((l.closeTo (-1)).dropKey?).map fun l ↦ (l.allowKey false).pushSkip 3 t

/-- Behind the marker that closes a document, which is alone on its line. -/
def documentEnd? (l : Layout) : Option Layout := do
  let l ← (← l.marker? .documentEnd).trailed?
  if l.cursor.isAtLineEnd then return l else none

/-- Behind a directive, which is alone on its line. -/
def directive? (l : Layout) : Option Layout := do
  let l ← (l.closeTo (-1)).dropKey?
  let (directive, rest) ← Directive.scan? (l.cursor.rest.drop 1)
  let cursor ← (l.cursor.skip (l.cursor.rest.length - rest.length)).skipTrailer?
  if cursor.isAtLineEnd then
    return { l.allowKey false with cursor := cursor.nextLine }.push (.directive directive)
  else none

/-- At the end of the text, where all blocks end. -/
def finish? (l : Layout) : Option Layout :=
  if l.candidates.any (·.any (·.required)) then none else some (l.closeTo (-1))

/-! ## Brackets -/

/-- The largest number of brackets around a place. -/
def maxDepth : Nat := 255

/-- Behind an opening bracket. -/
def openFlow? (t : Token) (l : Layout) : Option Layout :=
  let l := l.offerKey.soften
  if l.depth = maxDepth then none
  else
    let l := { l with depth := l.depth + 1, candidates := none :: l.candidates, keyAllowed := true }
    let l := if t = .flowMapping then { l with announced := true }
      else { l with pairs := false :: l.pairs }
    (l.pushSkip 1 t).trailed?

/-- With the entry without braces closed that is open in the innermost square brackets. -/
def closePair (l : Layout) : Layout :=
  match l.pairs with
  | true :: pairs => { l with pairs := false :: pairs, announced := false }.push .flowMappingEnd
  | _ => l

/-- Behind a closing bracket. -/
def closeFlow? (t : Token) (l : Layout) : Option Layout := do
  let l ← l.dropKey?
  let l :=
    if l.inFlow then { l with depth := l.depth - 1, candidates := l.candidates.drop 1 } else l
  let l := l.allowKey false
  let l := if t = .flowSequenceEnd then
      let l := l.closePair
      { l with pairs := l.pairs.drop 1 }
    else l
  let l ← (l.pushSkip 1 t).trailed?
  return if l.inFlow then { l with adjacent := l.cursor.offset } else l

/-- Behind a comma. -/
def flowEntry? (l : Layout) : Option Layout := do
  let l ← l.dropKey?
  ((l.allowKey true).closePair.pushSkip 1 .flowEntry).trailed?

/-! ## Entries -/

/-- Whether a tab between two hyphens of a line takes the place of a space. -/
def isTabbedEntry (c : Cursor) : Bool :=
  c.blanks.tab && match (c.rest.dropWhile isBlank) with
    | '-' :: cs => atWordEnd cs
    | _ => false

/-- Behind the hyphen of an entry. -/
def blockEntry? (l : Layout) : Option Layout :=
  if l.inFlow || !l.keyAllowed then none
  else do
    let column := l.cursor.column
    let l := { l with cursor := l.cursor.skip 1 }
    let l := l.openBlock column l.tokens.size .blockSequence
    if isTabbedEntry l.cursor then none
    else
      let l ← l.trailed?
      let l := if l.cursor.peek?.any (fun c ↦ c == '\n' || isFlowIndicator c) then l.soften else l
      return (((← l.dropKey?).allowKey true).push .blockEntry)

/-- What follows the question mark of a key: at least one space or line break. -/
def afterQuestion? : Nat → Bool → Layout → Option Layout
  | 0, _, _ => none
  | fuel + 1, spaced, l =>
    match l.cursor.peek? with
    | some ' ' => afterQuestion? fuel true { l with cursor := l.cursor.skipBlank }
    | some '\n' =>
      afterQuestion? fuel true { l with
        cursor := l.cursor.nextLine, keyAllowed := l.keyAllowed || !l.inFlow }
    | some '#' => afterQuestion? fuel spaced { l with cursor := l.cursor.skipLine }
    | some '\t' => none
    | _ => if spaced then some l else none

/-- Behind the question mark of a key. -/
def key? (l : Layout) : Option Layout :=
  if !l.inFlow && !l.keyAllowed then none
  else do
    let l := if l.inFlow then { l with announced := true }
      else l.openBlock l.cursor.column l.tokens.size .blockMapping
    let l := (← l.dropKey?).allowKey !l.inFlow
    let l := { l with cursor := l.cursor.skip 1 }
    return (← afterQuestion? (l.cursor.rest.length + 1) false l).push .key

/-- The cursor behind a colon and tabs, which may not stand in for the space before a word. -/
def afterColon? (c : Cursor) : Option Cursor :=
  if c.peek? != some '\t' then some c
  else do
    let spaced := c.blanks.space
    let c ← c.skipTrailer?
    if !spaced && c.peek?.any isNameCharacter then none else return c

/-- Behind the colon of a value whose key is known by it. -/
def valueOf? (pair : Bool) (line : Nat) (key : Candidate) (l : Layout) : Option Layout :=
  if pair && key.line < line then none
  else
    let l := l.insertAt key.index .key
    let l := if pair then l.insertAt key.index .flowMapping else l
    let l := (l.openBlock key.column key.index .blockMapping).soften
    some ((l.setCandidate none).allowKey false)

/-- Behind the colon of a value whose key was announced or is missing. -/
def valueAlone? (pair : Bool) (column : Nat) (l : Layout) : Option Layout :=
  let l := if pair then l.push .flowMapping else l
  if l.inFlow then some (l.allowKey false)
  else if !l.keyAllowed then none
  else some ((l.openBlock column l.tokens.size .blockMapping).soften.allowKey true)

/-- Behind the colon of a value. In square brackets, where no mapping is announced, it makes an
entry without braces of what is before and behind it. -/
def value? (l : Layout) : Option Layout := do
  let colon := l.cursor
  let pair := !l.pairs.isEmpty && !l.announced
  let l := if pair then { l with pairs := true :: l.pairs.drop 1 } else l
  let cursor ← afterColon? (colon.skip 1)
  let l := { l with cursor }
  let l ← match l.candidate? with
    | some key => l.valueOf? pair colon.line key
    | none => l.valueAlone? pair colon.column
  return l.push .value

/-! ## Nodes -/

/-- Behind an anchor or an alias. -/
def anchor? (refers : Bool) (l : Layout) : Option Layout :=
  let l := l.offerKey.allowKey false
  let (name, cursor) := (l.cursor.skip 1).takeWhile isAnchorCharacter
  if name.isEmpty then none
  else
    let name := String.ofList name
    some ({ l with cursor }.push (if refers then .reference name else .anchor name))

/-- Behind a tag. -/
def tag? (l : Layout) : Option Layout := do
  let l := l.offerKey.allowKey false
  let (tag, rest) ← Tag.scan? l.cursor.rest
  if atWordEnd rest || l.inFlow && atFlowIndicator rest then
    return l.pushSkip (l.cursor.rest.length - rest.length) (.tag tag)
  else none

/-- Behind a plain scalar. Where it ends with its line a key may follow. -/
def plain? (l : Layout) : Option Layout := do
  let l := (l.offerKey.allowKey false).harden
  let (cs, cursor) ← l.cursor.plain? l.inFlow l.indent
  return { l with cursor, keyAllowed := cursor.fresh }.push (.scalar true (.ofList cs))

/-- Behind a quoted scalar and what follows it on its line, or up to the next token. -/
def quoted? (q : Quote) (l : Layout) : Option Layout := do
  let l := l.offerKey.allowKey false
  let (cs, cursor) ← l.cursor.quoted? q l.inFlow l.indent
  let l ← { l with cursor }.next?
  return { l with adjacent := l.cursor.offset }.push (.scalar false (.ofList cs))

/-- Behind a block scalar. -/
def block? (folded : Bool) (l : Layout) : Option Layout := do
  let l := (l.offerKey.allowKey true).harden
  let (cs, cursor) ← l.cursor.block? folded l.indent
  return { l with cursor }.push (.scalar false (.ofList cs))

/-! ## Tokens -/

/-- Whether a colon before a text ends a key. -/
def endsKey (l : Layout) (cs : List Char) : Bool :=
  atWordEnd cs || l.inFlow && (atFlowIndicator cs || l.cursor.offset == l.adjacent)

/-- Whether the colon at the cursor stands too close to a bracket. -/
def crowdsBracket (l : Layout) (cs : List Char) : Bool :=
  l.cursor.offset != l.adjacent && (cs.head? == some '[' || cs.head? == some '\x7b')

/-- Behind the token at the cursor, which is not at the end of the text. -/
def token? (l : Layout) : Option Layout :=
  match l.cursor.rest with
  | [] => none
  | c :: cs =>
    match c with
    | '[' => l.openFlow? .flowSequence
    | '\x7b' => l.openFlow? .flowMapping
    | ']' => l.closeFlow? .flowSequenceEnd
    | '\x7d' => l.closeFlow? .flowMappingEnd
    | ',' => l.flowEntry?
    | '*' => l.anchor? true
    | '&' => l.anchor? false
    | '!' => l.tag?
    | '\'' => l.quoted? .single
    | '"' => l.quoted? .double
    | '-' => if atWordEnd cs then l.blockEntry? else l.plain?
    | '?' => if atWordEnd cs then l.key? else l.plain?
    | ':' =>
      if !l.endsKey cs then l.plain?
      else if !atWordEnd cs && l.crowdsBracket cs then none
      else l.value?
    | '|' => if l.inFlow then l.plain? else l.block? false
    | '>' => if l.inFlow then l.plain? else l.block? true
    | '%' | '@' | '\x60' => none
    | _ => l.plain?

/-- Behind what stands at the start of a line or anywhere else. -/
def lineToken? (l : Layout) : Option Layout :=
  let atStart := l.cursor.column == 0
  if atStart && l.cursor.peek? == some '%' then l.directive?
  else if atStart && atMarker '-' l.cursor.rest then l.marker? .documentStart
  else if atStart && atMarker '.' l.cursor.rest then l.documentEnd?
  else if l.cursor.column < l.indent then none
  else l.token?

/-- The state behind all tokens. -/
def scan? : Nat → Layout → Option Layout
  | 0, _ => none
  | fuel + 1, l => do
    let l ← (← l.next?).dropStaleKey?
    let l := l.closeTo l.cursor.column
    if l.cursor.isDone then l.finish? else scan? fuel (← l.lineToken?)

end Layout

/-- A text with every line break as a line feed. -/
def normalizeBreaks : List Char → List Char
  | '\r' :: '\n' :: cs => '\n' :: normalizeBreaks cs
  | '\r' :: cs => '\n' :: normalizeBreaks cs
  | c :: cs => c :: normalizeBreaks cs
  | [] => []

/-- The tokens of a text, which ends with its first null character. -/
def tokens? (source : String) : Option (List Token) :=
  let cs := normalizeBreaks (source.toList.takeWhile (· != '\x00'))
  (Layout.scan? (cs.length + 1) (.start cs)).map (·.tokens.toList)

end TagQuery.Yaml
