import TagQuery.Yaml.Cursor

/-!
# Plain scalars

A plain scalar runs up to a comment, a colon that ends a key, an indicator of flow style within flow
style, a line that is not indented enough, or the marker of a document. A line break within it
counts as a space, and of several in a row one is dropped.
-/

namespace TagQuery.Yaml

/-- What lies between two stretches of a scalar: blanks on the same line, or line breaks. -/
structure Fold where
  /-- The blanks, in reverse. -/
  blanks : List Char
  /-- The number of line breaks. -/
  breaks : Nat

namespace Fold

/-- Nothing at all. -/
def none : Fold := ⟨[], 0⟩

/-- With one more blank, which counts only before a line break. -/
def blank (f : Fold) (c : Char) : Fold :=
  if f.breaks = 0 then { f with blanks := c :: f.blanks } else f

/-- With one more line break. -/
def newline (f : Fold) : Fold := ⟨[], f.breaks + 1⟩

/-- What it counts as. -/
def text (f : Fold) : List Char :=
  match f.breaks with
  | 0 => f.blanks.reverse
  | 1 => [' ']
  | breaks + 2 => List.replicate (breaks + 1) '\n'

end Fold

namespace Plain

/-- Whether the character at the front of a text, which is no blank, belongs to a plain scalar. -/
def belongs (inFlow : Bool) : List Char → Bool
  | [] => false
  | ':' :: cs => !(atWordEnd cs || inFlow && atFlowIndicator cs)
  | c :: _ => !(inFlow && isFlowIndicator c)

/-- A stretch of a plain scalar without blanks, and its length. -/
def stretch (inFlow : Bool) : List Char → List Char
  | [] => []
  | c :: cs => if !isGap c && belongs inFlow (c :: cs) then c :: stretch inFlow cs else []

/-- The blanks and line breaks from a cursor on, given those before it. A line that is indented by a
tab, where spaces are wanted, has to be empty. -/
def gap? (indent : Int) : Nat → Fold → Cursor → Option (Fold × Cursor)
  | 0, _, _ => none
  | fuel + 1, f, c =>
    match c.peek? with
    | some '\n' => gap? indent fuel f.newline c.nextLine
    | some d =>
      if !isBlank d then some (f, c)
      else if d = '\t' && c.fresh && c.column < indent then do
        let c ← c.skipTrailer?
        if c.isAtLineEnd then gap? indent fuel f c else none
      else gap? indent fuel (f.blank d) c.skipBlank
    | none => some (f, c)

/-- Whether a plain scalar ends at a cursor, whatever follows. -/
def endsAt (c : Cursor) : Bool :=
  c.column == 0 && atDocumentMarker c.rest || c.peek? == some '#'

/-- Whether a hyphen stands where it could only open an entry. -/
def isStrayHyphen (inFlow : Bool) : List Char → Bool
  | '-' :: cs => inFlow && atFlowIndicator cs
  | _ => false

/-- The rest of a plain scalar from a cursor on, given what lies before it, and the cursor behind
it. -/
def scan? (inFlow : Bool) (indent : Int) : Nat → Fold → Cursor → Option (List Char × Cursor)
  | 0, _, _ => none
  | fuel + 1, f, c =>
    if endsAt c then some ([], c)
    else if isStrayHyphen inFlow c.rest then none
    else
      let word := stretch inFlow c.rest
      let c := if word.isEmpty then c else c.skip word.length
      let front := if word.isEmpty then [] else f.text ++ word
      let f := if word.isEmpty then f else Fold.none
      if c.peek?.any isGap then do
        let (f, c) ← gap? indent (c.rest.length + 1) f c
        if !inFlow && c.column < indent then some (front, c)
        else
          let (rest, c) ← scan? inFlow indent fuel f c
          return (front ++ rest, c)
      else some (front, c)

end Plain

/-- A plain scalar within a block of the given indentation, and the cursor behind it. -/
def Cursor.plain? (inFlow : Bool) (indent : Int) (c : Cursor) : Option (List Char × Cursor) :=
  if inFlow && c.column < indent + 1 then none
  else Plain.scan? inFlow (indent + 1) (c.rest.length + 1) Fold.none c

end TagQuery.Yaml
