import TagQuery.Regex.Escape

/-!
# Classes in brackets

Between brackets stand characters, ranges, escapes, named classes such as `[:alpha:]` and further
classes in brackets. They are joined; `&&`, `--` and `~~` then combine what is on their left with
what is on their right as intersection, difference and symmetric difference, from left to right. A
circumflex at the start complements the whole. Hyphens that come first stand for themselves, and so
does a closing bracket that comes first, for there is no empty class.

A class is read piece by piece. Classes nest, so the recursion is bounded by a count that starts
above what a class of its length can use up.
-/

namespace TagQuery.Regex.Bracket

/-- An operation between two parts of a class. -/
inductive Operation where
  | inter
  | diff
  | symmDiff
  deriving DecidableEq, Repr

/-- The operation that a sign writes if it stands twice. -/
def Operation.ofSign? : Char → Option Operation
  | '&' => some inter
  | '-' => some diff
  | '~' => some symmDiff
  | _ => none

/-- The class of a left side, an operation and a right side, or of a right side alone. -/
def combine (f : Flags) : Option (Operation × CharClass) → CharClass → CharClass
  | none, b => b
  | some (.inter, a), b => .inter (f.fold a) (f.fold b)
  | some (.diff, a), b => .diff (f.fold a) (f.fold b)
  | some (.symmDiff, a), b => .symmDiff (f.fold a) (f.fold b)

/-- The class of one character. Without Unicode it has to be one of ASCII. -/
def member? (f : Flags) (c : Char) : Option CharClass :=
  if f.unicode || c.toNat < 128 then some (.single c) else none

/-- The class of a range. -/
def ofBounds? (f : Flags) (first last : Char) : Option CharClass :=
  if first ≤ last ∧ (f.unicode ∨ last.toNat < 128) then some (.range first last) else none

/-- The class of a primitive. Looks are none. -/
def ofPrimitive? (f : Flags) : Primitive → Option CharClass
  | .character c => member? f c
  | .chars a => some a
  | .look _ => none

/-- A primitive, unless it is a look. -/
def notLook? : Primitive → Option Primitive
  | .look _ => none
  | p => some p

/-- A character or an escape, but no look. -/
def primitive? (f : Flags) : Reader Primitive
  | [] => none
  | '\\' :: cs => Reader.make (Primitive.escape? f cs) notLook?
  | c :: cs => some (.character c, cs)

/-- The character that decides whether a hyphen makes a range, given what follows the hyphen. Layout
before it does not count, and neither does a single `#`. -/
def afterHyphen? (f : Flags) (cs : List Char) : Option Char :=
  if f.verbose then
    match Text.trimStart cs with
    | '#' :: rest => (Text.trimStart rest).head?
    | rest => rest.head?
  else cs.head?

/-- The class of a range between two primitives, which have to be characters. -/
def between? (f : Flags) : Primitive → Primitive → Option CharClass
  | .character a, .character b => ofBounds? f a b
  | _, _ => none

/-- What follows the first primitive of an item, layout aside: a hyphen and the end of a range, or
nothing that belongs to the item. -/
def range? (f : Flags) (first : Primitive) : Reader CharClass
  | [] => none
  | '-' :: cs =>
    if afterHyphen? f cs = some ']' ∨ afterHyphen? f cs = some '-' then
      (ofPrimitive? f first).map (·, '-' :: cs)
    else Reader.make (primitive? f (f.skip cs)) (between? f first)
  | rest => (ofPrimitive? f first).map (·, rest)

/-- A primitive, or a range of two characters. -/
def item? (f : Flags) : Reader CharClass := fun cs ↦
  (primitive? f cs).bind fun x ↦ range? f x.1 (f.skip x.2)

/-- A name up to a colon and a closing bracket, as the class with this name. -/
def nameClass? : Reader CharClass := fun cs ↦
  match cs.dropWhile (· != ':') with
  | ':' :: ']' :: rest =>
    (CharClass.ofBracketName? (.ofList (cs.takeWhile (· != ':')))).map (·, rest)
  | _ => none

/-- A class with a name, given what follows its opening bracket: whether it is complemented, and the
class itself. -/
def named? : Reader (Bool × CharClass)
  | ':' :: '^' :: cs => (nameClass? cs).map fun x ↦ ((true, x.1), x.2)
  | ':' :: cs => (nameClass? cs).map fun x ↦ ((false, x.1), x.2)
  | _ => none

/-- Where in a class something stands. -/
inductive Place where
  /-- Where a closing bracket stands for itself. -/
  | first
  /-- After nothing but hyphens, where a further hyphen stands for itself. -/
  | hyphens
  | inside
  deriving DecidableEq, Repr

/-- What may come next in a class. -/
inductive Piece where
  | close
  | operation (operation : Operation)
  /-- The opening bracket of a class within the class. -/
  | nested
  | items (chars : CharClass) (place : Place)

/-- What stands for itself at a place, although it would not elsewhere. -/
def standing? : Place → Reader Piece
  | .first, '-' :: rest | .hyphens, '-' :: rest => some (.items (.single '-') .hyphens, rest)
  | .first, ']' :: rest => some (.items (.single ']') .inside, rest)
  | _, _ => none

/-- The operation that a sign writes together with the first character after it. -/
def operation? (sign : Char) : Reader Operation
  | [] => none
  | c :: rest => if c = sign then (Operation.ofSign? sign).map (·, rest) else none

/-- What follows an opening bracket: a named class, or the items of a class within the class. -/
def opened? (f : Flags) : Reader Piece := fun cs ↦
  match named? cs with
  | some ((negated, a), rest) => (f.negate? negated (f.fold a)).map (.items · .inside, rest)
  | none => some (.nested, cs)

/-- What comes next in a class at any place, and what follows it. -/
def ordinary? (f : Flags) : Reader Piece
  | [] => none
  | ']' :: rest => some (.close, rest)
  | '[' :: rest => opened? f rest
  | c :: rest =>
    match operation? c rest with
    | some (operation, rest) => some (.operation operation, rest)
    | none => (item? f (c :: rest)).map fun x ↦ (.items x.1 .inside, x.2)

/-- What comes next in a class, layout aside, and what follows it. -/
def piece? (f : Flags) (place : Place) : Reader Piece := fun cs ↦
  (standing? place (f.skip cs)).or (ordinary? f (f.skip cs))

/-- The circumflex at the start of a class, and the rest. -/
def takeCircumflex (f : Flags) : List Char → Bool × List Char
  | '^' :: cs => (true, f.skip cs)
  | cs => (false, cs)

mutual

/-- A class, given what follows its opening bracket. -/
def class? (f : Flags) : Nat → Reader CharClass
  | 0, _ => none
  | depth + 1, cs => do
    let (negated, cs) := takeCircumflex f (f.skip cs)
    let (a, rest) ← items? f depth .first none .empty cs
    return (← f.negate? negated (f.fold a), rest)

/-- The items of a class up to its closing bracket, given a pending operation and the items since
then. -/
def items? (f : Flags) :
    Nat → Place → Option (Operation × CharClass) → CharClass → Reader CharClass
  | 0, _, _, _, _ => none
  | depth + 1, place, pending, a, cs => do
    match ← piece? f place cs with
    | (.close, rest) => return (combine f pending a, rest)
    | (.operation operation, rest) =>
      items? f depth .inside (some (operation, combine f pending a)) .empty rest
    | (.nested, rest) =>
      let (b, rest) ← class? f depth rest
      items? f depth .inside pending (.union a b) rest
    | (.items b place, rest) => items? f depth place pending (.union a b) rest

end

/-- A depth that reading a class cannot exhaust. -/
def depthFor (cs : List Char) : Nat := 2 * cs.length + 2

/-- A class, given what follows its opening bracket. -/
def read? (f : Flags) : Reader CharClass := fun cs ↦ class? f (depthFor cs) cs

end TagQuery.Regex.Bracket
