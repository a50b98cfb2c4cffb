import TagQuery.Regex.Bracket
import TagQuery.Unicode.Edition

/-!
# Reading regular expressions

An expression is a choice between sequences; the parts of a sequence are characters, classes, looks
and groups, each with any number of repetition operators after it. Flags set within a group hold for
its rest, later choices included, and end with the group. Groups may have names, each name once in
the whole expression; what a group matched is not recorded.

A repetition operator needs something to repeat: the start of a sequence and a directive are
nothing. Braces always open a count, so a brace that is not one is a fault, except for a closing
brace on its own. There is no looking around beyond the looks at neighbours.

An expression is read piece by piece. Groups nest, so the recursion is bounded by a count that
starts above what an expression of its length can use up. Limits on how deep groups may nest and on
how large an expression may become are left out.
-/

namespace TagQuery.Regex

/-- What is carried along while an expression is read. -/
structure Context where
  flags : Flags
  /-- The names of groups so far. -/
  names : List String

namespace Parser

/-! ## Parts -/

/-- A character as it matches under the flags. -/
def literal (f : Flags) (c : Char) : Regex := .chars (f.fold (.single c))

/-- The expression that a primitive is. -/
def ofPrimitive (f : Flags) : Primitive → Regex
  | .character c => literal f c
  | .chars a => .chars a
  | .look l => .look l

/-- A text without the question mark that marks a repetition as reluctant, which makes no difference
to whether something matches. -/
def dropReluctant : List Char → List Char
  | '?' :: cs => cs
  | cs => cs

/-- A count: a decimal number of 32 bits, blanks around it aside. -/
def count? (cs : List Char) : Option Nat :=
  (Text.ofDigits? (Text.trim cs)).bind fun n ↦ if n < UInt32.size then some n else none

/-- The bounds that stand between braces. -/
def bounds? (content : List Char) : Option (Nat × Option Nat) :=
  match Text.splitAt (· == ',') content with
  | [exact] => (count? exact).map fun n ↦ (n, some n)
  | [min, []] => (count? min).map (·, none)
  | [min, max] => do
    let min ← count? min
    let max ← count? max
    if min ≤ max then return (min, some max) else none
  | _ => none

/-! ## Pieces -/

/-- What may come next in an expression. -/
inductive Piece where
  /-- The end of a sequence: a bar, a closing parenthesis or the end of the text, which is left. -/
  | stop
  /-- Flags for the rest of the group. -/
  | directive (flags : Flags)
  /-- The opening of a group, read under the given flags and names. -/
  | group (inner : Context)
  | part (part : Regex)
  /-- A repetition of what comes before. -/
  | again (min : Nat) (max : Option Nat)

/-- A character of a group's name. -/
def isNameCharacter (c : Char) : Bool :=
  c == '_' || c == '.' || c == '[' || c == ']' ||
    Unicode.Edition.alphabetic.contains c.toNat ||
    Unicode.Edition.numbers.contains c.toNat

/-- Whether a text can be the name of a group. -/
def isName : List Char → Bool
  | [] => false
  | c :: cs =>
    (c == '_' || Unicode.Edition.alphabetic.contains c.toNat) && cs.all isNameCharacter

/-- A name up to its closing angle bracket, for a group that is not named yet. -/
def named? (ctx : Context) : Reader Piece := fun cs ↦
  let name := cs.takeWhile (· != '>')
  match cs.dropWhile (· != '>') with
  | _ :: rest =>
    if isName name && !ctx.names.contains (.ofList name) then
      some (.group { ctx with names := .ofList name :: ctx.names }, rest)
    else none
  | [] => none

/-- Letters for flags, closed as a directive or opening a group. -/
def flagged? (ctx : Context) : Reader Piece := fun cs ↦
  let letters := cs.takeWhile fun c ↦ c != ':' && c != ')'
  if Flags.isDirective letters then
    match cs.dropWhile fun c ↦ c != ':' && c != ')' with
    | ':' :: rest => some (.group { ctx with flags := ctx.flags.direct letters }, rest)
    | ')' :: rest =>
      if letters.isEmpty then none else some (.directive (ctx.flags.direct letters), rest)
    | _ => none
  else none

/-- What an opening parenthesis opens, given what follows it. The signs for looking around are
neither names nor flags, so they are faults. -/
def opening? (ctx : Context) : Reader Piece
  | '?' :: 'P' :: '<' :: cs | '?' :: '<' :: cs => named? ctx cs
  | '?' :: cs => flagged? ctx cs
  | cs => some (.group ctx, cs)

/-- A repetition with the bounds between braces, given what follows the opening brace. -/
def braces? (f : Flags) : Reader Piece := fun cs ↦
  (Reader.make (f.upToBrace? false cs) bounds?).map fun x ↦
    (.again x.1.1 x.1.2, dropReluctant (f.skip x.2))

/-- What a first character begins, given what follows it. -/
def pieceFrom? (ctx : Context) (c : Char) : Reader Piece :=
  let f := ctx.flags
  match c with
  | '|' | ')' => fun cs ↦ some (.stop, c :: cs)
  | '(' => fun cs ↦ opening? ctx (f.skip cs)
  | '[' => fun cs ↦ (Bracket.read? f cs).map fun x ↦ (.part (.chars x.1), x.2)
  | '?' => fun cs ↦ some (.again 0 (some 1), dropReluctant cs)
  | '*' => fun cs ↦ some (.again 0 none, dropReluctant cs)
  | '+' => fun cs ↦ some (.again 1 none, dropReluctant cs)
  | '\x7b' => braces? f
  | '\\' => fun cs ↦ (Primitive.escape? f cs).map fun x ↦ (.part (ofPrimitive f x.1), x.2)
  | '.' => fun cs ↦ f.dot?.map fun a ↦ (.part (.chars a), cs)
  | '^' => fun cs ↦ some (.part (.look f.startLook), cs)
  | '$' => fun cs ↦ some (.part (.look f.endLook), cs)
  | c => fun cs ↦ some (.part (literal f c), cs)

/-- What comes next in an expression, layout aside, and what follows it. -/
def piece? (ctx : Context) : Reader Piece := fun cs ↦
  match ctx.flags.skip cs with
  | [] => some (.stop, [])
  | c :: rest => pieceFrom? ctx c rest

/-! ## Sequences and choices -/

/-- A sequence with one more part at its end. -/
def append (done : Regex) : Option Regex → Regex
  | none => done
  | some last => .seq done last

mutual

/-- A choice between sequences, up to the end or to a closing parenthesis. -/
def choice? : Nat → Context → Reader (Regex × Context)
  | 0, _, _ => none
  | depth + 1, ctx, cs => do
    match ← sequence? depth ctx .empty none cs with
    | ((r, ctx), '|' :: cs) =>
      let ((s, ctx), cs) ← choice? depth ctx cs
      return ((.alt r s, ctx), cs)
    | ((r, ctx), cs) => return ((r, ctx), cs)

/-- The rest of a sequence of which `done` and then `last`, to which a repetition would apply, have
been read. -/
def sequence? : Nat → Context → Regex → Option Regex → Reader (Regex × Context)
  | 0, _, _, _, _ => none
  | depth + 1, ctx, done, last, cs => do
    match ← piece? ctx cs with
    | (.stop, rest) => return ((append done last, ctx), rest)
    | (.directive flags, rest) => sequence? depth { ctx with flags } (append done last) none rest
    | (.group inner, rest) =>
      match ← choice? depth inner rest with
      | ((r, inner), ')' :: rest) =>
        sequence? depth { ctx with names := inner.names } (append done last) (some r) rest
      | _ => none
    | (.part r, rest) => sequence? depth ctx (append done last) (some r) rest
    | (.again min max, rest) =>
      sequence? depth ctx done (some (.repetition (← last) min max)) rest

end

/-- A depth that reading an expression cannot exhaust. -/
def depthFor (cs : List Char) : Nat := 2 * cs.length + 2

end Parser

/-- The regular expression that a text writes, given its characters. -/
def ofChars? (cs : List Char) : Option Regex :=
  match Parser.choice? (Parser.depthFor cs) ⟨.initial, []⟩ cs with
  | some ((r, _), []) => some r
  | _ => none

/-- The regular expression that a text writes. -/
def ofText? (text : String) : Option Regex := ofChars? text.toList

end TagQuery.Regex
