import TagQuery.Regex.Basic

/-!
# Matching

Matching follows all ways through a regular expression at once. A set of positions of a text is a
list of marks, one for each position from the start of the text to its end; `advance` takes the set
of positions that have been reached to the set of those reachable from there. Repetition keeps
advancing until nothing new is reached, or until as many rounds are done as the text has positions,
after which more rounds reach nothing new. So the work is bounded whatever is nested in what.

A text matches if some position is reachable from some position.
-/

namespace TagQuery.Regex

/-- A set of positions of a text: whether each position is in it, from the start to the end. -/
abbrev Marks := List Bool

namespace Marks

/-- No position. -/
def none (text : List Char) : Marks := List.replicate (text.length + 1) false

/-- Every position. -/
def all (text : List Char) : Marks := List.replicate (text.length + 1) true

/-- The positions in either of two sets. -/
def union (s t : Marks) : Marks := List.zipWith (· || ·) s t

/-- The positions in the first set but not in the second. -/
def diff (s t : Marks) : Marks := List.zipWith (fun a b ↦ a && !b) s t

/-- Whether no position is in a set. -/
def isEmpty (s : Marks) : Bool := !s.any id

/-- The positions after the characters with `p` that follow positions of a set; the first position
of the text belongs to the result if `carried` says so. -/
def shift (p : Char → Bool) (carried : Bool) : List Char → Marks → Marks
  | c :: cs, m :: ms => carried :: shift p (m && p c) cs ms
  | _, _ => [carried]

/-- The positions of a set between whose neighbours `q` holds, given the character before the first
of them. -/
def keep (q : Option Char → Option Char → Bool) (before : Option Char) :
    List Char → Marks → Marks
  | c :: cs, m :: ms => (m && q before (some c)) :: keep q (some c) cs ms
  | _, m :: _ => [m && q before Option.none]
  | _, [] => []

/-- A step repeated exactly `n` times, or until it changes nothing. -/
def iterate (step : Marks → Marks) : Nat → Marks → Marks
  | 0, s => s
  | n + 1, s =>
    let t := step s
    if t = s then s else iterate step n t

/-- What a step reaches in at most `n` rounds: `reached` so far, of which `fresh` since the last
round. -/
def spread (step : Marks → Marks) : Nat → Marks → Marks → Marks
  | 0, reached, _ => reached
  | n + 1, reached, fresh =>
    let next := diff (step fresh) reached
    if isEmpty next then reached else spread step n (union reached next) next

end Marks

/-- The positions of a text that are reachable from the positions of a set. -/
def advance (text : List Char) : Regex → Marks → Marks
  | empty, s => s
  | chars a, s => Marks.shift a.contains false text s
  | look l, s => Marks.keep l.holds none text s
  | seq q r, s => advance text r (advance text q s)
  | alt q r, s => Marks.union (advance text q s) (advance text r s)
  | repetition r min max, s =>
    let rounds := text.length + 1
    let start := Marks.iterate (advance text r) (Nat.min min rounds) s
    match max with
    | none => Marks.spread (advance text r) rounds start start
    | some max =>
      if max < min then Marks.none text
      else Marks.spread (advance text r) (Nat.min (max - min) rounds) start start

/-- Whether a regular expression matches somewhere in a text. -/
def matchesIn (r : Regex) (text : List Char) : Bool :=
  !(advance text r (Marks.all text)).isEmpty

end TagQuery.Regex
