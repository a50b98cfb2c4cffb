/-!
# Blank characters

Three sets of characters that count as "space" meet in this library. The widest is the set of the
characters with the Unicode property White_Space, `isBlank`: tag values and literals are trimmed by
it and split at it. Control characters, `isControl`, are a set of their own; neither they nor blank
characters can be part of a bare word of a query. The four characters that separate the words of a
query are named where queries are read.
-/

namespace TagQuery.Text

/-- A character with the property White_Space. -/
def isBlank (c : Char) : Bool :=
  let n := c.toNat
  9 ≤ n && n ≤ 13 || n == 0x20 || n == 0x85 || n == 0xA0 || n == 0x1680 ||
    0x2000 ≤ n && n ≤ 0x200A || n == 0x2028 || n == 0x2029 || n == 0x202F || n == 0x205F ||
    n == 0x3000

/-- A control character: one of the two stretches of general category Cc. -/
def isControl (c : Char) : Bool :=
  let n := c.toNat
  n < 0x20 || 0x7F ≤ n && n ≤ 0x9F

/-- Every blank of ASCII is a blank. -/
theorem isBlank_of_isWhitespace {c : Char} (h : c.isWhitespace = true) : isBlank c = true := by
  simp only [Char.isWhitespace, Bool.or_eq_true, decide_eq_true_eq] at h
  rcases h with ((rfl | rfl) | rfl) | rfl <;> decide

/-- A text without the blanks at its start. -/
def trimStart (cs : List Char) : List Char := cs.dropWhile isBlank

/-- A text without the blanks at its end. -/
def trimEnd (cs : List Char) : List Char := (trimStart cs.reverse).reverse

/-- A text without the blanks at both ends. -/
def trim (cs : List Char) : List Char := trimEnd (trimStart cs)

/-- The stretch of a text before the first character with `p`, and the stretches after it, which
lie between the characters with `p` and may be empty. -/
def pieces (p : Char → Bool) : List Char → List Char × List (List Char)
  | [] => ([], [])
  | c :: cs =>
    let (first, rest) := pieces p cs
    if p c then ([], first :: rest) else (c :: first, rest)

/-- The stretches of a text between the characters with `p`, empty ones included. -/
def splitAt (p : Char → Bool) (cs : List Char) : List (List Char) :=
  (pieces p cs).1 :: (pieces p cs).2

/-- The words of a text: its longest stretches without blanks. -/
def words (cs : List Char) : List (List Char) := (splitAt isBlank cs).filter (!·.isEmpty)

/-- The characters with `p` are taken off the front of a text, up to one without. -/
theorem takeWhile_append_eq {p : Char → Bool} {xs ys : List Char} (hxs : ∀ x ∈ xs, p x = true)
    (hys : ∀ y ∈ ys.head?, p y = false) :
    (xs ++ ys).takeWhile p = xs ∧ (xs ++ ys).dropWhile p = ys := by
  rw [List.takeWhile_append_of_pos hxs, List.dropWhile_append_of_pos hxs]
  cases ys with
  | nil => exact ⟨List.append_nil xs, rfl⟩
  | cons y ys =>
    have hy : ¬ p y = true := Bool.eq_false_iff.mp (hys y rfl)
    rw [List.takeWhile_cons_of_neg hy, List.dropWhile_cons_of_neg hy, List.append_nil]
    exact ⟨rfl, rfl⟩

theorem pieces_of_all_not {p : Char → Bool} {cs : List Char} (h : ∀ c ∈ cs, p c = false) :
    pieces p cs = (cs, []) := by
  induction cs with
  | nil => rfl
  | cons c cs ih =>
    simp [pieces, ih fun d hd ↦ h d (List.mem_cons_of_mem _ hd), h c List.mem_cons_self]

theorem pieces_append_cons {p : Char → Bool} {xs ys : List Char} {c : Char}
    (h : ∀ x ∈ xs, p x = false) (hc : p c = true) :
    pieces p (xs ++ c :: ys) = (xs, (pieces p ys).1 :: (pieces p ys).2) := by
  induction xs with
  | nil => simp [pieces, hc]
  | cons x xs ih =>
    simp [pieces, ih fun d hd ↦ h d (List.mem_cons_of_mem _ hd), h x List.mem_cons_self]

end TagQuery.Text
