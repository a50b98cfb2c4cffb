import TagQuery.Text.Blank

/-!
# Lines

A text is a sequence of lines, each ended by a line feed. A carriage return just before the line
feed belongs to the line's end. What follows the last line feed is a line of its own, kept as it
stands, unless it is empty.
-/

namespace TagQuery.Text

/-- A line without the carriage return that its line feed may bring with it. -/
def chopReturn (line : List Char) : List Char :=
  if line.getLast? = some '\r' then line.dropLast else line

/-- The lines of a text whose stretches between line feeds are `line` and then `more`. -/
def closeLines (line : List Char) : List (List Char) → List (List Char)
  | [] => if line.isEmpty then [] else [line]
  | next :: more => chopReturn line :: closeLines next more

/-- The lines of a text, without their ends. -/
def lines (cs : List Char) : List (List Char) :=
  closeLines (pieces (· == '\n') cs).1 (pieces (· == '\n') cs).2

@[simp] theorem lines_nil : lines [] = [] := rfl

/-- A line written with its line feed is read back, and the rest of the text after it. -/
theorem lines_cons {line rest : List Char} (h : '\n' ∉ line) :
    lines (line ++ '\n' :: rest) = chopReturn line :: lines rest := by
  have hp : pieces (· == '\n') (line ++ '\n' :: rest) =
      (line, (pieces (· == '\n') rest).1 :: (pieces (· == '\n') rest).2) :=
    pieces_append_cons (fun x hx ↦ by simpa using fun e : x = '\n' ↦ h (e ▸ hx)) (by simp)
  simp [lines, hp, closeLines]

end TagQuery.Text
