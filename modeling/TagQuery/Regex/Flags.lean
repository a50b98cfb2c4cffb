import TagQuery.Regex.Basic
import TagQuery.Text.Blank

/-!
# Flags of a regular expression

Flags change how the rest of a group is read. They are set by letters, with those after a hyphen
switched off: `(?i)` for the rest of the group around it, `(?i-s:…)` for the group it opens.

Ignoring case closes a class under case. A verbose expression may be laid out with blanks and with
comments up to the end of a line; both are skipped between its parts. Without Unicode only classes
within ASCII are allowed, because the complement of such a class would also match parts of
characters.
-/

namespace TagQuery.Regex

/-- A reader takes what it reads off the front of a text. -/
abbrev Reader (α : Type) := List Char → Option (α × List Char)

/-- What was read, made into something else unless that fails. The rest stays as it is. -/
def Reader.make {α β : Type} (read : Option (α × List Char)) (f : α → Option β) :
    Option (β × List Char) :=
  read.bind fun x ↦ (f x.1).map (·, x.2)

/-- How an expression is read. -/
structure Flags where
  ignoreCase : Bool
  multiLine : Bool
  dotAll : Bool
  crlf : Bool
  unicode : Bool
  verbose : Bool
  deriving DecidableEq, Repr

namespace Flags

/-- The flags at the start of an expression. -/
def initial : Flags := ⟨false, false, false, false, true, false⟩

/-! ## Directives -/

/-- A letter for a flag. -/
def isLetter (c : Char) : Bool := "imsRUux".toList.contains c

/-- The flags with one of them switched. Swapping greedy and reluctant repetition makes no
difference to whether something matches. -/
def switch (f : Flags) (on : Bool) : Char → Flags
  | 'i' => { f with ignoreCase := on }
  | 'm' => { f with multiLine := on }
  | 's' => { f with dotAll := on }
  | 'R' => { f with crlf := on }
  | 'u' => { f with unicode := on }
  | 'x' => { f with verbose := on }
  | _ => f

/-- Whether letters and a hyphen form a directive: none of them twice, and no hyphen at the end. -/
def isDirective (letters : List Char) : Bool :=
  letters.all (fun c ↦ isLetter c || c == '-') && letters.eraseDups.length == letters.length &&
    letters.getLast? != some '-'

/-- The flags that a directive leads to, switching on until the hyphen and off after it. -/
def direct (f : Flags) (letters : List Char) : Flags :=
  (letters.dropWhile (· != '-')).foldl (switch · false)
    ((letters.takeWhile (· != '-')).foldl (switch · true) f)

/-! ## Layout -/

/-- A text without the blanks and comments at its start, given whether it starts in a comment. -/
def dropLayout (inComment : Bool) : List Char → List Char
  | [] => []
  | c :: cs =>
    if inComment then dropLayout (c != '\n') cs
    else if Text.isBlank c then dropLayout false cs
    else if c = '#' then dropLayout true cs
    else c :: cs

/-- A text without the layout at its start, if layout is skipped at all. -/
def skip (f : Flags) (cs : List Char) : List Char := if f.verbose then dropLayout false cs else cs

/-- The characters up to a closing brace, without layout, and what follows the brace. -/
def upToBrace? (f : Flags) (inComment : Bool) : Reader (List Char)
  | [] => none
  | c :: cs =>
    if inComment then upToBrace? f (c != '\n') cs
    else if f.verbose && Text.isBlank c then upToBrace? f false cs
    else if f.verbose && c == '#' then upToBrace? f true cs
    else if c = '\x7d' then some ([], cs)
    else (upToBrace? f false cs).map fun (content, rest) ↦ (c :: content, rest)

/-! ## Classes -/

/-- A class as it counts under the flags. -/
def fold (f : Flags) (a : CharClass) : CharClass :=
  if f.ignoreCase then if f.unicode then .folded a else .asciiFolded a else a

/-- A class or its complement. -/
def negate? (f : Flags) (negated : Bool) (a : CharClass) : Option CharClass :=
  if negated then if f.unicode then some (.compl a) else none else some a

/-- What a dot stands for. -/
def dot? (f : Flags) : Option CharClass :=
  if !f.unicode then none
  else if f.dotAll then some (.compl .empty)
  else if f.crlf then some (.compl (.ranges [('\r', '\r'), ('\n', '\n')]))
  else some (.compl (.single '\n'))

/-- What a circumflex stands for. -/
def startLook (f : Flags) : Look :=
  if f.multiLine then if f.crlf then .lineStartCrlf else .lineStart else .textStart

/-- What a dollar stands for. -/
def endLook (f : Flags) : Look :=
  if f.multiLine then if f.crlf then .lineEndCrlf else .lineEnd else .textEnd

end Flags

end TagQuery.Regex
