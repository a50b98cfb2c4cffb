import TagQuery.Number.Scientific
import TagQuery.Number.Whole
import TagQuery.Yaml.Basic
import TagQuery.Yaml.Tag

/-!
# Values of scalars

A scalar in quotes and a block of text are texts. A plain scalar without a tag is null, a truth
value or a number if it looks like one; with a tag of a standard type it has to look like one of
that type, and with any other tag it is a text.
-/

namespace TagQuery.Yaml

/-! ## Numbers -/

/-- The whole number that a text writes in a base, with an optional sign. -/
def intInBase? (base : Nat) : List Char → Option Int
  | '-' :: cs => (Text.ofBase? base cs).bind fun n ↦ Whole.ofInt? (-n)
  | '+' :: cs => (Text.ofBase? base cs).bind fun n ↦ Whole.ofInt? n
  | cs => (Text.ofBase? base cs).bind fun n ↦ Whole.ofInt? n

/-- The whole number that a plain scalar writes: in hexadecimal after `0x`, in octal after `0o`, or
in decimal, where a plus sign may precede the sign. -/
def int? (cs : List Char) : Option Int :=
  let marked := match cs with
    | '0' :: 'x' :: cs => intInBase? 16 cs
    | '0' :: 'o' :: cs => intInBase? 8 cs
    | '+' :: cs => Whole.ofChars? cs
    | _ => none
  marked.or (Whole.ofChars? cs)

/-- Whether a plain scalar writes a real number, or names an infinity or what is no number. -/
def isReal (s : String) : Bool :=
  [".inf", ".Inf", ".INF", "+.inf", "+.Inf", "+.INF", "-.inf", "-.Inf", "-.INF", ".nan", ".NaN",
    ".NAN"].contains s || (Scientific.finite? s.toList).isSome

/-! ## Plain scalars -/

/-- The truth value that a plain scalar names. -/
def bool? : String → Option Bool
  | "true" => some true
  | "false" => some false
  | _ => none

/-- The value of a plain scalar without a tag. -/
def ofPlain (s : String) : Yaml :=
  match int? s.toList with
  | some n => int n
  | none =>
    match bool? s with
    | some b => bool b
    | none =>
      if ["", "~", "null"].contains s then null
      else if isReal s then real s
      else text s

/-- The value of a plain scalar with a tag. -/
def ofTagged (tag : Tag) (s : String) : Yaml :=
  if tag.handle != Tag.standard then text s
  else match tag.suffix with
    | "bool" => ((bool? s).map bool).getD undefined
    | "int" => ((Whole.ofChars? s.toList).map int).getD undefined
    | "float" => if isReal s then real s else undefined
    | "null" => if ["~", "null"].contains s then null else undefined
    | _ => text s

/-- The value of a scalar. -/
def ofScalar (plain : Bool) (tag : Option Tag) (s : String) : Yaml :=
  if !plain then text s
  else match tag with
    | some tag => ofTagged tag s
    | none => ofPlain s

end TagQuery.Yaml
