import TagQuery.Proofs.Number.Numeral
import TagQuery.Proofs.Number.Rounding
import TagQuery.Units

/-!
# Reading quantities

A quantity is a numeral, blanks if any, and a known unit if any. What is read as the numeral is the
longest one that the text starts with, blanks around the text aside, and the number is the one that
the numeral correctly rounds to; all the rest is the suffix (`splitNumber?_of_readsAs`). So whether a
text is a quantity, which one, and what is wrong with a literal that is none, all follow from the
numeral and the suffix alone (`reads_quantity`).

Two things could go wrong between the scan of the bytes and the number. The byte where the numeral
ends could lie within a character, and the conversion of the numeral could fail. Neither happens
(`readsAs_cases`): a numeral is made of ASCII characters, and the conversion accepts every numeral.
-/

namespace TagQuery

open Text

/-! ## The number and what follows it -/

/-- Whether a text starts with a numeral. -/
def HasNumeral (cs : List Char) : Prop :=
  ∃ numeral rest negative q, cs = numeral ++ rest ∧ Writes numeral negative q

/-- What the longest numeral is that a text starts with, what follows it, and what it rounds to. -/
def ReadsAs (cs numeral rest : List Char) (x : Float) : Prop :=
  ∃ negative q, StartsWith cs numeral rest negative q ∧ IsCorrectlyRounded negative q x

theorem ReadsAs.hasNumeral {cs numeral rest : List Char} {x : Float}
    (h : ReadsAs cs numeral rest x) : HasNumeral cs := by
  obtain ⟨negative, q, hstart, -⟩ := h
  exact ⟨numeral, rest, negative, q, hstart.eq_append, hstart.writes⟩

/-- The numeral, the rest and the number are those of the text. -/
theorem ReadsAs.unique {cs numeral numeral' rest rest' : List Char} {x x' : Float}
    (h : ReadsAs cs numeral rest x) (h' : ReadsAs cs numeral' rest' x') :
    numeral = numeral' ∧ rest = rest' ∧ x = x' := by
  obtain ⟨negative, q, hstart, hround⟩ := h
  obtain ⟨negative', q', hstart', hround'⟩ := h'
  obtain ⟨rfl, rfl, rfl, rfl⟩ := hstart.unique hstart'
  exact ⟨rfl, rfl, hround.unique hround'⟩

namespace UnitTable

/-- A text starts with no numeral, or it is cut where the numeral ends and that is converted. -/
theorem readsAs_cases (cs : List Char) :
    (¬ HasNumeral cs ∧ Decimal.extent? (utf8 cs) = none) ∨
    ∃ numeral rest x, ReadsAs cs numeral rest x ∧
      Decimal.extent? (utf8 cs) = some (utf8Length numeral) ∧
      cut? (utf8Length numeral) cs = some (numeral, rest) ∧
      Scientific.number? numeral = some x := by
  rcases Decimal.extent?_cases cs with ⟨htake, hextent⟩ | ⟨numeral, rest, d, hcs, htake, hextent⟩
  · refine .inl ⟨?_, hextent⟩
    rintro ⟨numeral, rest, negative, q, happend, hwrites⟩
    exact Decimal.not_writes_of_takePrefix? htake happend hwrites
  · have hstart := Decimal.startsWith_of_takePrefix? htake hcs
    obtain ⟨d', hnumber, hnegative, hmagnitude⟩ := Scientific.exists_number?_eq hstart.writes
    have hround := d'.isCorrectlyRounded_toFloat
    rw [hnegative, hmagnitude] at hround
    have hcut : cut? (utf8Length numeral) cs = some (numeral, rest) := by rw [hcs, cut?_append]
    exact .inr ⟨numeral, rest, _, ⟨_, _, hstart, hround⟩, hextent, hcut, hnumber⟩

theorem split?_of_readsAs {cs numeral rest : List Char} {x : Float}
    (h : ReadsAs cs numeral rest x) : split? cs = some (some (x, trimStart rest)) := by
  rcases readsAs_cases cs with ⟨hnone, -⟩ | ⟨numeral', rest', x', h', hextent, -, hnumber⟩
  · exact absurd h.hasNumeral hnone
  · obtain ⟨rfl, rfl, rfl⟩ := h.unique h'
    obtain ⟨negative, q, hstart, -⟩ := h
    rw [hstart.eq_append] at hextent ⊢
    rw [split?_append hextent, hnumber, Option.map_some]

theorem split?_of_not_hasNumeral {cs : List Char} (h : ¬ HasNumeral cs) :
    split? cs = some none := by
  rcases readsAs_cases cs with ⟨-, hextent⟩ | ⟨numeral, rest, x, hreads, -⟩
  · rw [split?, hextent]
  · exact absurd hreads.hasNumeral h

theorem exists_readsAs {cs : List Char} (h : HasNumeral cs) :
    ∃ numeral rest x, ReadsAs cs numeral rest x := by
  rcases readsAs_cases cs with ⟨hnone, -⟩ | ⟨numeral, rest, x, hreads, -⟩
  · exact absurd h hnone
  · exact ⟨numeral, rest, x, hreads⟩

theorem splitNumber?_of_readsAs {text : String} {numeral rest : List Char} {x : Float}
    (h : ReadsAs (trim text.toList) numeral rest x) :
    splitNumber? text = some (x, .ofList (trimStart rest)) := by
  simp only [splitNumber?, split?_of_readsAs h, Option.get_some, Option.map_some]

theorem splitNumber?_of_not_hasNumeral {text : String} (h : ¬ HasNumeral (trim text.toList)) :
    splitNumber? text = none := by
  simp only [splitNumber?, split?_of_not_hasNumeral h, Option.get_some, Option.map_none]

/-! ## Units -/

/-- Whether a table has a unit of this name, but for the case of ASCII letters. -/
def Knows (table : UnitTable) (suffix : String) : Prop :=
  ∃ entry ∈ table.entries, equalIgnoringCase entry.1 suffix = true

theorem isSome_lookup?_iff {table : UnitTable} {suffix : String} :
    (table.lookup? suffix).isSome ↔ table.Knows suffix := by
  rw [lookup?, Option.isSome_or, Option.isSome_map, Bool.or_eq_true, List.find?_isSome]
  refine ⟨?_, .inr⟩
  rintro (h | h)
  · -- a name in its exact spelling is one that differs in the case of no letter
    obtain ⟨u, hu⟩ := Option.isSome_iff_exists.mp h
    exact ⟨(suffix, u), Dictionary.mem_entries_iff.mpr hu, decide_eq_true rfl⟩
  · exact h

/-- What a number with a suffix amounts to: the bare number, or the number times the factor of the
unit in the dimension of the unit. -/
def Amounts (table : UnitTable) (x : Float) (suffix : String) (quantity : Quantity) : Prop :=
  (suffix = "" ∧ quantity = .plain x) ∨
    suffix ≠ "" ∧ ∃ u, table.lookup? suffix = some u ∧ quantity = ⟨x * u.factor, some u.dimension⟩

theorem normalize?_eq_some_iff {table : UnitTable} {x : Float} {suffix : String}
    {quantity : Quantity} :
    table.normalize? x suffix = some quantity ↔ table.Amounts x suffix quantity := by
  rw [normalize?, Amounts]
  split
  · next h =>
    simp [String.isEmpty_iff.mp h, eq_comm]
  · next h =>
    simp [mt String.isEmpty_iff.mpr h, eq_comm]

theorem normalize?_eq_none_iff {table : UnitTable} {x : Float} {suffix : String} :
    table.normalize? x suffix = none ↔ suffix ≠ "" ∧ ¬ table.Knows suffix := by
  rw [normalize?, ← isSome_lookup?_iff]
  split
  · next h =>
    simp [String.isEmpty_iff.mp h]
  · next h =>
    simp [mt String.isEmpty_iff.mpr h]

/-! ## Quantities -/

section Quantities

variable {table : UnitTable} {text : String}

theorem parseTagValue?_eq_some_iff {quantity : Quantity} :
    table.parseTagValue? text = some quantity ↔
      ∃ numeral rest x, ReadsAs (trim text.toList) numeral rest x ∧
        table.Amounts x (.ofList (trimStart rest)) quantity := by
  rw [parseTagValue?]
  by_cases h : HasNumeral (trim text.toList)
  · obtain ⟨numeral, rest, x, hreads⟩ := exists_readsAs h
    rw [splitNumber?_of_readsAs hreads, Option.bind_some, normalize?_eq_some_iff]
    constructor
    · intro hamounts
      exact ⟨numeral, rest, x, hreads, hamounts⟩
    · rintro ⟨numeral', rest', x', hreads', hamounts⟩
      obtain ⟨rfl, rfl, rfl⟩ := hreads.unique hreads'
      exact hamounts
  · rw [splitNumber?_of_not_hasNumeral h, Option.bind_none]
    refine ⟨nofun, ?_⟩
    rintro ⟨numeral, rest, x, hreads, -⟩
    exact absurd hreads.hasNumeral h

theorem exists_amounts_iff {x : Float} {suffix : String} :
    (∃ quantity, table.Amounts x suffix quantity) ↔ suffix = "" ∨ table.Knows suffix := by
  simp only [← normalize?_eq_some_iff]
  rw [← Option.isSome_iff_exists, Option.isSome_iff_ne_none, ne_eq, normalize?_eq_none_iff,
    not_and_or, not_not, not_not]

theorem isSome_parseTagValue?_iff :
    (table.parseTagValue? text).isSome ↔
      ∃ numeral rest x, ReadsAs (trim text.toList) numeral rest x ∧
        (trimStart rest = [] ∨ table.Knows (.ofList (trimStart rest))) := by
  simp only [Option.isSome_iff_exists, parseTagValue?_eq_some_iff]
  constructor
  · rintro ⟨quantity, numeral, rest, x, hreads, hamounts⟩
    have hsuffix := exists_amounts_iff.mp ⟨quantity, hamounts⟩
    rw [String.ofList_eq_empty_iff] at hsuffix
    exact ⟨numeral, rest, x, hreads, hsuffix⟩
  · rintro ⟨numeral, rest, x, hreads, hsuffix⟩
    rw [← String.ofList_eq_empty_iff] at hsuffix
    obtain ⟨quantity, hamounts⟩ := exists_amounts_iff.mpr hsuffix
    exact ⟨quantity, numeral, rest, x, hreads, hamounts⟩

/-- A literal is the same quantity as a value of a tag. -/
theorem parseLiteral_eq_ok_iff {quantity : Quantity} :
    table.parseLiteral text = .ok quantity ↔ table.parseTagValue? text = some quantity := by
  rw [parseLiteral, parseTagValue?]
  cases splitNumber? text with
  | none => simp
  | some split =>
    obtain ⟨x, suffix⟩ := split
    dsimp only [Option.bind_some]
    cases table.normalize? x suffix with
    | none => simp
    | some quantity => simp

theorem parseLiteral_eq_error_iff {e : LiteralError} :
    table.parseLiteral text = .error e ↔
      (e = .invalidNumber text ∧ ¬ HasNumeral (trim text.toList)) ∨
      ∃ numeral rest x, ReadsAs (trim text.toList) numeral rest x ∧ trimStart rest ≠ [] ∧
        ¬ table.Knows (.ofList (trimStart rest)) ∧
        e = .unknownUnit text (.ofList (trimStart rest)) := by
  rw [parseLiteral]
  by_cases h : HasNumeral (trim text.toList)
  · obtain ⟨numeral, rest, x, hreads⟩ := exists_readsAs h
    rw [splitNumber?_of_readsAs hreads]
    dsimp only
    constructor
    · intro he
      split at he
      · next hnone =>
        obtain ⟨hsuffix, hunknown⟩ := normalize?_eq_none_iff.mp hnone
        rw [ne_eq, String.ofList_eq_empty_iff] at hsuffix
        exact .inr ⟨numeral, rest, x, hreads, hsuffix, hunknown, (Except.error.inj he).symm⟩
      · contradiction
    · rintro (⟨-, hnone⟩ | ⟨numeral', rest', x', hreads', hsuffix, hunknown, rfl⟩)
      · contradiction
      · obtain ⟨rfl, rfl, rfl⟩ := hreads.unique hreads'
        rw [ne_eq, ← String.ofList_eq_empty_iff] at hsuffix
        rw [normalize?_eq_none_iff.mpr ⟨hsuffix, hunknown⟩]
  · rw [splitNumber?_of_not_hasNumeral h]
    constructor
    · intro he
      exact .inl ⟨(Except.error.inj he).symm, h⟩
    · rintro (⟨rfl, -⟩ | ⟨numeral, rest, x, hreads, -⟩)
      · rfl
      · exact absurd hreads.hasNumeral h

end Quantities

/-- **A quantity is read exactly as a numeral, blanks if any, and a known unit if any.** -/
theorem reads_quantity (table : UnitTable) (text : String) :
    ((¬ HasNumeral (trim text.toList) ∧ Decimal.extent? (utf8 (trim text.toList)) = none) ∨
      ∃ numeral rest x, ReadsAs (trim text.toList) numeral rest x ∧
        Decimal.extent? (utf8 (trim text.toList)) = some (utf8Length numeral) ∧
        cut? (utf8Length numeral) (trim text.toList) = some (numeral, rest) ∧
        Scientific.number? numeral = some x) ∧
    ((table.parseTagValue? text).isSome ↔
      ∃ numeral rest x, ReadsAs (trim text.toList) numeral rest x ∧
        (trimStart rest = [] ∨ table.Knows (.ofList (trimStart rest)))) ∧
    (∀ quantity, table.parseTagValue? text = some quantity ↔
      ∃ numeral rest x, ReadsAs (trim text.toList) numeral rest x ∧
        table.Amounts x (.ofList (trimStart rest)) quantity) ∧
    (∀ quantity, table.parseLiteral text = .ok quantity ↔
      table.parseTagValue? text = some quantity) ∧
    ∀ e, table.parseLiteral text = .error e ↔
      (e = .invalidNumber text ∧ ¬ HasNumeral (trim text.toList)) ∨
      ∃ numeral rest x, ReadsAs (trim text.toList) numeral rest x ∧ trimStart rest ≠ [] ∧
        ¬ table.Knows (.ofList (trimStart rest)) ∧
        e = .unknownUnit text (.ofList (trimStart rest)) :=
  ⟨readsAs_cases _, isSome_parseTagValue?_iff, fun _ ↦ parseTagValue?_eq_some_iff,
    fun _ ↦ parseLiteral_eq_ok_iff, fun _ ↦ parseLiteral_eq_error_iff⟩

end UnitTable

end TagQuery
