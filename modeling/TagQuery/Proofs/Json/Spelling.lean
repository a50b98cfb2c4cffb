import Mathlib.Data.List.TakeWhile
import TagQuery.Json.Parser
import TagQuery.Proofs.Text.Digits

/-!
# Spellings of values

A written value is followed by whatever comes next in its line, so what is said of it is that the
reader takes it off the front and leaves the rest (`Spells`). A string ends by itself; a number goes
on as long as it can, so the rest has to begin with what delimits values.

A character of a string is written in one of three ways, by an escape of one letter, by its code, or
as it stands (`escape_cases`), and everything about written strings is derived from that.
-/

namespace TagQuery.Json

/-! ## Strings -/

/-- The three ways in which a character is written. -/
theorem escape_cases (c : Char) :
    (∃ d, escape c = ['\\', d] ∧ ofShortEscape? d = some c ∧ 0x20 ≤ d.toNat) ∨
    (∃ a b, escape c = ['\\', 'u', '0', '0', a, b] ∧ hexOfFour '0' '0' a b = some c.toNat ∧
      c.toNat < 0x20 ∧ 0x20 ≤ a.toNat ∧ 0x20 ≤ b.toNat) ∨
    (escape c = [c] ∧ c ≠ '"' ∧ c ≠ '\\' ∧ 0x20 ≤ c.toNat) := by
  have hcodes : ∀ n < 0x20,
      hexOfFour '0' '0' (Nat.digitChar (n / 16)) (Nat.digitChar (n % 16)) = some n ∧
        0x20 ≤ (Nat.digitChar (n / 16)).toNat ∧ 0x20 ≤ (Nat.digitChar (n % 16)).toNat := by
    decide
  -- the letters that have an escape of their own come first, whatever their codes
  by_cases hshort : c ∈ ['"', '\\', '\x08', '\x0c', '\n', '\r', '\t']
  · refine .inl ?_
    simp only [List.mem_cons, List.not_mem_nil, or_false] at hshort
    rcases hshort with rfl | rfl | rfl | rfl | rfl | rfl | rfl <;> exact ⟨_, rfl, rfl, by decide⟩
  · simp only [List.mem_cons, List.not_mem_nil, or_false, not_or] at hshort
    obtain ⟨hquote, hbackslash, hrest⟩ := hshort
    have hescape : escape c = if c.toNat < 0x20 then
        ['\\', 'u', '0', '0', Nat.digitChar (c.toNat / 16), Nat.digitChar (c.toNat % 16)]
      else [c] := by
      rw [escape, if_neg hquote, if_neg hbackslash, if_neg hrest.1, if_neg hrest.2.1,
        if_neg hrest.2.2.1, if_neg hrest.2.2.2.1, if_neg hrest.2.2.2.2]
    rw [hescape]
    split
    · next hc =>
      obtain ⟨hread, ha, hb⟩ := hcodes c.toNat hc
      exact .inr (.inl ⟨_, _, rfl, hread, hc, ha, hb⟩)
    · next hc => exact .inr (.inr ⟨rfl, hquote, hbackslash, Nat.not_lt.mp hc⟩)

theorem encode_cons (c : Char) (cs : List Char) : encode (c :: cs) = escape c ++ encode cs :=
  List.flatMap_cons

/-- No control character stands in a written string. -/
theorem toNat_of_mem_encode {cs : List Char} {c : Char} (h : c ∈ encode cs) : 0x20 ≤ c.toNat := by
  obtain ⟨d, -, hd⟩ := List.mem_flatMap.mp h
  rcases escape_cases d with ⟨e, he, -, hle⟩ | ⟨a, b, he, -, -, ha, hb⟩ | ⟨he, -, -, hle⟩
  · rw [he] at hd
    simp only [List.mem_cons, List.not_mem_nil, or_false] at hd
    rcases hd with rfl | rfl
    · decide
    · exact hle
  · rw [he] at hd
    simp only [List.mem_cons, List.not_mem_nil, or_false] at hd
    rcases hd with rfl | rfl | rfl | rfl | rfl | rfl <;> first | assumption | decide
  · rw [he] at hd
    obtain rfl := List.mem_singleton.mp hd
    exact hle

theorem decode?_escape_append (c : Char) (cs : List Char) :
    decode? (escape c ++ cs) = (decode? cs).map (c :: ·) := by
  rcases escape_cases c with ⟨d, he, hd, -⟩ | ⟨a, b, he, hread, hc, -⟩ | ⟨he, -, hbackslash, -⟩
  · rw [he, List.cons_append, List.cons_append, List.nil_append, decode?, hd]
    rintro _ _ _ _ _ rfl
    cases hd
  · rw [he]
    simp only [List.cons_append, List.nil_append]
    rw [decode?, hread]
    have hlow : c.toNat < 0xD800 ∨ 0xDFFF < c.toNat := .inl (by omega)
    simp only [if_pos hlow, Char.ofNat_toNat]
  · rw [he, List.cons_append, List.nil_append, decode?]
    · rintro _ _ _ _ _ rfl
      exact absurd rfl hbackslash
    · rintro _ _ rfl
      exact absurd rfl hbackslash
    · rintro rfl
      exact absurd rfl hbackslash

/-- A text is what its written form says. -/
theorem decode?_encode (cs : List Char) : decode? (encode cs) = some cs := by
  induction cs with
  | nil => rfl
  | cons c cs ih => rw [encode_cons, decode?_escape_append, ih, Option.map_some]

theorem scanString?_escape_append (c : Char) (cs : List Char) :
    scanString? (escape c ++ cs) =
      (scanString? cs).map fun (body, rest) ↦ (escape c ++ body, rest) := by
  rcases escape_cases c with ⟨d, he, hd, -⟩ | ⟨a, b, he, hread, -⟩ | ⟨he, hquote, hbackslash, hle⟩
  · rw [he, List.cons_append, List.cons_append, List.nil_append, scanString?, hd]
    · rfl
    · rintro _ _ _ _ _ rfl
      cases hd
  · rw [he]
    simp only [List.cons_append, List.nil_append]
    rw [scanString?, hread]
    rfl
  · rw [he, List.cons_append, List.nil_append, scanString?]
    · rw [if_neg (Nat.not_lt.mpr hle)]
      rfl
    · exact hquote
    · rintro _ _ _ _ _ rfl
      exact absurd rfl hbackslash
    · rintro _ _ rfl
      exact absurd rfl hbackslash
    · rintro rfl
      exact absurd rfl hbackslash

/-- A string ends at the quote after its written form. -/
theorem scanString?_encode (cs rest : List Char) :
    scanString? (encode cs ++ '"' :: rest) = some (encode cs, rest) := by
  induction cs with
  | nil => rfl
  | cons c cs ih =>
    rw [encode_cons, List.append_assoc, scanString?_escape_append, ih, Option.map_some]

/-! ## Values -/

/-- What may follow a value of a record: a comma, a brace or a blank. -/
def delimiters : List Char := [',', '\x7d', ' ', '\t', '\n', '\r']

/-- A text that goes on as it does after a value of a record. -/
def IsDelimited (rest : List Char) : Prop := ∀ c ∈ rest.head?, c ∈ delimiters

/-- A text is read as a value wherever it stands, if the count for nesting is no less than its
length. -/
def Spells (text : List Char) (value : Json) : Prop :=
  ∀ (count : Nat) (rest : List Char), text.length ≤ count → IsDelimited rest →
    scanValue? count (text ++ rest) = some (value, rest)

theorem skipBlanks_cons {c : Char} (h : isBlank c = false) (cs : List Char) :
    skipBlanks (c :: cs) = c :: cs :=
  List.dropWhile_cons_of_neg (Bool.eq_false_iff.mp h)

theorem ofChars?_of_spells {text blanks : List Char} {value : Json} (h : Spells text value)
    (hblanks : ∀ c ∈ blanks, isBlank c = true) : ofChars? (text ++ blanks) = some value := by
  have hrest : IsDelimited blanks := by
    intro c hc
    have hc := hblanks c (List.mem_of_mem_head? hc)
    simp only [isBlank, Bool.or_eq_true, beq_iff_eq] at hc
    rcases hc with ((rfl | rfl) | rfl) | rfl <;> decide
  have hcount : text.length ≤ 2 * (text ++ blanks).length + 2 := by
    rw [List.length_append]
    omega
  have hskip : skipBlanks blanks = [] := List.dropWhile_eq_nil_iff.mpr hblanks
  rw [ofChars?, h _ blanks hcount hrest, Option.bind_eq_bind, Option.bind_some]
  simp only [hskip]
  rfl

theorem spells_quote (s : String) : Spells (quote s) (.string (encode s.toList)) := by
  intro count rest hcount _
  cases count with
  | zero => simp [quote] at hcount
  | succ count =>
    have hquote : quote s ++ rest = '"' :: (encode s.toList ++ '"' :: rest) := by
      rw [quote, List.cons_append, List.cons_append, List.append_assoc]
      rfl
    rw [hquote, scanValue?, skipBlanks_cons rfl]
    simp only [scanString?_encode, Option.map_some]

/-! ### Whole numbers -/

theorem isDigit_of_toDigits_eq_cons {n : Nat} {c : Char} {cs : List Char}
    (h : Nat.toDigits 10 n = c :: cs) : Text.isDigit c = true :=
  Text.isDigit_of_mem_toDigits (h ▸ List.mem_cons_self)

/-- The digits of a number are all of it: it has no zero too many in front, and what follows is
neither digit, point nor exponent. -/
theorem scanWhole?_toDigits (n : Nat) {rest : List Char} (h : IsDelimited rest) :
    scanWhole? (Nat.toDigits 10 n ++ rest) = some (Nat.toDigits 10 n, rest) := by
  have hrest : ∀ c ∈ rest.head?, Text.isDigit c = false := by
    intro c hc
    have hnone : delimiters.any Text.isDigit = false := by decide
    exact Bool.eq_false_iff.mpr (List.any_eq_false.mp hnone c (h c hc))
  obtain ⟨c, cs, hdigits⟩ := List.exists_cons_of_ne_nil (Nat.toDigits_ne_nil (n := n))
  -- after a zero the reader expects no further digit, and there is none
  by_cases hzero : c = '0'
  · rw [hzero] at hdigits
    obtain ⟨-, rfl⟩ := Text.toDigits_eq_zero_cons hdigits
    rw [hdigits]
    rfl
  · obtain ⟨htake, hdrop⟩ := Text.takeWhile_isDigit_append
      (fun _ ↦ Text.isDigit_of_mem_toDigits (n := n)) hrest
    rw [hdigits] at htake hdrop ⊢
    rw [List.cons_append, scanWhole?, ← List.cons_append, scanDigits?, htake, hdrop]
    · rfl
    · rintro _ ⟨⟩
      exact hzero rfl

theorem scanFraction?_of_isDelimited {rest : List Char} (h : IsDelimited rest) :
    scanFraction? rest = some ([], rest) := by
  rw [scanFraction?.eq_def]
  split
  · exact absurd (h '.' rfl) (by decide)
  · rfl

theorem scanExponent?_of_isDelimited {rest : List Char} (h : IsDelimited rest) :
    scanExponent? rest = some ([], rest) := by
  cases rest with
  | nil => rfl
  | cons c rest =>
    have hc : ¬ (c = 'e' ∨ c = 'E') := by
      rintro (rfl | rfl)
      · exact absurd (h 'e' rfl) (by decide)
      · exact absurd (h 'E' rfl) (by decide)
    rw [scanExponent?.eq_def]
    exact if_neg hc

/-- A value that begins like a number is one. -/
theorem scanValue?_of_head {c : Char} (h : Text.isDigit c = true ∨ c = '-') (count : Nat)
    (cs : List Char) : scanValue? (count + 1) (c :: cs) =
      (scanNumber? (c :: cs)).map fun (literal, rest) ↦ (number literal, rest) := by
  have hblank : isBlank c = false := by
    rw [Bool.eq_false_iff]
    intro hc
    simp only [isBlank, Bool.or_eq_true, beq_iff_eq] at hc
    rcases hc with ((rfl | rfl) | rfl) | rfl <;> exact absurd h (by decide)
  rw [scanValue?, skipBlanks_cons hblank]
  split
  case h_7 => rfl
  all_goals
    next heq =>
      obtain rfl := List.head_eq_of_cons_eq heq
      exact absurd h (by decide)

theorem scanNumber?_of_whole {sign cs digits rest : List Char} (hrest : IsDelimited rest)
    (hsign : scanSign cs = (sign, digits ++ rest))
    (hdigits : scanWhole? (digits ++ rest) = some (digits, rest)) :
    scanNumber? cs = some (sign ++ digits, rest) := by
  rw [scanNumber?, hsign]
  simp only [hdigits, Option.bind_eq_bind, Option.bind_some, scanFraction?_of_isDelimited hrest,
    scanExponent?_of_isDelimited hrest, List.append_nil]
  rfl

/-- The digits of a number, and a minus sign before them if there is one, are a number. -/
theorem spells_whole (n : Nat) {sign : List Char} (hsign : sign = [] ∨ sign = ['-']) :
    Spells (sign ++ Nat.toDigits 10 n) (.number (sign ++ Nat.toDigits 10 n)) := by
  intro count rest hcount hrest
  have hdigits := scanWhole?_toDigits n hrest
  obtain ⟨c, cs, hcons⟩ := List.exists_cons_of_ne_nil (Nat.toDigits_ne_nil (n := n) (b := 10))
  have hc : Text.isDigit c = true := isDigit_of_toDigits_eq_cons hcons
  cases count with
  | zero =>
    rw [hcons] at hcount
    simp at hcount
  | succ count =>
    rcases hsign with rfl | rfl
    · rw [hcons] at hdigits ⊢
      have hscan : scanSign (c :: cs ++ rest) = ([], c :: cs ++ rest) := by
        rw [List.cons_append, scanSign]
        rintro _ ⟨⟩
        exact absurd hc (by decide)
      have hnumber := scanNumber?_of_whole hrest hscan hdigits
      rw [List.cons_append] at hnumber
      rw [List.nil_append, List.cons_append, scanValue?_of_head (.inl hc), hnumber]
      rfl
    · have hnumber := scanNumber?_of_whole hrest (rfl : scanSign ('-' :: _) = _) hdigits
      rw [List.append_assoc, List.singleton_append, scanValue?_of_head (.inr rfl), hnumber]
      rfl

/-- What a written whole number says. There is no minus sign before a zero. -/
theorem wholeOfLiteral?_toDigits (n : Nat) :
    wholeOfLiteral? (Nat.toDigits 10 n) = some (n : Int) ∧
      (n ≠ 0 → wholeOfLiteral? ('-' :: Nat.toDigits 10 n) = some (-(n : Int))) := by
  constructor
  · rw [wholeOfLiteral?.eq_def]
    split
    · next heq => exact absurd (isDigit_of_toDigits_eq_cons heq) (by decide)
    · rw [Text.ofDigits?_toDigits]
      rfl
  · intro hn
    rw [wholeOfLiteral?, Text.ofDigits?_toDigits, Option.bind_some, if_neg hn]

end TagQuery.Json
