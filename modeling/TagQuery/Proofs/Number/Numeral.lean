import Mathlib.Data.List.TakeWhile
import Mathlib.Data.Rat.Cast.Defs
import Mathlib.Tactic.FieldSimp
import TagQuery.Number.Extent
import TagQuery.Number.Scientific
import TagQuery.Proofs.Text.LetterCase

/-!
# Numerals

A numeral is an optional sign before digits, before digits with a point and digits after it, or
before a point and digits. What `takePrefix?` reads off a text is the longest numeral that the text
starts with (`takePrefix?_eq_some`), and it reads nothing only if the text starts with none
(`takePrefix?_eq_none`).

The reader never goes back, so the point of the proof is that it cannot have stopped too early or
taken a wrong turn. A sign is no digit and no point, and a point is no digit: so a numeral at the
start of a text fixes where its sign and its digits before the point end, and the reader gets there
too (`exists_takePrefix?_append`). From there on it takes every digit there is.
-/

namespace TagQuery

open Text

/-! ## The grammar -/

/-- A run of digits, at least one. -/
structure IsDigits (cs : List Char) : Prop where
  ne_nil : cs ≠ []
  all : ∀ c ∈ cs, isDigit c = true

instance (cs : List Char) : Decidable (IsDigits cs) :=
  decidable_of_iff (cs ≠ [] ∧ cs.all isDigit = true)
    ⟨fun h ↦ ⟨h.1, List.all_eq_true.mp h.2⟩, fun h ↦ ⟨h.ne_nil, List.all_eq_true.mpr h.all⟩⟩

theorem IsDigits.head {digits : List Char} (h : IsDigits digits) (rest : List Char) :
    ∀ c ∈ (digits ++ rest).head?, isDigit c = true ∨ c = '.' := by
  obtain ⟨c, cs, rfl⟩ := List.exists_cons_of_ne_nil h.ne_nil
  rintro d ⟨⟩
  exact .inl (h.all c List.mem_cons_self)

/-- A number is read from a run of digits, and from nothing else. -/
theorem ofDigits?_eq_some_iff {cs : List Char} {n : Nat} :
    ofDigits? cs = some n ↔ IsDigits cs ∧ ofDigits cs = n := by
  rw [ofDigits?]
  constructor
  · intro h
    split at h
    · next hdigits =>
      rw [Bool.and_eq_true, Bool.not_eq_true', List.isEmpty_eq_false_iff, List.all_eq_true]
        at hdigits
      exact ⟨⟨hdigits.1, hdigits.2⟩, Option.some.inj h⟩
    · contradiction
  · rintro ⟨hdigits, rfl⟩
    exact ofDigits?_eq_some hdigits.ne_nil hdigits.all

/-- The signs a numeral may have, and whether the number is negative then. -/
inductive IsSign : List Char → Bool → Prop where
  | none : IsSign [] false
  | plus : IsSign ['+'] false
  | minus : IsSign ['-'] true

/-- The numerals, with the sign and the magnitude of the number that each of them writes. -/
inductive Writes : List Char → Bool → ℚ → Prop where
  | whole {sign digits : List Char} {negative : Bool} (hsign : IsSign sign negative)
      (hdigits : IsDigits digits) : Writes (sign ++ digits) negative (ofDigits digits)
  | point {sign digits fraction : List Char} {negative : Bool} (hsign : IsSign sign negative)
      (hdigits : IsDigits digits) (hfraction : IsDigits fraction) :
      Writes (sign ++ digits ++ '.' :: fraction) negative
        (ofDigits digits + ofDigits fraction / 10 ^ fraction.length)
  | fraction {sign fraction : List Char} {negative : Bool} (hsign : IsSign sign negative)
      (hfraction : IsDigits fraction) :
      Writes (sign ++ '.' :: fraction) negative (ofDigits fraction / 10 ^ fraction.length)

/-- A text starts with a numeral, and with no longer one. -/
structure StartsWith (cs numeral rest : List Char) (negative : Bool) (q : ℚ) : Prop where
  eq_append : cs = numeral ++ rest
  writes : Writes numeral negative q
  longest {longer more : List Char} {negative' : Bool} {q' : ℚ} (happend : cs = longer ++ more)
    (hwrites : Writes longer negative' q') : longer.length ≤ numeral.length

namespace Decimal

/-- The magnitude of a decimal number. -/
def magnitude (d : Decimal) : ℚ := d.significand / 10 ^ d.places

/-! ## Reading a numeral -/

theorem takeSign_append {sign : List Char} {negative : Bool} (h : IsSign sign negative)
    {cs : List Char} (hcs : ∀ c ∈ cs.head?, isDigit c = true ∨ c = '.') :
    takeSign (sign ++ cs) = (negative, cs) := by
  cases h with
  | plus => rfl
  | minus => rfl
  | none =>
    cases cs with
    | nil => rfl
    | cons c cs =>
      -- a sign is neither a digit nor a point
      apply takeSign_of_not_isSign
      rw [isSign, Bool.or_eq_true, decide_eq_true_iff, decide_eq_true_iff]
      rintro (rfl | rfl) <;> simpa [isDigit] using hcs _ rfl

theorem takeFraction_point {fraction : List Char} (h : IsDigits fraction) (rest : List Char) :
    takeFraction ('.' :: fraction ++ rest) =
      (fraction ++ rest.takeWhile isDigit, rest.dropWhile isDigit) := by
  rw [List.cons_append, takeFraction, List.takeWhile_append_of_pos h.all,
    List.dropWhile_append_of_pos h.all, if_neg]
  simp [h.ne_nil]

theorem length_takeFraction_le (cs : List Char) : (takeFraction cs).2.length ≤ cs.length := by
  fun_cases takeFraction cs with
  | case1 cs => exact Nat.le_refl _
  | case2 cs => exact Nat.le_succ_of_le (List.dropWhile_suffix _).length_le
  | case3 cs => exact Nat.le_refl _

theorem ofDigits_append (xs ys : List Char) :
    ofDigits (xs ++ ys) = ofDigits xs * 10 ^ ys.length + ofDigits ys := by
  change Nat.ofDigitChars 10 (xs ++ ys) 0 = Nat.ofDigitChars 10 xs 0 * _ + Nat.ofDigitChars 10 ys 0
  rw [Nat.ofDigitChars_append, Nat.ofDigitChars_eq_ofDigitChars_zero, Nat.mul_comm]

/-- The reader takes at least a numeral that it meets, and of the numeral alone its number. -/
theorem exists_takePrefix?_append {numeral : List Char} {negative : Bool} {q : ℚ}
    (h : Writes numeral negative q) (rest : List Char) :
    ∃ d rest', takePrefix? (numeral ++ rest) = some (d, rest') ∧ rest'.length ≤ rest.length ∧
      (rest = [] → d.negative = negative ∧ d.magnitude = q) := by
  have hdrop : (rest.dropWhile isDigit).length ≤ rest.length := (List.dropWhile_suffix _).length_le
  cases h with
  | @whole sign digits _ hsign hdigits =>
    have htake := takePrefix?_eq_some (takeSign_append hsign (hdigits.head rest))
      (List.takeWhile_append_of_pos hdigits.all)
      (congrArg takeFraction (List.dropWhile_append_of_pos hdigits.all))
      (.inl (List.append_ne_nil_of_left_ne_nil hdigits.ne_nil _))
    rw [List.append_assoc]
    refine ⟨_, _, htake, (length_takeFraction_le _).trans hdrop, ?_⟩
    rintro rfl
    simp [magnitude]
  | @point sign digits fraction _ hsign hdigits hfraction =>
    -- the digits before the point end at the point
    have hnext : ∀ c ∈ ('.' :: fraction ++ rest).head?, isDigit c = false := by
      rintro c ⟨⟩
      rfl
    have hwhole := takeWhile_isDigit_append hdigits.all hnext
    have htake := takePrefix?_eq_some (takeSign_append hsign (hdigits.head ('.' :: fraction ++ rest)))
      hwhole.1 ((congrArg takeFraction hwhole.2).trans (takeFraction_point hfraction rest))
      (.inl hdigits.ne_nil)
    rw [List.append_assoc, List.append_assoc]
    refine ⟨_, _, htake, hdrop, ?_⟩
    rintro rfl
    refine ⟨rfl, ?_⟩
    simp [magnitude, ofDigits_append]
    field_simp
  | @fraction sign fraction _ hsign hfraction =>
    have hpoint : ∀ c ∈ ('.' :: fraction ++ rest).head?, isDigit c = true ∨ c = '.' := by
      rintro c ⟨⟩
      exact .inr rfl
    have hwhole : ('.' :: fraction ++ rest).takeWhile isDigit = [] := rfl
    have htake := takePrefix?_eq_some (takeSign_append hsign hpoint) hwhole
      (takeFraction_point hfraction rest)
      (.inr (List.append_ne_nil_of_left_ne_nil hfraction.ne_nil _))
    rw [List.append_assoc]
    refine ⟨_, _, htake, hdrop, ?_⟩
    rintro rfl
    simp [magnitude]

/-! ## A numeral is what was read -/

theorem exists_sign_append (cs : List Char) :
    ∃ sign, cs = sign ++ (takeSign cs).2 ∧ IsSign sign (takeSign cs).1 := by
  fun_cases takeSign cs with
  | case1 cs => exact ⟨['-'], rfl, .minus⟩
  | case2 cs => exact ⟨['+'], rfl, .plus⟩
  | case3 cs => exact ⟨[], rfl, .none⟩

theorem takeFraction_cases (cs : List Char) :
    takeFraction cs = ([], cs) ∨
    ∃ fraction rest, takeFraction cs = (fraction, rest) ∧ cs = '.' :: fraction ++ rest ∧
      IsDigits fraction := by
  fun_cases takeFraction cs with
  | case1 cs => exact .inl rfl
  | case2 cs hne =>
    have hdigits : IsDigits (cs.takeWhile isDigit) :=
      ⟨fun h ↦ hne (List.isEmpty_iff.mpr h), fun _ ↦ List.mem_takeWhile_imp⟩
    exact .inr ⟨_, _, rfl, by rw [List.cons_append, List.takeWhile_append_dropWhile], hdigits⟩
  | case3 cs => exact .inl rfl

theorem exists_writes_of_takePrefix? {cs rest : List Char} {d : Decimal}
    (h : takePrefix? cs = some (d, rest)) :
    ∃ numeral, cs = numeral ++ rest ∧ Writes numeral d.negative d.magnitude := by
  obtain ⟨sign, hcs, hsign⟩ := exists_sign_append cs
  obtain ⟨body, hbody⟩ : ∃ body, (takeSign cs).2 = body := ⟨_, rfl⟩
  obtain ⟨whole, hwhole⟩ : ∃ whole, body.takeWhile isDigit = whole := ⟨_, rfl⟩
  have htake : takeSign cs = ((takeSign cs).1, body) := by rw [← hbody]
  have hall : ∀ c ∈ whole, isDigit c = true := hwhole ▸ fun _ ↦ List.mem_takeWhile_imp
  have hparts : cs = sign ++ (whole ++ body.dropWhile isDigit) := by
    rw [← hwhole, List.takeWhile_append_dropWhile, ← hbody]
    exact hcs
  rcases takeFraction_cases (body.dropWhile isDigit) with
    hfraction | ⟨fraction, rest', hfraction, htail, hdigits⟩
  · by_cases hempty : whole = []
    · rw [takePrefix?_eq_none htake hwhole hfraction hempty rfl] at h
      contradiction
    · rw [takePrefix?_eq_some htake hwhole hfraction (.inl hempty)] at h
      cases h
      have hq : (ofDigits whole : ℚ) = ofDigits (whole ++ []) / 10 ^ 0 := by
        rw [List.append_nil, pow_zero, div_one]
      have hwrites := Writes.whole hsign ⟨hempty, hall⟩
      rw [hq] at hwrites
      exact ⟨sign ++ whole, hparts.trans (List.append_assoc _ _ _).symm, hwrites⟩
  · rw [takePrefix?_eq_some htake hwhole hfraction (.inr hdigits.ne_nil)] at h
    cases h
    refine ⟨sign ++ whole ++ '.' :: fraction, ?_, ?_⟩
    · rw [hparts, htail, ← List.append_assoc, ← List.append_assoc]
    by_cases hempty : whole = []
    · rw [hempty, List.append_nil]
      exact Writes.fraction hsign hdigits
    · have hq : (ofDigits whole + ofDigits fraction / 10 ^ fraction.length : ℚ) =
          ofDigits (whole ++ fraction) / 10 ^ fraction.length := by
        rw [ofDigits_append]
        push_cast
        field_simp
      have hwrites := Writes.point hsign ⟨hempty, hall⟩ hdigits
      rw [hq] at hwrites
      exact hwrites

/-- Nothing is read only off a text that starts with no numeral. -/
theorem not_writes_of_takePrefix? {cs numeral rest : List Char} (h : takePrefix? cs = none)
    (happend : cs = numeral ++ rest) {negative : Bool} {q : ℚ} : ¬ Writes numeral negative q := by
  intro hwrites
  obtain ⟨d, rest', htake, -⟩ := exists_takePrefix?_append hwrites rest
  rw [← happend, h] at htake
  contradiction

/-- **What is read off a text is the longest numeral that it starts with.** -/
theorem startsWith_of_takePrefix? {cs numeral rest : List Char} {d : Decimal}
    (h : takePrefix? cs = some (d, rest)) (happend : cs = numeral ++ rest) :
    StartsWith cs numeral rest d.negative d.magnitude where
  eq_append := happend
  writes := by
    obtain ⟨numeral', happend', hwrites⟩ := exists_writes_of_takePrefix? h
    rwa [List.append_cancel_right (happend.symm.trans happend')]
  longest {longer more _ _} hlonger hwrites := by
    obtain ⟨d', rest', htake, hle, -⟩ := exists_takePrefix?_append hwrites more
    rw [← hlonger, h] at htake
    cases htake
    have hlength := congrArg List.length (happend.symm.trans hlonger)
    rw [List.length_append, List.length_append] at hlength
    omega

end Decimal

/-- A numeral writes one number. -/
theorem Writes.unique {numeral : List Char} {negative negative' : Bool} {q q' : ℚ}
    (h : Writes numeral negative q) (h' : Writes numeral negative' q') :
    negative = negative' ∧ q = q' := by
  obtain ⟨d, rest, htake, -, hd⟩ := Decimal.exists_takePrefix?_append h []
  obtain ⟨d', rest', htake', -, hd'⟩ := Decimal.exists_takePrefix?_append h' []
  cases htake.symm.trans htake'
  exact ⟨(hd rfl).1.symm.trans (hd' rfl).1, (hd rfl).2.symm.trans (hd' rfl).2⟩

/-- A text starts with at most one longest numeral. -/
theorem StartsWith.unique {cs numeral numeral' rest rest' : List Char} {negative negative' : Bool}
    {q q' : ℚ} (h : StartsWith cs numeral rest negative q)
    (h' : StartsWith cs numeral' rest' negative' q') :
    numeral = numeral' ∧ rest = rest' ∧ negative = negative' ∧ q = q' := by
  have hlength : numeral.length = numeral'.length :=
    Nat.le_antisymm (h'.longest h.eq_append h.writes) (h.longest h'.eq_append h'.writes)
  obtain ⟨rfl, rfl⟩ := List.append_inj (h.eq_append.symm.trans h'.eq_append) hlength
  exact ⟨rfl, rfl, h.writes.unique h'.writes⟩

/-- Apart from its sign, a numeral begins with a digit or a point. -/
theorem Writes.exists_eq_append {numeral : List Char} {negative : Bool} {q : ℚ}
    (h : Writes numeral negative q) :
    ∃ sign c cs, numeral = sign ++ c :: cs ∧ IsSign sign negative ∧
      (isDigit c = true ∨ c = '.') := by
  cases h with
  | whole hsign hdigits =>
    obtain ⟨c, cs, rfl⟩ := List.exists_cons_of_ne_nil hdigits.ne_nil
    exact ⟨_, c, cs, rfl, hsign, .inl (hdigits.all c List.mem_cons_self)⟩
  | point hsign hdigits hfraction =>
    obtain ⟨c, cs, rfl⟩ := List.exists_cons_of_ne_nil hdigits.ne_nil
    exact ⟨_, c, _, List.append_assoc _ _ _, hsign, .inl (hdigits.all c List.mem_cons_self)⟩
  | fraction hsign hfraction => exact ⟨_, '.', _, rfl, hsign, .inr rfl⟩

/-! ## Converting a numeral -/

namespace Scientific

theorem namedBits?_cons {c : Char} (h : isDigit c = true ∨ c = '.') (cs : List Char) :
    namedBits? (c :: cs) = none := by
  have hc : c.toLower ≠ 'i' ∧ c.toLower ≠ 'n' := by
    have hlower : c.toLower = c := by
      apply toLower_eq_self
      rcases h with h | rfl
      · exact isAlpha_eq_false_of_isDigit h
      · rfl
    rw [hlower]
    constructor <;> rintro rfl <;> simp [isDigit] at h
  rw [namedBits?]
  split
  · next hname => simpa [hc] using congrArg String.toList hname
  · next hname => simpa [hc] using congrArg String.toList hname
  · next hname => simpa [hc] using congrArg String.toList hname
  · rfl

/-- The conversion of a numeral never fails: it gives the number nearest to what is written. -/
theorem exists_number?_eq {numeral : List Char} {negative : Bool} {q : ℚ}
    (h : Writes numeral negative q) :
    ∃ d : Decimal, number? numeral = some d.toFloat ∧ d.negative = negative ∧ d.magnitude = q := by
  obtain ⟨d, rest, htake, hlength, hd⟩ := Decimal.exists_takePrefix?_append h []
  obtain rfl : rest = [] := List.eq_nil_of_length_eq_zero (Nat.le_zero.mp hlength)
  rw [List.append_nil] at htake
  refine ⟨d, ?_, hd rfl⟩
  have hfinite : finite? numeral = some d.toFloat := by
    rw [finite?, htake]
    simp [exponent?, Decimal.toFloat]
  obtain ⟨sign, c, cs, hnumeral, hsign, hc⟩ := h.exists_eq_append
  have hsigned : Decimal.takeSign numeral = (negative, c :: cs) := by
    rw [hnumeral]
    exact Decimal.takeSign_append hsign (by rintro d ⟨⟩; exact hc)
  rw [number?, hsigned]
  dsimp only
  rw [namedBits?_cons hc, hfinite]

end Scientific

end TagQuery
