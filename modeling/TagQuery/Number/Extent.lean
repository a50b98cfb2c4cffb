import TagQuery.Number.Decimal
import TagQuery.Text.Utf8

/-!
# The extent of a number

The number that a text starts with is looked for in the bytes of the text: a sign, digits, and a
point only if digits follow it. All of these are ASCII characters, so the scan of the bytes stays
between two characters, and it stops where the number ends that `takePrefix?` reads
(`extent?_cases`).
-/

namespace TagQuery.Decimal

open Text

/-- A sign of a number. -/
def isSign (c : Char) : Bool := c = '-' || c = '+'

/-- The byte offset after the sign, if there is one, and the bytes from there on. -/
def signEnd : List UInt8 → Nat × List UInt8
  | [] => (0, [])
  | b :: bytes => if isSign (.ofUInt8 b) then (1, bytes) else (0, b :: bytes)

/-- The byte offset after the digits from an offset on, and the bytes from there on. -/
def digitsEnd (offset : Nat) : List UInt8 → Nat × List UInt8
  | [] => (offset, [])
  | b :: bytes =>
    if isDigit (.ofUInt8 b) then digitsEnd (offset + 1) bytes else (offset, b :: bytes)

/-- The byte offset after a point at an offset and the digits after it, if both are there. -/
def fractionEnd? (offset : Nat) : List UInt8 → Option Nat
  | [] => none
  | b :: bytes =>
    if Char.ofUInt8 b = '.' then
      let (fraction, _) := digitsEnd (offset + 1) bytes
      if offset + 1 < fraction then some fraction else none
    else none

/-- The byte offset at which the number ends that a text starts with. -/
def extent? (bytes : List UInt8) : Option Nat :=
  let (start, bytes) := signEnd bytes
  let (whole, bytes) := digitsEnd start bytes
  match fractionEnd? whole bytes with
  | some fraction => some fraction
  | none => if start < whole then some whole else none

/-! ## The scan of a text -/

theorem toNat_lt_of_isSign (c : Char) (h : isSign c = true) : c.toNat < 0x80 := by
  rw [isSign, Bool.or_eq_true, decide_eq_true_iff, decide_eq_true_iff] at h
  rcases h with rfl | rfl <;> decide

theorem toNat_lt_of_isDigit (c : Char) (h : isDigit c = true) : c.toNat < 0x80 := by
  rw [isDigit, Bool.and_eq_true, decide_eq_true_iff, decide_eq_true_iff] at h
  exact Nat.lt_of_le_of_lt h.2 (by decide)

theorem toNat_lt_of_eq_point (c : Char) (h : decide (c = '.') = true) : c.toNat < 0x80 := by
  rw [of_decide_eq_true h]
  decide

theorem takeSign_of_not_isSign {c : Char} (h : ¬ isSign c = true) (cs : List Char) :
    takeSign (c :: cs) = (false, c :: cs) := by
  have hc : c ≠ '-' ∧ c ≠ '+' := by simpa [isSign] using h
  simp [takeSign, hc]

theorem signEnd_utf8 (cs : List Char) :
    ∃ sign, cs = sign ++ (takeSign cs).2 ∧
      signEnd (utf8 cs) = (utf8Length sign, utf8 (takeSign cs).2) := by
  cases cs with
  | nil => exact ⟨[], rfl, rfl⟩
  | cons c cs =>
    obtain ⟨b, bytes, hbytes, hb, hrest⟩ := head_utf8 toNat_lt_of_isSign c cs
    rw [hbytes, signEnd, hb]
    split
    · next h =>
      obtain ⟨hsize, rfl⟩ := hrest h
      rw [isSign, Bool.or_eq_true, decide_eq_true_iff, decide_eq_true_iff] at h
      rcases h with rfl | rfl
      · exact ⟨['-'], rfl, rfl⟩
      · exact ⟨['+'], rfl, rfl⟩
    · next h =>
      rw [takeSign_of_not_isSign h, ← hbytes]
      exact ⟨[], rfl, rfl⟩

theorem digitsEnd_utf8 (offset : Nat) (cs : List Char) :
    digitsEnd offset (utf8 cs) =
      (offset + utf8Length (cs.takeWhile isDigit), utf8 (cs.dropWhile isDigit)) := by
  induction cs generalizing offset with
  | nil => rfl
  | cons c cs ih =>
    obtain ⟨b, bytes, hbytes, hb, hrest⟩ := head_utf8 toNat_lt_of_isDigit c cs
    rw [hbytes, digitsEnd, hb]
    split
    · next h =>
      obtain ⟨hsize, rfl⟩ := hrest h
      rw [ih, List.takeWhile_cons_of_pos h, List.dropWhile_cons_of_pos h, utf8Length_cons, hsize,
        Nat.add_assoc]
    · next h =>
      rw [List.takeWhile_cons_of_neg h, List.dropWhile_cons_of_neg h, hbytes]
      rfl

theorem utf8Length_pos {cs : List Char} (h : cs ≠ []) : 0 < utf8Length cs := by
  cases cs with
  | nil => contradiction
  | cons c cs => exact Nat.add_pos_left c.utf8Size_pos _

/-- A fraction is found in the bytes if there is one, and ends where its digits do. -/
theorem fractionEnd?_cases (offset : Nat) (cs : List Char) :
    (takeFraction cs = ([], cs) ∧ fractionEnd? offset (utf8 cs) = none) ∨
    ∃ digits rest, takeFraction cs = (digits, rest) ∧ digits ≠ [] ∧ cs = '.' :: digits ++ rest ∧
      fractionEnd? offset (utf8 cs) = some (offset + utf8Length ('.' :: digits)) := by
  cases cs with
  | nil => exact .inl ⟨rfl, rfl⟩
  | cons c cs =>
    obtain ⟨b, bytes, hbytes, hb, hrest⟩ := head_utf8 toNat_lt_of_eq_point c cs
    have hpoint : Char.ofUInt8 b = '.' ↔ c = '.' := by simpa using hb
    rw [hbytes, fractionEnd?, ite_cond_congr (propext hpoint)]
    split
    · next h =>
      subst h
      obtain ⟨-, rfl⟩ := hrest rfl
      rw [digitsEnd_utf8, takeFraction]
      dsimp only
      by_cases hdigits : cs.takeWhile isDigit = []
      · refine .inl ⟨?_, ?_⟩
        · rw [hdigits, List.isEmpty_nil, if_pos rfl]
        · rw [hdigits, utf8Length_nil, Nat.add_zero, if_neg (Nat.lt_irrefl _)]
      · refine .inr ⟨cs.takeWhile isDigit, cs.dropWhile isDigit, ?_, hdigits, ?_, ?_⟩
        · rw [if_neg (mt List.isEmpty_iff.mp hdigits)]
        · rw [List.cons_append, List.takeWhile_append_dropWhile]
        · rw [if_pos (Nat.lt_add_of_pos_right (utf8Length_pos hdigits)), Nat.add_assoc]
          rfl
    · next h =>
      refine .inl ⟨?_, rfl⟩
      simp [takeFraction, h]

/-- The scan of the bytes stops where the number ends that is read from the characters. -/
theorem extent?_cases (cs : List Char) :
    (takePrefix? cs = none ∧ extent? (utf8 cs) = none) ∨
    ∃ number rest d, cs = number ++ rest ∧ takePrefix? cs = some (d, rest) ∧
      extent? (utf8 cs) = some (utf8Length number) := by
  obtain ⟨sign, hcs, hsign⟩ := signEnd_utf8 cs
  obtain ⟨body, hbody⟩ : ∃ body, (takeSign cs).2 = body := ⟨_, rfl⟩
  obtain ⟨whole, hwhole⟩ : ∃ whole, body.takeWhile isDigit = whole := ⟨_, rfl⟩
  obtain ⟨tail, htail⟩ : ∃ tail, body.dropWhile isDigit = tail := ⟨_, rfl⟩
  have htake : takeSign cs = ((takeSign cs).1, body) := by rw [← hbody]
  have hparts : cs = sign ++ whole ++ tail := by
    rw [List.append_assoc, ← hwhole, ← htail, List.takeWhile_append_dropWhile, ← hbody]
    exact hcs
  simp only [extent?, hsign, hbody, digitsEnd_utf8, hwhole, htail]
  rcases fractionEnd?_cases (utf8Length sign + utf8Length whole) tail with
    ⟨hfraction, hend⟩ | ⟨digits, rest, hfraction, hdigits, hrest, hend⟩
  · rw [hend]
    rw [← htail] at hfraction
    by_cases hempty : whole = []
    · refine .inl ⟨takePrefix?_eq_none htake hwhole hfraction hempty rfl, if_neg ?_⟩
      rw [hempty]
      exact Nat.lt_irrefl _
    · have hread := takePrefix?_eq_some htake hwhole hfraction (.inl hempty)
      rw [htail] at hread
      refine .inr ⟨sign ++ whole, tail, _, hparts, hread, ?_⟩
      rw [utf8Length_append]
      exact if_pos (Nat.lt_add_of_pos_right (utf8Length_pos hempty))
  · rw [hend]
    rw [← htail] at hfraction
    refine .inr ⟨sign ++ whole ++ '.' :: digits, rest, _, ?_,
      takePrefix?_eq_some htake hwhole hfraction (.inr hdigits), ?_⟩
    · rw [hparts, hrest, List.append_assoc _ ('.' :: digits)]
    · rw [utf8Length_append, utf8Length_append]

-- a point belongs to a number only with digits after it, whatever else follows
example : extent? (utf8 ['5', '.', '½']) = some 1 := by decide

end TagQuery.Decimal
