import TagQuery.Text.Blank
import TagQuery.Text.Digits

/-!
# Reading written numbers

The digits of a number are read as that number, padded or not, and a fixed number of them is taken
off whatever text they stand in front of.
-/

namespace TagQuery.Text

theorem isDigit_iff {c : Char} : isDigit c = true ↔ '0'.toNat ≤ c.toNat ∧ c.toNat ≤ '9'.toNat := by
  rw [isDigit, Bool.and_eq_true, decide_eq_true_iff, decide_eq_true_iff]
  rfl

/-- All digits are taken off the front of a text, up to what is none. -/
theorem takeWhile_isDigit_append {digits cs : List Char} (hdigits : ∀ c ∈ digits, isDigit c = true)
    (hcs : ∀ c ∈ cs.head?, isDigit c = false) :
    (digits ++ cs).takeWhile isDigit = digits ∧ (digits ++ cs).dropWhile isDigit = cs :=
  takeWhile_append_eq hdigits hcs

/-! ## Digits of a number -/

theorem isDigit_of_mem_toDigits {n : Nat} {c : Char} (h : c ∈ Nat.toDigits 10 n) :
    isDigit c = true := by
  have hdigit : c.isDigit = true := Nat.isDigit_of_mem_toDigits (by decide) (by decide) h
  rw [Char.isDigit, Bool.and_eq_true, decide_eq_true_iff, decide_eq_true_iff] at hdigit
  exact isDigit_iff.mpr hdigit

theorem ofDigits_toDigits (n : Nat) : ofDigits (Nat.toDigits 10 n) = n :=
  Nat.ofDigitChars_ten_toDigits

/-- A number written without padding begins with a zero only if it is zero. -/
theorem toDigits_eq_zero_cons {n : Nat} {cs : List Char} (h : Nat.toDigits 10 n = '0' :: cs) :
    n = 0 ∧ cs = [] := by
  induction n using Nat.strongRecOn generalizing cs with
  | ind n ih =>
    rw [Nat.toDigits_eq_if (by decide)] at h
    split at h
    · obtain ⟨hzero, hcs⟩ := List.cons_eq_cons.mp h
      exact ⟨Nat.digitChar_eq_zero.mp hzero, hcs.symm⟩
    · next hn =>
      -- the first digit is that of the number without its last one
      obtain ⟨c, cs', hhead⟩ := List.exists_cons_of_ne_nil (Nat.toDigits_ne_nil (n := n / 10))
      rw [hhead] at h
      obtain ⟨rfl, -⟩ := List.cons_eq_cons.mp h
      have hzero : n / 10 = 0 := (ih (n / 10) (by omega) hhead).1
      omega

theorem ofDigits?_eq_some {cs : List Char} (hne : cs ≠ []) (h : ∀ c ∈ cs, isDigit c = true) :
    ofDigits? cs = some (ofDigits cs) := by
  rw [ofDigits?, if_pos]
  rw [Bool.and_eq_true, Bool.not_eq_true', List.isEmpty_eq_false_iff, List.all_eq_true]
  exact ⟨hne, h⟩

theorem ofDigits?_toDigits (n : Nat) : ofDigits? (Nat.toDigits 10 n) = some n := by
  rw [ofDigits?_eq_some Nat.toDigits_ne_nil fun _ ↦ isDigit_of_mem_toDigits, ofDigits_toDigits]

/-! ## Padded numbers -/

theorem isDigit_of_mem_padDigits {width n : Nat} {c : Char} (h : c ∈ padDigits width n) :
    isDigit c = true := by
  rcases List.mem_append.mp h with h | h
  · rw [List.eq_of_mem_replicate h]
    rfl
  · exact isDigit_of_mem_toDigits h

theorem padDigits_ne_nil (width n : Nat) : padDigits width n ≠ [] :=
  List.append_ne_nil_of_right_ne_nil _ Nat.toDigits_ne_nil

/-- Padding does not change a number. -/
theorem ofDigits_padDigits (width n : Nat) : ofDigits (padDigits width n) = n := by
  change Nat.ofDigitChars 10 (_ ++ _) 0 = n
  rw [Nat.ofDigitChars_append, Nat.ofDigitChars_replicate_zero, Nat.mul_zero,
    Nat.ofDigitChars_ten_toDigits]

theorem length_padDigits {width n : Nat} (hwidth : 0 < width) (h : n < Nat.pow 10 width) :
    (padDigits width n).length = width := by
  have hle : (Nat.toDigits 10 n).length ≤ width :=
    (Nat.length_toDigits_le_iff (by decide) hwidth).mpr h
  rw [padDigits, List.length_append, List.length_replicate]
  omega

/-- A padded number is taken off the front of a text. -/
theorem takeDigits_padDigits {width n : Nat} (hwidth : 0 < width) (h : n < Nat.pow 10 width)
    (cs : List Char) : takeDigits width (padDigits width n ++ cs) = some (n, cs) := by
  have hlength := length_padDigits hwidth h
  have htake : (padDigits width n ++ cs).take width = padDigits width n := List.take_left' hlength
  have hdrop : (padDigits width n ++ cs).drop width = cs := List.drop_left' hlength
  rw [takeDigits, htake, if_pos hlength, hdrop,
    ofDigits?_eq_some (padDigits_ne_nil width n) fun _ ↦ isDigit_of_mem_padDigits,
    ofDigits_padDigits, Option.map_some]

end TagQuery.Text
