import Mathlib
import TagQuery.Proofs.Number.Nearest
import TagQuery.Proofs.Number.Numeral

/-!
# Correct rounding

A floating-point number is a sign and a magnitude, or no number at all. The number that is read for
a decimal number has its sign and, of all magnitudes, the nearest one; if two are equally near, it
is the one whose last bit is even (`Decimal.isCorrectlyRounded_toFloat`). The comparison is with
every floating-point number there is, infinity included as the power of two beyond the largest
number.

What the bits of a number mean is taken from its unpacked form, a mantissa and an exponent. That
form has the magnitude that `units` counts (`unpackedSigned?_unpack`), so the nearest bits are found
by what is known of those counts.
-/

namespace TagQuery

open Float.Model

/-- The sign and the magnitude of an unpacked number. Infinity counts as the power of two beyond the
largest number; what is no number has neither. -/
def unpackedSigned? : UnpackedFloat → Option (Bool × ℚ)
  | .notANumber => none
  | .infinity sign => some (sign == .negative, 2 ^ 1024)
  | .zero sign => some (sign == .negative, 0)
  | .finite sign m e _ => some (sign == .negative, m * 2 ^ e)

/-- The sign and the magnitude of a number. -/
def signed? (x : Float) : Option (Bool × ℚ) := unpackedSigned? x.toModel.unpack

/-- Whether a number has a sign and, of all numbers, the magnitude nearest to a given one, with an
even last bit if two are equally near. -/
def IsCorrectlyRounded (negative : Bool) (q : ℚ) (x : Float) : Prop :=
  ∃ v, signed? x = some (negative, v) ∧ ∀ y sign w, signed? y = some (sign, w) →
    |v - q| ≤ |w - q| ∧ (|v - q| = |w - q| → w = v ∨ x.toBits.toNat % 2 = 0)

namespace Binary64

theorem toNat_unpackMantissa (b : BitVec Format.binary64.numBits) :
    (UnpackedFloat.unpackMantissa b).toNat = b.toNat % 2 ^ 52 := by
  rw [UnpackedFloat.unpackMantissa_def, BitVec.extractLsb'_toNat, Nat.shiftRight_zero]

theorem toNat_unpackExponent (b : BitVec Format.binary64.numBits) :
    (UnpackedFloat.unpackExponent b).toNat = b.toNat / 2 ^ 52 % 2 ^ 11 := by
  rw [UnpackedFloat.unpackExponent_def, BitVec.extractLsb'_toNat, Nat.shiftRight_eq_div_pow]

theorem toNat_unpackSign (b : BitVec Format.binary64.numBits) :
    (UnpackedFloat.unpackSign b).toNat = b.toNat / 2 ^ 63 % 2 := by
  rw [UnpackedFloat.unpackSign_def, BitVec.extractLsb'_toNat, Nat.shiftRight_eq_div_pow]
  rfl

theorem isNegative_eq (b : BitVec Format.binary64.numBits) :
    (UnpackedFloat.Sign.ofBitVec (UnpackedFloat.unpackSign b) == .negative) =
      decide (2 ^ 63 ≤ b.toNat) := by
  have hlt : b.toNat < 2 ^ 64 := b.isLt
  have hsign := toNat_unpackSign b
  rw [UnpackedFloat.Sign.ofBitVec]
  split
  · next h =>
    rw [h] at hsign
    have hbelow : ¬ 2 ^ 63 ≤ b.toNat := by
      have hzero : (0#1).toNat = 0 := rfl
      omega
    rw [decide_eq_false hbelow]
    rfl
  · next h =>
    have habove : 2 ^ 63 ≤ b.toNat := by
      have hne : (UnpackedFloat.unpackSign b).toNat ≠ 0 :=
        fun hzero ↦ h (BitVec.eq_of_toNat_eq hzero)
      omega
    rw [decide_eq_true habove]
    rfl

/-- A count of units of a scale, as a mantissa and an exponent. -/
theorem units_div {s m : ℕ} (hm : m ≤ 2 ^ 53) (hs : 2 ^ 52 ≤ m ∨ s = 0) {e : ℤ}
    (he : e = s - (1074 : ℕ)) : (units (s * 2 ^ 52 + m) / 2 ^ 1074 : ℚ) = m * 2 ^ e := by
  rw [units_scale hm hs, he, zpow_sub₀ two_ne_zero, zpow_natCast, zpow_natCast, mul_div_assoc',
    Nat.cast_mul, Nat.cast_pow, Nat.cast_ofNat]

theorem units_infinityBits_div : (units infinityBits / 2 ^ 1074 : ℚ) = 2 ^ 1024 := by
  have hunit : (2 : ℚ) ^ 1074 ≠ 0 := pow_ne_zero _ two_ne_zero
  rw [units_infinityBits, Nat.cast_mul, Nat.cast_pow, Nat.cast_pow, Nat.cast_ofNat,
    ← two_zpow_mul (e := (1024 : ℕ)) (a := 1074) (by omega), mul_div_cancel_right₀ _ hunit,
    zpow_natCast]

/-- The unpacked form has the sign and the magnitude of the bits. -/
theorem unpackedSigned?_unpack (b : BitVec Format.binary64.numBits) :
    unpackedSigned? (UnpackedFloat.unpack Format.binary64 b) =
      if b.toNat % 2 ^ 63 ≤ infinityBits then
        some (decide (2 ^ 63 ≤ b.toNat), (units (b.toNat % 2 ^ 63) / 2 ^ 1074 : ℚ))
      else none := by
  have hmantissa := toNat_unpackMantissa b
  have hexponent := toNat_unpackExponent b
  have hbits : b.toNat % 2 ^ 63 = (UnpackedFloat.unpackExponent b).toNat * 2 ^ 52 +
      (UnpackedFloat.unpackMantissa b).toNat := by omega
  have hlt : (UnpackedFloat.unpackMantissa b).toNat < 2 ^ 52 :=
    (UnpackedFloat.unpackMantissa b).isLt
  have hle : (UnpackedFloat.unpackExponent b).toNat ≤ 2047 :=
    Nat.le_of_lt_succ (UnpackedFloat.unpackExponent b).isLt
  have hmax : UnpackedFloat.unpackExponent b = -1#_ ↔
    (UnpackedFloat.unpackExponent b).toNat = 2047 := BitVec.toNat_inj.symm
  have hmin : UnpackedFloat.unpackExponent b = 0#_ ↔
    (UnpackedFloat.unpackExponent b).toNat = 0 := BitVec.toNat_inj.symm
  have hzero : UnpackedFloat.unpackMantissa b = 0#_ ↔
    (UnpackedFloat.unpackMantissa b).toNat = 0 := BitVec.toNat_inj.symm
  rw [← isNegative_eq, hbits, UnpackedFloat.unpack]
  dsimp only
  split
  · next h =>
    rw [hmax.mp h]
    split
    · next hm =>
      have hinfinity : 2047 * 2 ^ 52 + 0 = infinityBits := rfl
      rw [hzero.mp hm, hinfinity, if_pos le_rfl, units_infinityBits_div]
      rfl
    · next hm =>
      have hbeyond : ¬ 2047 * 2 ^ 52 + (UnpackedFloat.unpackMantissa b).toNat ≤ infinityBits := by
        have := mt hzero.mpr hm
        rw [infinityBits]
        omega
      rw [if_neg hbeyond]
      rfl
  next hne =>
  have hfinite : (UnpackedFloat.unpackExponent b).toNat * 2 ^ 52 +
      (UnpackedFloat.unpackMantissa b).toNat ≤ infinityBits := by
    have := mt hmax.mpr hne
    rw [infinityBits]
    omega
  rw [if_pos hfinite]
  split
  · next h =>
    rw [hmin.mp h]
    split
    · next hm =>
      rw [hzero.mp hm, units_div (e := -1074) (by omega) (.inr rfl) (by omega), Nat.cast_zero,
        zero_mul]
      rfl
    · rw [units_div (by omega) (.inr rfl) rfl]
      rfl
  · next h =>
    have hpos := mt hmin.mpr h
    have hnormal : (1#1 ++ UnpackedFloat.unpackMantissa b).toNat =
        2 ^ 52 + (UnpackedFloat.unpackMantissa b).toNat := by
      rw [BitVec.toNat_append, Nat.shiftLeft_eq_mul_pow, Nat.mul_comm,
        ← Nat.two_pow_add_eq_or_of_lt (UnpackedFloat.unpackMantissa b).isLt]
      rfl
    have hscale : (UnpackedFloat.unpackExponent b).toNat * 2 ^ 52 +
        (UnpackedFloat.unpackMantissa b).toNat =
          ((UnpackedFloat.unpackExponent b).toNat - 1) * 2 ^ 52 +
            (2 ^ 52 + (UnpackedFloat.unpackMantissa b).toNat) := by omega
    have hbias : (Format.binary64.exponentBias : ℤ) = 1023 := rfl
    rw [hscale, unpackedSigned?, hnormal, units_div (by omega) (.inl (Nat.le_add_right _ _)) ?_]
    rw [hbias]
    omega

/-! ## Signs and magnitudes by bits -/

theorem signed?_eq (x : Float) :
    signed? x =
      if x.toBits.toNat % 2 ^ 63 ≤ infinityBits then
        some (decide (2 ^ 63 ≤ x.toBits.toNat), (units (x.toBits.toNat % 2 ^ 63) / 2 ^ 1074 : ℚ))
      else none :=
  unpackedSigned?_unpack x.toBits.toBitVec

theorem exists_of_signed? {x : Float} {negative : Bool} {v : ℚ}
    (h : signed? x = some (negative, v)) :
    ∃ bits ≤ infinityBits, v = units bits / 2 ^ 1074 ∧
      x.toBits.toNat = (if negative then 2 ^ 63 + bits else bits) := by
  have hlt : x.toBits.toNat < 2 ^ 64 := x.toBits.toNat_lt
  rw [signed?_eq] at h
  split at h
  · next hle =>
    refine ⟨_, hle, ?_, ?_⟩
    · cases h
      rfl
    · cases h
      split
      · next hnegative =>
        have := of_decide_eq_true hnegative
        omega
      · next hpositive =>
        have := of_decide_eq_false (Bool.eq_false_iff.mpr hpositive)
        omega
  · contradiction

theorem isNaNBits_eq_false {b : BitVec Format.binary64.numBits}
    (h : b.toNat % 2 ^ 63 ≤ infinityBits) : UnpackedFloat.isNaNBits b = false := by
  apply decide_eq_false
  rintro ⟨hexponent, hmantissa⟩
  have hmax : (UnpackedFloat.unpackExponent b).toNat = 2047 := congrArg BitVec.toNat hexponent
  have hne : (UnpackedFloat.unpackMantissa b).toNat ≠ 0 :=
    fun hzero ↦ hmantissa (BitVec.eq_of_toNat_eq hzero)
  rw [toNat_unpackExponent] at hmax
  rw [toNat_unpackMantissa] at hne
  rw [infinityBits] at h
  omega

/-- Bits of a number are kept as they are. Only other bits are changed, to those of one value. -/
theorem toBits_ofBits {w : UInt64} (h : w.toNat % 2 ^ 63 ≤ infinityBits) :
    (Float.ofBits w).toBits = w := by
  change UInt64.ofBitVec
    (UnpackedFloat.pack .binary64 (UnpackedFloat.unpack .binary64 w.toBitVec)) = w
  rw [UnpackedFloat.pack_unpack, isNaNBits_eq_false h]
  rfl

theorem toNat_toBits_withSign (negative : Bool) {bits : ℕ} (h : bits ≤ infinityBits) :
    (withSign negative bits).toBits.toNat = if negative then 2 ^ 63 + bits else bits := by
  have hlt : bits < 2 ^ 63 := h.trans_lt (by decide)
  have hword : (UInt64.ofNat (if negative then Nat.pow 2 63 + bits else bits)).toNat =
      if negative then 2 ^ 63 + bits else bits := by
    apply UInt64.toNat_ofNat_of_lt'
    rw [UInt64.size]
    cases negative <;> simp <;> omega
  rw [withSign, toBits_ofBits, hword]
  rw [hword]
  cases negative with
  | false => rwa [if_neg Bool.false_ne_true, Nat.mod_eq_of_lt hlt]
  | true => rwa [if_pos rfl, Nat.add_mod_left, Nat.mod_eq_of_lt hlt]

theorem signed?_withSign (negative : Bool) {bits : ℕ} (h : bits ≤ infinityBits) :
    signed? (withSign negative bits) = some (negative, (units bits / 2 ^ 1074 : ℚ)) := by
  have hlt : bits < 2 ^ 63 := h.trans_lt (by decide)
  rw [signed?_eq, toNat_toBits_withSign negative h]
  cases negative with
  | false =>
    rw [if_neg Bool.false_ne_true, Nat.mod_eq_of_lt hlt, if_pos h,
      decide_eq_false (Nat.not_le_of_lt hlt)]
  | true =>
    rw [if_pos rfl, Nat.add_mod_left, Nat.mod_eq_of_lt hlt, if_pos h,
      decide_eq_true (Nat.le_add_right _ _)]

/-! ## Rounding -/

theorem abs_div_sub (n : ℕ) (q : ℚ) :
    |(n / 2 ^ 1074 : ℚ) - q| = |n - q * 2 ^ 1074| / 2 ^ 1074 := by
  have hpos : (0 : ℚ) < 2 ^ 1074 := by positivity
  rw [← abs_of_pos hpos, ← abs_div, abs_of_pos hpos, sub_div, mul_div_cancel_right₀ _ hpos.ne']

section

variable {q : ℚ} {bits : ℕ} {negative : Bool} {x : Float}

/-- The nearest bits with a sign are nearest among all numbers. -/
theorem isCorrectlyRounded_withSign (h : IsNearest (q * 2 ^ 1074) bits) (negative : Bool) :
    IsCorrectlyRounded negative q (withSign negative bits) := by
  refine ⟨_, signed?_withSign negative h.le_infinityBits, ?_⟩
  intro y sign w hy
  obtain ⟨other, hother, rfl, -⟩ := exists_of_signed? hy
  have hpos : (0 : ℚ) < 2 ^ 1074 := by positivity
  rw [abs_div_sub, abs_div_sub]
  refine ⟨div_le_div_of_nonneg_right (h.nearest hother) hpos.le, fun htie ↦ ?_⟩
  rw [div_left_inj' hpos.ne'] at htie
  refine (h.even_of_tie hother htie).imp (fun heq ↦ by rw [heq]) fun heven ↦ ?_
  rw [toNat_toBits_withSign negative h.le_infinityBits]
  cases negative with
  | false => exact heven
  | true =>
    rw [if_pos rfl]
    omega

/-- A correctly rounded number has the nearest bits. -/
theorem exists_isNearest (h : IsCorrectlyRounded negative q x) :
    ∃ bits, IsNearest (q * 2 ^ 1074) bits ∧
      x.toBits.toNat = if negative then 2 ^ 63 + bits else bits := by
  obtain ⟨v, hx, hnear⟩ := h
  obtain ⟨bits, hle, rfl, hbits⟩ := exists_of_signed? hx
  have hpos : (0 : ℚ) < 2 ^ 1074 := by positivity
  refine ⟨bits, ⟨hle, fun hother ↦ ?_, fun hother htie ↦ ?_⟩, hbits⟩
  · have hdist := (hnear _ _ _ (signed?_withSign false hother)).1
    rwa [abs_div_sub, abs_div_sub, div_le_div_iff_of_pos_right hpos] at hdist
  · have heven := (hnear _ _ _ (signed?_withSign false hother)).2
    rw [abs_div_sub, abs_div_sub, div_left_inj' hpos.ne', div_left_inj' hpos.ne', hbits] at heven
    refine (heven htie).imp (fun heq ↦ ?_) fun hlast ↦ ?_
    · exact units_strictMono.injective (by exact_mod_cast heq)
    · split at hlast <;> omega

end

end Binary64

/-- There is one correctly rounded number. -/
theorem IsCorrectlyRounded.unique {negative : Bool} {q : ℚ} {x y : Float}
    (hx : IsCorrectlyRounded negative q x) (hy : IsCorrectlyRounded negative q y) : x = y := by
  obtain ⟨bits, hnearest, hbits⟩ := Binary64.exists_isNearest hx
  obtain ⟨bits', hnearest', hbits'⟩ := Binary64.exists_isNearest hy
  rw [hnearest'.unique hnearest, ← hbits, UInt64.toNat_inj, Float.toBits_inj] at hbits'
  exact hbits'.symm

/-- **The number read for a decimal number is correctly rounded.** -/
theorem Decimal.isCorrectlyRounded_toFloat (d : Decimal) :
    IsCorrectlyRounded d.negative d.magnitude d.toFloat := by
  have hnearest := Binary64.isNearest_decimalBits d.significand (-d.places)
  rw [zpow_neg, zpow_natCast, ← div_eq_mul_inv] at hnearest
  exact Binary64.isCorrectlyRounded_withSign hnearest d.negative

end TagQuery
