import Mathlib.Algebra.Order.Field.Power
import Mathlib.Algebra.Order.Ring.Rat
import Mathlib.Order.Monotone.Basic
import Mathlib.Tactic.FieldSimp
import Mathlib.Tactic.Linarith
import Mathlib.Tactic.NormNum
import Mathlib.Tactic.Positivity
import Mathlib.Tactic.Ring
import TagQuery.Number.Binary64

/-!
# The nearest number

The magnitudes of the numbers of 64 bits are counted here in units of the smallest positive one.
They grow with the bits (`units_strictMono`), and between two powers of two they are a grid. Reading
a decimal number means rounding on the grid that belongs to its size, which `scaleOf` finds
(`scaleOf_spec`). That rounding gives the nearest number of all: the numbers above lie on the same
grid, and the numbers below lie on a finer one, but under a power of two that is on the grid and
nearer than any of them (`isNearest_of_scale`).

Infinity takes part as the power of two with which the grid would go on. So what is nearer to that
than to the largest number is read as infinity.
-/

namespace TagQuery.Binary64

/-! ## Magnitudes in units of the smallest number -/

/-- The magnitude with given bits, in units of the smallest positive number. -/
def units (bits : ℕ) : ℕ :=
  if bits < 2 ^ 52 then bits else (2 ^ 52 + bits % 2 ^ 52) * 2 ^ (bits / 2 ^ 52 - 1)

/-- The magnitude with the bits that count `m` units of the grid of a scale. -/
theorem units_scale {s m : ℕ} (hm : m ≤ 2 ^ 53) (hs : 2 ^ 52 ≤ m ∨ s = 0) :
    units (s * 2 ^ 52 + m) = m * 2 ^ s := by
  rw [units]
  rcases Nat.lt_or_ge m (2 ^ 52) with hlt | hge
  · obtain rfl : s = 0 := by omega
    rw [if_pos (by omega)]
    omega
  rw [if_neg (by omega)]
  rcases Nat.lt_or_eq_of_le hm with hlt | rfl
  · have hdiv : (s * 2 ^ 52 + m) / 2 ^ 52 - 1 = s := by omega
    have hmod : 2 ^ 52 + (s * 2 ^ 52 + m) % 2 ^ 52 = m := by omega
    rw [hdiv, hmod]
  · -- the end of one grid is the start of the next
    have hdiv : (s * 2 ^ 52 + 2 ^ 53) / 2 ^ 52 - 1 = s + 1 := by omega
    have hmod : 2 ^ 52 + (s * 2 ^ 52 + 2 ^ 53) % 2 ^ 52 = 2 ^ 52 := by omega
    rw [hdiv, hmod, Nat.pow_succ']
    ring

/-- All bits count units of the grid of some scale. -/
theorem exists_scale (bits : ℕ) :
    ∃ s m, bits = s * 2 ^ 52 + m ∧ m < 2 ^ 53 ∧ (2 ^ 52 ≤ m ∨ s = 0) := by
  refine ⟨bits / 2 ^ 52 - 1, bits - (bits / 2 ^ 52 - 1) * 2 ^ 52, ?_, ?_, ?_⟩ <;> omega

theorem units_strictMono : StrictMono units := by
  apply strictMono_nat_of_lt_succ
  intro bits
  obtain ⟨s, m, rfl, hm, hs⟩ := exists_scale bits
  rw [units_scale hm.le hs, Nat.add_assoc, units_scale hm (by omega)]
  exact Nat.mul_lt_mul_of_pos_right (Nat.lt_succ_self m) (by positivity)

/-- Bits that are not below a scale count units of its grid. -/
theorem dvd_units {s bits : ℕ} (h : (s + 1) * 2 ^ 52 ≤ bits ∨ s = 0) : 2 ^ s ∣ units bits := by
  obtain ⟨t, m, rfl, hm, ht⟩ := exists_scale bits
  rw [units_scale hm.le ht]
  exact Nat.dvd_mul_left_of_dvd (Nat.pow_dvd_pow 2 (by omega)) m

theorem units_infinityBits : units infinityBits = 2 ^ 52 * 2 ^ 2046 := by
  have hscale : infinityBits = 2046 * 2 ^ 52 + 2 ^ 52 := by decide
  rw [hscale]
  exact units_scale (by omega) (.inl le_rfl)

/-! ## The nearest number -/

/-- The bits of the magnitude nearest to a number of units, even ones if two are equally near. -/
structure IsNearest (x : ℚ) (bits : ℕ) : Prop where
  le_infinityBits : bits ≤ infinityBits
  nearest {other : ℕ} (h : other ≤ infinityBits) : |units bits - x| ≤ |units other - x|
  even_of_tie {other : ℕ} (h : other ≤ infinityBits) (htie : |units bits - x| = |units other - x|) :
    other = bits ∨ bits % 2 = 0

/-- What is not below infinity is nearest to it. -/
theorem isNearest_infinityBits {x : ℚ} (h : units infinityBits ≤ x) : IsNearest x infinityBits where
  le_infinityBits := le_rfl
  nearest {other} hother := by
    have hle : (units other : ℚ) ≤ units infinityBits := by
      exact_mod_cast units_strictMono.monotone hother
    rw [abs_sub_comm, abs_sub_comm (units other : ℚ), abs_of_nonneg (by linarith),
      abs_of_nonneg (by linarith)]
    linarith
  even_of_tie _ _ := .inr (by decide)

/-- What is below half a unit is nearest to zero. -/
theorem isNearest_zero {x : ℚ} (hnonneg : 0 ≤ x) (h : x < 1 / 2) : IsNearest x 0 where
  le_infinityBits := Nat.zero_le _
  nearest {other} _ := by
    rcases Nat.eq_zero_or_pos other with rfl | hpos
    · exact le_rfl
    have hone : (1 : ℚ) ≤ units other := by exact_mod_cast units_strictMono hpos
    have hzero : (units 0 : ℚ) = 0 := rfl
    rw [hzero, abs_sub_comm, abs_of_nonneg (by linarith), abs_of_nonneg (by linarith)]
    linarith
  even_of_tie _ _ := .inr rfl

/-- Of two numbers equally near to a third, one is as much above it as the other is below. -/
theorem add_eq_of_abs_sub_eq {x y z : ℚ} (hlt : y < z) (h : |y - x| = |z - x|) : y + z = 2 * x := by
  rcases abs_eq_abs.mp h with h | h <;> linarith

/-- Of two nearest magnitudes one would be odd, or there would be a nearer one between them. -/
theorem IsNearest.le {x : ℚ} {b c : ℕ} (hb : IsNearest x b) (hc : IsNearest x c) : c ≤ b := by
  by_contra hnot
  have hlt : b < c := lt_of_not_ge hnot
  have htie := le_antisymm (hb.nearest hc.le_infinityBits) (hc.nearest hb.le_infinityBits)
  have hbeven := (hb.even_of_tie hc.le_infinityBits htie).resolve_left hlt.ne'
  have hceven := (hc.even_of_tie hb.le_infinityBits htie.symm).resolve_left hlt.ne
  -- both are even, so there is a magnitude between them
  have hbetween : b + 1 < c := by omega
  have hbelow : (units b : ℚ) < units (b + 1) := by
    exact_mod_cast units_strictMono (Nat.lt_succ_self b)
  have habove : (units (b + 1) : ℚ) < units c := by exact_mod_cast units_strictMono hbetween
  have hmiddle := add_eq_of_abs_sub_eq (hbelow.trans habove) htie
  have hle := hb.nearest (hbetween.le.trans hc.le_infinityBits)
  rw [abs_sub_comm, abs_of_nonneg (by linarith)] at hle
  rcases abs_cases ((units (b + 1) : ℚ) - x) with ⟨h, -⟩ | ⟨h, -⟩ <;> linarith

theorem IsNearest.unique {x : ℚ} {b c : ℕ} (hb : IsNearest x b) (hc : IsNearest x c) : b = c :=
  le_antisymm (hc.le hb) (hb.le hc)

/-! ## Rounding on a grid -/

/-- The integer nearest to a number, the even one if two are equally near. -/
structure IsRounding (x : ℚ) (m : ℕ) : Prop where
  le_half : |m - x| ≤ 1 / 2
  even_of_tie (h : |m - x| = 1 / 2) : m % 2 = 0

theorem IsRounding.of_lt {x : ℚ} {m : ℕ} (h : |m - x| < 1 / 2) : IsRounding x m :=
  ⟨h.le, fun htie ↦ absurd htie h.ne⟩

theorem isRounding_roundDiv (a : ℕ) {b : ℕ} (hb : 0 < b) : IsRounding (a / b) (roundDiv a b) := by
  have hpos : (0 : ℚ) < b := by exact_mod_cast hb
  -- beside the quotient, the remainder decides
  obtain ⟨f, hf⟩ : ∃ f : ℚ, f = (a % b : ℕ) / b := ⟨_, rfl⟩
  have hx : (a / b : ℚ) = (a / b : ℕ) + f := by
    have hdiv : (a : ℚ) = (a / b : ℕ) * b + (a % b : ℕ) := by
      exact_mod_cast (Nat.div_add_mod' a b).symm
    rw [hf, div_eq_iff hpos.ne', add_mul, div_mul_cancel₀ _ hpos.ne']
    exact hdiv
  have hnonneg : 0 ≤ f := hf ▸ by positivity
  have hone : f < 1 := by
    rw [hf, div_lt_one hpos]
    exact_mod_cast Nat.mod_lt a hb
  rw [roundDiv, hx]
  split
  · next hlt =>
    have hhalf : f < 1 / 2 := by
      rw [hf, div_lt_div_iff₀ hpos two_pos, one_mul, mul_comm]
      exact_mod_cast hlt
    apply IsRounding.of_lt
    rw [sub_add_cancel_left, abs_neg, abs_of_nonneg hnonneg]
    exact hhalf
  split
  · next hgt =>
    have hhalf : 1 / 2 < f := by
      rw [hf, div_lt_div_iff₀ two_pos hpos, one_mul, mul_comm]
      exact_mod_cast hgt
    apply IsRounding.of_lt
    rw [Nat.cast_add, Nat.cast_one, add_sub_add_left_eq_sub, abs_of_pos (by linarith)]
    linarith
  · next hge hle =>
    have hhalf : f = 1 / 2 := by
      have htie : 2 * (a % b) = b := by omega
      rw [hf, div_eq_div_iff hpos.ne' two_ne_zero, one_mul, mul_comm]
      exact_mod_cast htie
    refine ⟨?_, fun _ ↦ by omega⟩
    rw [hhalf, Nat.cast_add, add_sub_add_left_eq_sub]
    rcases Nat.mod_two_eq_zero_or_one (a / b) with h | h <;> rw [h] <;> norm_num

/-- No integer is nearer than the rounded one, and as near only if that one is even. -/
theorem IsRounding.nearest {x : ℚ} {m : ℕ} (h : IsRounding x m) (k : ℕ) :
    |m - x| ≤ |k - x| ∧ (|m - x| = |k - x| → k = m ∨ m % 2 = 0) := by
  rcases eq_or_ne k m with rfl | hne
  · exact ⟨le_rfl, fun _ ↦ .inl rfl⟩
  have hone : (1 : ℚ) ≤ |(k : ℚ) - m| := by
    have hint : (k : ℤ) - m ≠ 0 := sub_ne_zero.mpr (by exact_mod_cast hne)
    exact_mod_cast Int.one_le_abs hint
  have htriangle : |(k : ℚ) - m| ≤ |k - x| + |m - x| := by
    rw [abs_sub_comm (m : ℚ)]
    exact abs_sub_le _ _ _
  have hhalf := h.le_half
  refine ⟨by linarith, fun htie ↦ .inr (h.even_of_tie ?_)⟩
  exact le_antisymm hhalf (by linarith)

/-- The distance of a multiple is that of the number on the grid. -/
theorem abs_mul_sub (x : ℚ) (s k : ℕ) : |((k * 2 ^ s : ℕ) : ℚ) - x| = |k - x / 2 ^ s| * 2 ^ s := by
  have hpos : (0 : ℚ) < 2 ^ s := by positivity
  rw [← abs_of_pos hpos, ← abs_mul, abs_of_pos hpos, sub_mul, div_mul_cancel₀ _ hpos.ne']
  push_cast
  rfl

theorem cast_start_le {x : ℚ} {s : ℕ} (h : 2 ^ 52 ≤ x / 2 ^ s) :
    ((2 ^ 52 * 2 ^ s : ℕ) : ℚ) ≤ x := by
  push_cast
  exact (le_div_iff₀ (by positivity)).mp h

section Scale

variable {x : ℚ} {s m : ℕ} (hround : IsRounding (x / 2 ^ s) m)
include hround

/-- On the grid of a scale the rounded number is nearest. -/
theorem abs_sub_le_of_dvd {c : ℕ} (hc : 2 ^ s ∣ units c) :
    |((m * 2 ^ s : ℕ) : ℚ) - x| ≤ |units c - x| ∧
      (|((m * 2 ^ s : ℕ) : ℚ) - x| = |units c - x| → units c = m * 2 ^ s ∨ m % 2 = 0) := by
  obtain ⟨k, hk⟩ := hc
  have hpos : (0 : ℚ) < 2 ^ s := by positivity
  obtain ⟨hle, htie⟩ := hround.nearest k
  rw [hk, Nat.mul_comm (2 ^ s), abs_mul_sub, abs_mul_sub]
  refine ⟨mul_le_mul_of_nonneg_right hle hpos.le, fun h ↦ ?_⟩
  rcases htie (mul_right_cancel₀ hpos.ne' h) with rfl | heven
  · exact .inl rfl
  · exact .inr heven

/-- Below the grid of a scale, nothing is as near as the start of the grid. -/
theorem abs_sub_lt_of_lt (hle : 2 ^ 52 ≤ x / 2 ^ s) {c : ℕ} (hc : c < (s + 1) * 2 ^ 52) :
    |((m * 2 ^ s : ℕ) : ℚ) - x| < |units c - x| := by
  have hpos : (0 : ℚ) < 2 ^ s := by positivity
  have hstart : units ((s + 1) * 2 ^ 52) = 2 ^ 52 * 2 ^ s := by
    rw [Nat.succ_mul]
    exact units_scale (by omega) (.inl le_rfl)
  have hbelow : (units c : ℚ) < (2 ^ 52 * 2 ^ s : ℕ) := by
    rw [← hstart]
    exact_mod_cast units_strictMono hc
  have habove := cast_start_le hle
  have hnear := (hround.nearest (2 ^ 52)).1
  calc |((m * 2 ^ s : ℕ) : ℚ) - x|
      ≤ |((2 ^ 52 * 2 ^ s : ℕ) : ℚ) - x| := by
        rw [abs_mul_sub, abs_mul_sub]
        exact mul_le_mul_of_nonneg_right hnear hpos.le
    _ = x - (2 ^ 52 * 2 ^ s : ℕ) := by rw [abs_sub_comm, abs_of_nonneg (sub_nonneg.mpr habove)]
    _ < x - units c := sub_lt_sub_left hbelow x
    _ = |units c - x| := by
      rw [abs_sub_comm, abs_of_nonneg (sub_nonneg.mpr (hbelow.trans_le habove).le)]

/-- **Rounding on the grid that belongs to the size of a number gives the nearest magnitude.** -/
theorem isNearest_of_scale (hlt : x / 2 ^ s < 2 ^ 53) (hle : 2 ^ 52 ≤ x / 2 ^ s ∨ s = 0) :
    IsNearest x (min (s * 2 ^ 52 + m) infinityBits) := by
  have habs := abs_le.mp hround.le_half
  have hm : m ≤ 2 ^ 53 := by
    have hcast : (m : ℚ) < (2 ^ 53 + 1 : ℕ) := by
      push_cast
      linarith
    exact Nat.lt_succ_iff.mp (by exact_mod_cast hcast)
  have hs : 2 ^ 52 ≤ m ∨ s = 0 := by
    refine hle.imp_left fun hle ↦ ?_
    have hcast : ((2 ^ 52 : ℕ) : ℚ) < (m + 1 : ℕ) := by
      push_cast
      linarith
    exact Nat.lt_succ_iff.mp (by exact_mod_cast hcast)
  have hunits := units_scale hm hs
  rcases le_or_gt (s * 2 ^ 52 + m) infinityBits with hfinite | hinfinite
  · rw [min_eq_left hfinite]
    have key (c : ℕ) : |(units (s * 2 ^ 52 + m) : ℚ) - x| ≤ |units c - x| ∧
        (|(units (s * 2 ^ 52 + m) : ℚ) - x| = |units c - x| →
          c = s * 2 ^ 52 + m ∨ (s * 2 ^ 52 + m) % 2 = 0) := by
      rw [hunits]
      by_cases hc : (s + 1) * 2 ^ 52 ≤ c ∨ s = 0
      · obtain ⟨hdist, htie⟩ := abs_sub_le_of_dvd hround (dvd_units hc)
        refine ⟨hdist, fun h ↦ (htie h).imp (fun heq ↦ ?_) (fun heven ↦ by omega)⟩
        exact units_strictMono.injective (heq.trans hunits.symm)
      · obtain ⟨hc, hpos⟩ := not_or.mp hc
        have hdist := abs_sub_lt_of_lt hround (hle.resolve_right hpos) (lt_of_not_ge hc)
        exact ⟨hdist.le, fun h ↦ absurd h hdist.ne⟩
    exact ⟨hfinite, fun _ ↦ (key _).1, fun _ ↦ (key _).2⟩
  · rw [min_eq_right hinfinite.le]
    -- the bits can only be beyond infinity if the grid starts there
    have hscale : 2046 ≤ s := by
      rw [infinityBits] at hinfinite
      omega
    have htop : units infinityBits ≤ 2 ^ 52 * 2 ^ s := by
      rw [units_infinityBits]
      exact Nat.mul_le_mul_left _ (pow_le_pow_right₀ one_le_two hscale)
    apply isNearest_infinityBits
    exact (Nat.cast_le.mpr htop).trans (cast_start_le (hle.resolve_right (by omega)))

end Scale

/-! ## The scale of a number -/

/-- Comparing a quotient with a power of two needs no fraction. -/
theorem reaches_iff (num : ℕ) {den : ℕ} (hden : 0 < den) (e : ℤ) :
    (if 0 ≤ e then decide (den * Nat.pow 2 e.toNat ≤ num)
      else decide (den ≤ num * Nat.pow 2 (-e).toNat)) = true ↔ (2 : ℚ) ^ e ≤ num / den := by
  rw [le_div_iff₀ (by exact_mod_cast hden)]
  split
  · next h =>
    obtain ⟨n, rfl⟩ := Int.eq_ofNat_of_zero_le h
    rw [decide_eq_true_iff, zpow_natCast, mul_comm]
    exact_mod_cast Iff.rfl
  · next h =>
    obtain ⟨n, hn⟩ := Int.eq_ofNat_of_zero_le (by omega : 0 ≤ -e)
    rw [decide_eq_true_iff, hn, ← neg_neg e, hn, zpow_neg, zpow_natCast,
      inv_mul_le_iff₀ (by positivity), mul_comm]
    exact_mod_cast Iff.rfl

/-- The scale of a quotient is that of the two powers of two that enclose it. -/
theorem exists_exponent {num den : ℕ} (hnum : 0 < num) (hden : 0 < den) :
    ∃ e : ℤ, scaleOf num den = (e + 1022).toNat ∧ (2 : ℚ) ^ e ≤ num / den ∧
      (num / den : ℚ) < 2 ^ (e + 1) := by
  obtain ⟨estimate, hestimate⟩ : ∃ e : ℤ, (num.log2 : ℤ) - den.log2 = e := ⟨_, rfl⟩
  have hpos : (0 : ℚ) < den := by exact_mod_cast hden
  have hlower : (2 : ℚ) ^ (estimate - 1) ≤ num / den := by
    rw [le_div_iff₀ hpos]
    calc (2 : ℚ) ^ (estimate - 1) * den
        ≤ 2 ^ (estimate - 1) * 2 ^ (den.log2 + 1) := by
          gcongr
          exact_mod_cast Nat.lt_log2_self.le
      _ = 2 ^ num.log2 := by
          rw [← zpow_natCast, ← zpow_add₀ two_ne_zero, ← zpow_natCast]
          congr 1
          omega
      _ ≤ num := by exact_mod_cast Nat.log2_self_le hnum.ne'
  have hupper : (num / den : ℚ) < 2 ^ (estimate + 1) := by
    rw [div_lt_iff₀ hpos]
    calc (num : ℚ) < 2 ^ (num.log2 + 1) := by exact_mod_cast Nat.lt_log2_self
      _ = 2 ^ (estimate + 1) * 2 ^ den.log2 := by
          rw [← zpow_natCast, ← zpow_natCast, ← zpow_add₀ two_ne_zero]
          congr 1
          omega
      _ ≤ 2 ^ (estimate + 1) * den := by
          gcongr
          exact_mod_cast Nat.log2_self_le hden.ne'
  have hreaches := reaches_iff num hden estimate
  rw [scaleOf, hestimate]
  by_cases h : (2 : ℚ) ^ estimate ≤ num / den
  · rw [hreaches.mpr h, if_pos rfl]
    exact ⟨estimate, by congr 1; omega, h, hupper⟩
  · rw [Bool.eq_false_iff.mpr (mt hreaches.mp h), if_neg Bool.false_ne_true]
    refine ⟨estimate - 1, by congr 1; omega, hlower, ?_⟩
    rw [sub_add_cancel]
    exact lt_of_not_ge h

theorem two_zpow_mul {e : ℤ} {a b s : ℕ} (h : e + a = b + s) :
    (2 : ℚ) ^ e * 2 ^ a = 2 ^ b * 2 ^ s := by
  rw [← zpow_natCast, ← zpow_natCast, ← zpow_natCast, ← zpow_add₀ two_ne_zero,
    ← zpow_add₀ two_ne_zero, h]

/-- The grid of the scale of a quotient is the one that belongs to its size. -/
theorem scaleOf_spec {num den : ℕ} (hnum : 0 < num) (hden : 0 < den) :
    (num / den * 2 ^ 1074 : ℚ) / 2 ^ scaleOf num den < 2 ^ 53 ∧
      (2 ^ 52 ≤ (num / den * 2 ^ 1074 : ℚ) / 2 ^ scaleOf num den ∨ scaleOf num den = 0) := by
  obtain ⟨e, hscale, hle, hlt⟩ := exists_exponent hnum hden
  have hpos : (0 : ℚ) < 2 ^ scaleOf num den := by positivity
  have hunit : (0 : ℚ) < 2 ^ 1074 := by positivity
  have hbelow := mul_lt_mul_of_pos_right hlt hunit
  rw [div_lt_iff₀ hpos, le_div_iff₀ hpos]
  rcases le_or_gt 0 (e + 1022) with h | h
  · refine ⟨hbelow.trans_eq (two_zpow_mul (by omega)), .inl ?_⟩
    exact (two_zpow_mul (by omega)).symm.trans_le (mul_le_mul_of_nonneg_right hle hunit.le)
  · have hzero : scaleOf num den = 0 := by omega
    refine ⟨hbelow.trans_le ?_, .inr hzero⟩
    -- the grid is the finest one, whatever the size
    rw [hzero, ← two_zpow_mul (e := -1021) (a := 1074) (by omega)]
    exact mul_le_mul_of_nonneg_right (zpow_le_zpow_right₀ one_le_two (by omega)) hunit.le

/-- Counted in units of a scale, a quotient is still a quotient of integers. -/
theorem isRounding_scaled (num : ℕ) {den : ℕ} (hden : 0 < den) (unit s : ℕ) :
    IsRounding ((num / den * 2 ^ unit : ℚ) / 2 ^ s)
      (if s ≤ unit then roundDiv (num * Nat.pow 2 (unit - s)) den
        else roundDiv num (den * Nat.pow 2 (s - unit))) := by
  have hpos : (0 : ℚ) < den := by exact_mod_cast hden
  split
  · next h =>
    have hquotient : (num / den * 2 ^ unit : ℚ) / 2 ^ s = (num * 2 ^ (unit - s) : ℕ) / den := by
      rw [← pow_sub_mul_pow (2 : ℚ) h]
      push_cast
      field_simp
    rw [hquotient]
    exact isRounding_roundDiv _ hden
  · next h =>
    have hquotient : (num / den * 2 ^ unit : ℚ) / 2 ^ s = num / (den * 2 ^ (s - unit) : ℕ) := by
      rw [← pow_sub_mul_pow (2 : ℚ) (lt_of_not_ge h).le]
      push_cast
      field_simp
    rw [hquotient]
    exact isRounding_roundDiv num (Nat.mul_pos hden (by positivity))

theorem isNearest_nearestBits (num : ℕ) {den : ℕ} (hden : 0 < den) :
    IsNearest (num / den * 2 ^ 1074) (nearestBits num den) := by
  rw [nearestBits]
  split
  · next hzero =>
    rw [hzero, Nat.cast_zero, zero_div, zero_mul]
    exact isNearest_zero le_rfl one_half_pos
  · next hne =>
    obtain ⟨hlt, hle⟩ := scaleOf_spec (Nat.pos_of_ne_zero hne) hden
    exact isNearest_of_scale (isRounding_scaled num hden 1074 _) hlt hle

/-! ## Decimal numbers -/

/-- Large powers of ten are beyond infinity. -/
theorem units_infinityBits_le {significand : ℕ} (hpos : 0 < significand) {exponent : ℤ}
    (h : 400 < exponent) : (units infinityBits : ℚ) ≤ significand * 10 ^ exponent * 2 ^ 1074 := by
  obtain ⟨n, rfl⟩ := Int.eq_ofNat_of_zero_le (by omega : 0 ≤ exponent)
  have hpower : (2 : ℚ) ^ (1024 : ℤ) ≤ 10 ^ n :=
    calc (2 : ℚ) ^ (1024 : ℤ)
        ≤ 2 ^ ((3 * n : ℕ) : ℤ) := zpow_le_zpow_right₀ one_le_two (by omega)
      _ = (2 ^ 3) ^ n := by rw [zpow_natCast, pow_mul]
      _ ≤ 10 ^ n := pow_le_pow_left₀ (by norm_num) (by norm_num) n
  have hone : (1 : ℚ) ≤ significand := by exact_mod_cast hpos
  calc (units infinityBits : ℚ)
      = 2 ^ 52 * 2 ^ 2046 := by
        rw [units_infinityBits, Nat.cast_mul, Nat.cast_pow, Nat.cast_pow, Nat.cast_ofNat]
    _ = 2 ^ (1024 : ℤ) * 2 ^ 1074 := (two_zpow_mul (by omega)).symm
    _ ≤ 10 ^ n * 2 ^ 1074 := mul_le_mul_of_nonneg_right hpower (by positivity)
    _ ≤ significand * 10 ^ n * 2 ^ 1074 := by
        rw [mul_assoc]
        exact le_mul_of_one_le_left (by positivity) hone
    _ = significand * 10 ^ (n : ℤ) * 2 ^ 1074 := by rw [zpow_natCast]

/-- Small powers of ten stay below half a unit, for all the digits before them. -/
theorem lt_one_half {significand : ℕ} {exponent : ℤ} (h : exponent + significand.log2 < -1200) :
    (significand * 10 ^ exponent * 2 ^ 1074 : ℚ) < 1 / 2 := by
  obtain ⟨n, hn⟩ := Int.eq_ofNat_of_zero_le (by omega : 0 ≤ -exponent)
  obtain rfl : exponent = -n := by omega
  have hpower : (10 : ℚ) ^ (-n : ℤ) ≤ 2 ^ (-n : ℤ) := by
    rw [zpow_neg, zpow_neg, zpow_natCast, zpow_natCast]
    exact inv_anti₀ (by positivity) (pow_le_pow_left₀ two_pos.le (by norm_num) n)
  have hlog : (significand : ℚ) < 2 ^ (significand.log2 + 1) := by exact_mod_cast Nat.lt_log2_self
  have hproduct : (significand * 10 ^ (-n : ℤ) : ℚ) < 2 ^ (significand.log2 + 1) * 2 ^ (-n : ℤ) :=
    (mul_le_mul_of_nonneg_left hpower (by positivity)).trans_lt
      (mul_lt_mul_of_pos_right hlog (by positivity))
  calc (significand * 10 ^ (-n : ℤ) * 2 ^ 1074 : ℚ)
      < 2 ^ (significand.log2 + 1) * 2 ^ (-n : ℤ) * 2 ^ 1074 :=
        mul_lt_mul_of_pos_right hproduct (by positivity)
    _ = 2 ^ (significand.log2 + 1 - n + 1074 : ℤ) := by
        rw [← zpow_natCast, ← zpow_natCast, ← zpow_add₀ two_ne_zero, ← zpow_add₀ two_ne_zero]
        congr 1
    _ ≤ 2 ^ (-1 : ℤ) := zpow_le_zpow_right₀ one_le_two (by omega)
    _ = 1 / 2 := by norm_num

/-- **The bits read for a decimal number are those of the nearest magnitude.** -/
theorem isNearest_decimalBits (significand : ℕ) (exponent : ℤ) :
    IsNearest (significand * 10 ^ exponent * 2 ^ 1074) (decimalBits significand exponent) := by
  rw [decimalBits]
  split
  · next hzero =>
    rw [hzero, Nat.cast_zero, zero_mul, zero_mul]
    exact isNearest_zero le_rfl one_half_pos
  next hne =>
  split
  · next hlarge =>
    exact isNearest_infinityBits (units_infinityBits_le (Nat.pos_of_ne_zero hne) hlarge)
  split
  · next hsmall => exact isNearest_zero (by positivity) (lt_one_half hsmall)
  split
  · next hnonneg =>
    obtain ⟨n, rfl⟩ := Int.eq_ofNat_of_zero_le hnonneg
    have hquotient : (significand * 10 ^ (n : ℤ) : ℚ) = (significand * 10 ^ n : ℕ) / (1 : ℕ) := by
      rw [zpow_natCast, Nat.cast_one, div_one]
      push_cast
      rfl
    rw [hquotient]
    exact isNearest_nearestBits _ Nat.one_pos
  · next hneg =>
    obtain ⟨n, hn⟩ := Int.eq_ofNat_of_zero_le (by omega : 0 ≤ -exponent)
    have hquotient : (significand * 10 ^ exponent : ℚ) = significand / (10 ^ n : ℕ) := by
      rw [← neg_neg exponent, hn, zpow_neg, zpow_natCast, div_eq_mul_inv]
      push_cast
      rfl
    rw [hquotient, hn]
    exact isNearest_nearestBits significand (by positivity)

end TagQuery.Binary64
