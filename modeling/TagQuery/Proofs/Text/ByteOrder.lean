import Mathlib.Data.List.Lex
import Mathlib.Data.String.Basic
import Mathlib.Tactic.SplitIfs
import TagQuery.Text.Utf8

/-!
# The order of texts is that of their bytes

Texts are compared character by character, by code points. Comparing their UTF-8 forms byte by byte
comes to the same (`bytes_lt_bytes_iff`), so whatever is sorted by its texts is sorted by its bytes.

The reason is that the forms of two characters differ at some byte, and the first such byte decides
as the code points do: a longer form begins with a larger byte, and among forms of one length the
bits of the code point stand in their order.
-/

namespace TagQuery.Text

/-- The bytes of the UTF-8 form of a text. -/
def bytes (s : String) : List UInt8 := s.toByteArray.data.toList

theorem bytes_eq_flatMap (s : String) : bytes s = s.toList.flatMap String.utf8EncodeChar := by
  rw [bytes, ← String.utf8Encode_toList, List.utf8Encode, List.data_toByteArray]

/-! ## Characters -/

theorem ofNat_lt_ofNat {m n : Nat} (h : m < n) (hn : n < 256) : UInt8.ofNat m < UInt8.ofNat n := by
  rw [UInt8.lt_iff_toNat_lt, UInt8.toNat_ofNat', UInt8.toNat_ofNat']
  omega

/-- A form of numbers that, below a bound, decides as the numbers do, whatever follows it. -/
def Decides (form : Nat → List UInt8) (bound : Nat) : Prop :=
  ∀ m n : Nat, m < n → n < bound → ∀ xs ys, form m ++ xs < form n ++ ys

/-- A single byte, which has some mark above the number. -/
def lead (bound mark n : Nat) : List UInt8 := [UInt8.ofNat (n % bound + mark)]

/-- A form with one more byte, which holds the lowest six bits. -/
def extended (form : Nat → List UInt8) (n : Nat) : List UInt8 :=
  form (n / 64) ++ [UInt8.ofNat (n % 64 + 128)]

theorem decides_lead {bound mark : Nat} (h : bound + mark ≤ 256) :
    Decides (lead bound mark) bound := by
  intro m n hlt hn xs ys
  rw [lead, lead, Nat.mod_eq_of_lt hn, Nat.mod_eq_of_lt (hlt.trans hn)]
  exact List.cons_lt_cons_iff.mpr (.inl (ofNat_lt_ofNat (by omega) (by omega)))

theorem Decides.extended {form : Nat → List UInt8} {bound : Nat} (h : Decides form bound) :
    Decides (extended form) (64 * bound) := by
  intro m n hlt hn xs ys
  rw [Text.extended, Text.extended, List.append_assoc, List.append_assoc]
  rcases Nat.lt_or_eq_of_le (Nat.div_le_div_right hlt.le : m / 64 ≤ n / 64) with hupper | hupper
  · exact h _ _ hupper (by omega) _ _
  · -- only the last byte can differ
    rw [hupper]
    exact List.append_left_lt
      (List.cons_lt_cons_iff.mpr (.inl (ofNat_lt_ofNat (by omega) (by omega))))

/-- The form of a code point, by its length. -/
theorem utf8EncodeChar_eq (c : Char) :
    String.utf8EncodeChar c =
      if c.val.toNat ≤ 0x7F then lead 128 0 c.val.toNat
      else if c.val.toNat ≤ 0x7FF then extended (lead 32 192) c.val.toNat
      else if c.val.toNat ≤ 0xFFFF then extended (extended (lead 16 224)) c.val.toNat
      else extended (extended (extended (lead 8 240))) c.val.toNat := by
  rw [String.utf8EncodeChar.eq_def]
  simp only [extended, lead, Nat.div_div_eq_div_mul, List.cons_append, List.nil_append]
  split_ifs with h
  · rw [Nat.mod_eq_of_lt (by omega), Nat.add_zero]
  all_goals rfl

/-- The first byte in which the forms of two characters differ decides as their code points do. -/
theorem utf8EncodeChar_append_lt {c d : Char} (h : c < d) (xs ys : List UInt8) :
    String.utf8EncodeChar c ++ xs < String.utf8EncodeChar d ++ ys := by
  have hlt : c.val.toNat < d.val.toNat := UInt32.lt_iff_toNat_lt.mp h
  have hmax : d.val.toNat ≤ 0x10FFFF := by
    have := d.valid
    simp only [UInt32.isValidChar, Nat.isValidChar] at this
    omega
  have hone := decides_lead (by decide : 128 + 0 ≤ 256)
  have htwo := (decides_lead (by decide : 32 + 192 ≤ 256)).extended
  have hthree := (decides_lead (by decide : 16 + 224 ≤ 256)).extended.extended
  have hfour := (decides_lead (by decide : 8 + 240 ≤ 256)).extended.extended.extended
  rw [utf8EncodeChar_eq, utf8EncodeChar_eq]
  split_ifs
  · exact hone _ _ hlt (by omega) xs ys
  -- forms of different lengths differ in their first bytes
  any_goals
    refine List.cons_lt_cons_iff.mpr (.inl ?_)
    rw [UInt8.lt_iff_toNat_lt, UInt8.toNat_ofNat', UInt8.toNat_ofNat']
    omega
  · exact htwo _ _ hlt (by omega) xs ys
  · exact hthree _ _ hlt (by omega) xs ys
  · exact hfour _ _ hlt (by omega) xs ys

/-! ## Texts -/

theorem flatMap_utf8EncodeChar_lt {cs ds : List Char} (h : cs < ds) :
    cs.flatMap String.utf8EncodeChar < ds.flatMap String.utf8EncodeChar := by
  induction cs generalizing ds with
  | nil =>
    cases ds with
    | nil => exact absurd h (List.lt_irrefl _)
    | cons d ds =>
      obtain ⟨x, xs, hform⟩ := List.exists_cons_of_ne_nil (String.utf8EncodeChar_ne_nil (c := d))
      rw [List.flatMap_nil, List.flatMap_cons, hform]
      exact List.nil_lt_cons _ _
  | cons c cs ih =>
    cases ds with
    | nil => exact absurd h (List.not_lt_nil _)
    | cons d ds =>
      rw [List.flatMap_cons, List.flatMap_cons]
      rcases List.cons_lt_cons_iff.mp h with hcd | ⟨rfl, hrest⟩
      · exact utf8EncodeChar_append_lt hcd _ _
      · exact List.append_left_lt (ih hrest)

theorem bytes_lt_bytes {s t : String} (h : s < t) : bytes s < bytes t := by
  rw [bytes_eq_flatMap, bytes_eq_flatMap]
  exact flatMap_utf8EncodeChar_lt (String.lt_iff.mp h)

/-- **Texts are ordered as their bytes are.** -/
theorem bytes_lt_bytes_iff {s t : String} : bytes s < bytes t ↔ s < t := by
  refine ⟨fun h ↦ ?_, bytes_lt_bytes⟩
  by_contra hle
  rcases lt_or_eq_of_le (not_lt.mp hle) with hlt | rfl
  · exact absurd (List.lt_trans h (bytes_lt_bytes hlt)) (List.lt_irrefl _)
  · exact absurd h (List.lt_irrefl _)

end TagQuery.Text
