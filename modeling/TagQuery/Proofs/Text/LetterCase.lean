import TagQuery.Proofs.Text.Digits

/-!
# The case of letters

Only the letters of ASCII have a case here. A character that is none of them is equal to no other
character ignoring case (`eq_of_toLower_eq`), and a blank has no case either (`isBlank_toLower`). So
texts that differ in case alone are trimmed alike (`SameButForCase.trim`), and where one of them
begins with a text without letters, the other begins with the same (`SameButForCase.exists_append`).
-/

namespace TagQuery.Text

/-! ## Characters -/

theorem isAlpha_iff {c : Char} : c.isAlpha = true ↔
    65 ≤ c.toNat ∧ c.toNat ≤ 90 ∨ 97 ≤ c.toNat ∧ c.toNat ≤ 122 := by
  change (decide (c.val ≥ 'A'.val ∧ c.val ≤ 'Z'.val) ||
    decide (c.val ≥ 'a'.val) && decide (c.val ≤ 'z'.val)) = true ↔ _
  rw [Bool.or_eq_true, decide_eq_true_iff, Bool.and_eq_true, decide_eq_true_iff, decide_eq_true_iff]
  rfl

theorem isAlpha_eq_false_of_isDigit {c : Char} (h : isDigit c = true) : c.isAlpha = false := by
  have hdigit : 48 ≤ c.toNat ∧ c.toNat ≤ 57 := isDigit_iff.mp h
  rw [Bool.eq_false_iff, ne_eq, isAlpha_iff]
  omega

/-- A character is a capital letter, and its small letter lies 32 places on, or is left as it is. -/
theorem toLower_cases (c : Char) :
    (65 ≤ c.toNat ∧ c.toNat ≤ 90 ∧ c.toLower.toNat = c.toNat + 32) ∨ c.toLower = c := by
  by_cases hupper : c.val ≥ 'A'.val ∧ c.val ≤ 'Z'.val
  · have hmin : 65 ≤ c.toNat := hupper.1
    have hmax : c.toNat ≤ 90 := hupper.2
    have hlower : c.toLower.toNat = (c.toNat + 32) % 4294967296 :=
      (congrArg Char.toNat (dif_pos hupper)).trans (UInt32.toNat_add _ _)
    exact .inl ⟨hmin, hmax, by omega⟩
  · exact .inr (dif_neg hupper)

theorem isAlpha_toLower (c : Char) : c.toLower.isAlpha = c.isAlpha := by
  rcases toLower_cases c with ⟨hmin, hmax, hnat⟩ | hc
  · have hcapital : c.isAlpha = true := isAlpha_iff.mpr (.inl ⟨hmin, hmax⟩)
    have hsmall : c.toLower.isAlpha = true := isAlpha_iff.mpr (.inr (by omega))
    rw [hcapital, hsmall]
  · rw [hc]

theorem toLower_eq_self {c : Char} (h : c.isAlpha = false) : c.toLower = c := by
  refine (toLower_cases c).resolve_left fun ⟨hmin, hmax, _⟩ ↦ ?_
  exact Bool.eq_false_iff.mp h (isAlpha_iff.mpr (.inl ⟨hmin, hmax⟩))

/-- What is no letter is equal to itself alone, whatever the case. -/
theorem eq_of_toLower_eq {c d : Char} (hc : c.isAlpha = false) (h : d.toLower = c.toLower) :
    d = c := by
  have hd : d.isAlpha = false := by rw [← isAlpha_toLower, h, isAlpha_toLower, hc]
  rw [← toLower_eq_self hd, h, toLower_eq_self hc]

theorem isBlank_eq_false_of_isAlpha {c : Char} (h : c.isAlpha = true) : isBlank c = false := by
  have hnat := isAlpha_iff.mp h
  simp only [isBlank, Bool.or_eq_false_iff, Bool.and_eq_false_iff, decide_eq_false_iff_not,
    beq_eq_false_iff_ne]
  omega

theorem isBlank_toLower (c : Char) : isBlank c.toLower = isBlank c := by
  cases halpha : c.isAlpha with
  | false => rw [toLower_eq_self halpha]
  | true =>
    have hlower : c.toLower.isAlpha = true := by rw [isAlpha_toLower, halpha]
    rw [isBlank_eq_false_of_isAlpha halpha, isBlank_eq_false_of_isAlpha hlower]

/-! ## Texts -/

/-- Two texts differ at most in the case of letters. -/
def SameButForCase (cs ds : List Char) : Prop := cs.map Char.toLower = ds.map Char.toLower

theorem trimStart_map_toLower (cs : List Char) :
    trimStart (cs.map Char.toLower) = (trimStart cs).map Char.toLower := by
  have hblank : isBlank ∘ Char.toLower = isBlank := funext isBlank_toLower
  rw [trimStart, List.dropWhile_map, hblank, trimStart]

namespace SameButForCase

variable {cs ds : List Char}

theorem symm (h : SameButForCase cs ds) : SameButForCase ds cs := Eq.symm h

theorem reverse (h : SameButForCase cs ds) : SameButForCase cs.reverse ds.reverse := by
  rw [SameButForCase, List.map_reverse, List.map_reverse, h]

theorem trimStart (h : SameButForCase cs ds) :
    SameButForCase (Text.trimStart cs) (Text.trimStart ds) := by
  rw [SameButForCase, ← trimStart_map_toLower, ← trimStart_map_toLower, h]

theorem trim (h : SameButForCase cs ds) : SameButForCase (Text.trim cs) (Text.trim ds) :=
  h.trimStart.reverse.trimStart.reverse

theorem eq_nil_iff (h : SameButForCase cs ds) : cs = [] ↔ ds = [] := by
  rw [← List.map_eq_nil_iff, h, List.map_eq_nil_iff]

/-- **A text without letters has one spelling.** Where the one text begins with it, the other does
too, and what follows differs in case alone again. -/
theorem exists_append {text rest : List Char} (htext : ∀ c ∈ text, c.isAlpha = false)
    (h : SameButForCase (text ++ rest) ds) :
    ∃ rest', ds = text ++ rest' ∧ SameButForCase rest rest' := by
  induction text generalizing ds with
  | nil => exact ⟨ds, rfl, h⟩
  | cons c text ih =>
    have hmem := List.forall_mem_cons.mp htext
    cases ds with
    | nil => exact absurd (h.eq_nil_iff.mpr rfl) (List.cons_ne_nil _ _)
    | cons d ds =>
      obtain ⟨hhead, htail⟩ := List.cons_eq_cons.mp h
      obtain rfl : d = c := eq_of_toLower_eq hmem.1 hhead.symm
      obtain ⟨rest', rfl, hrest⟩ := ih hmem.2 htail
      exact ⟨rest', rfl, hrest⟩

end SameButForCase

end TagQuery.Text
