import TagQuery.Number.Whole
import TagQuery.Proofs.Number.Numeral
import TagQuery.Proofs.Text.Words

/-!
# Whole numbers in decimal

A whole number is written with digits and at most one sign (`Whole.Spells`). From such a text the
number is read if it fits into a word of 64 bits, and nothing is read otherwise, however many digits
there are; from all other texts nothing is read (`ofChars?_eq_some_iff`).
-/

namespace TagQuery

open Text

theorem isBlank_of_isDigit {c : Char} (h : isDigit c = true) : isBlank c = false := by
  obtain ⟨hmin, hmax⟩ := isDigit_iff.mp h
  change 48 ≤ c.toNat at hmin
  change c.toNat ≤ 57 at hmax
  simp only [isBlank, Bool.or_eq_false_iff, Bool.and_eq_false_iff, decide_eq_false_iff_not,
    beq_eq_false_iff_ne]
  omega

/-- The number with a sign and a magnitude. -/
def signed (negative : Bool) (magnitude : Nat) : Int :=
  if negative then -magnitude else magnitude

namespace Whole

/-- A text writes a whole number: a sign if any, and digits. -/
inductive Spells : List Char → Int → Prop where
  | intro {sign digits : List Char} {negative : Bool} (hsign : IsSign sign negative)
      (hdigits : IsDigits digits) : Spells (sign ++ digits) (signed negative (ofDigits digits))

theorem ofChars?_of_spells {cs : List Char} {n : Int} (h : Spells cs n) :
    ofChars? cs = ofInt? n := by
  obtain ⟨hsign, hdigits⟩ := h
  have hread := ofDigits?_eq_some hdigits.ne_nil hdigits.all
  cases hsign with
  | plus => exact congrArg (Option.bind · _) hread
  | minus => exact congrArg (Option.bind · _) hread
  | none =>
    rename_i digits
    obtain ⟨c, cs, rfl⟩ := List.exists_cons_of_ne_nil hdigits.ne_nil
    have hc : isDigit c = true := hdigits.all c List.mem_cons_self
    rw [List.nil_append, ofChars?, hread]
    · rfl
    · rintro _ ⟨⟩
      exact absurd hc (by decide)
    · rintro _ ⟨⟩
      exact absurd hc (by decide)

theorem ofInt?_eq_some_iff {n m : Int} : ofInt? n = some m ↔ fits n = true ∧ n = m := by
  rw [ofInt?]
  split
  · next h => simp [h]
  · next h => simp [h]

/-- A whole number is read from the texts that write it, if it fits into a word. -/
theorem ofChars?_eq_some_iff {cs : List Char} {n : Int} :
    ofChars? cs = some n ↔ Spells cs n ∧ fits n = true := by
  constructor
  · intro h
    rw [ofChars?.eq_def] at h
    split at h
    · obtain ⟨_, hread, h⟩ := Option.bind_eq_some_iff.mp h
      obtain ⟨hdigits, rfl⟩ := ofDigits?_eq_some_iff.mp hread
      obtain ⟨hfits, rfl⟩ := ofInt?_eq_some_iff.mp h
      exact ⟨.intro .minus hdigits, hfits⟩
    · obtain ⟨_, hread, h⟩ := Option.bind_eq_some_iff.mp h
      obtain ⟨hdigits, rfl⟩ := ofDigits?_eq_some_iff.mp hread
      obtain ⟨hfits, rfl⟩ := ofInt?_eq_some_iff.mp h
      exact ⟨.intro .plus hdigits, hfits⟩
    · obtain ⟨_, hread, h⟩ := Option.bind_eq_some_iff.mp h
      obtain ⟨hdigits, rfl⟩ := ofDigits?_eq_some_iff.mp hread
      obtain ⟨hfits, rfl⟩ := ofInt?_eq_some_iff.mp h
      exact ⟨.intro .none hdigits, hfits⟩
  · rintro ⟨h, hfits⟩
    rw [ofChars?_of_spells h]
    exact ofInt?_eq_some_iff.mpr ⟨hfits, rfl⟩

/-- Neither digits nor signs are blanks. -/
theorem Spells.isWord {cs : List Char} {n : Int} (h : Spells cs n) : IsWord cs := by
  obtain ⟨hsign, hdigits⟩ := h
  refine ⟨List.append_ne_nil_of_right_ne_nil _ hdigits.ne_nil, List.forall_mem_append.mpr ⟨?_, ?_⟩⟩
  · cases hsign with
    | none => exact List.forall_mem_nil _
    | plus => exact List.forall_mem_singleton.mpr rfl
    | minus => exact List.forall_mem_singleton.mpr rfl
  · exact fun c hc ↦ isBlank_of_isDigit (hdigits.all c hc)

/-- The digits of a number after its sign write the number. -/
theorem spells_toDigits {sign : List Char} {n : Int} (h : IsSign sign (decide (n < 0))) :
    Spells (sign ++ Nat.toDigits 10 n.natAbs) n := by
  have hdigits : IsDigits (Nat.toDigits 10 n.natAbs) :=
    ⟨Nat.toDigits_ne_nil, fun _ ↦ isDigit_of_mem_toDigits⟩
  have hn : signed (decide (n < 0)) (ofDigits (Nat.toDigits 10 n.natAbs)) = n := by
    rw [ofDigits_toDigits, signed]
    simp only [decide_eq_true_eq]
    split <;> omega
  have hspells := Spells.intro h hdigits
  rwa [hn] at hspells

end Whole

end TagQuery
