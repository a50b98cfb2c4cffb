import TagQuery.Number.Whole

/-!
# Words

Arithmetic in words. Every operation is checked: it gives the word that holds the exact result, or
nothing if no word of its width does. So where a computation in words gives a result at all, it is
that of the same computation with whole numbers.

Two facts about `ofInt?` carry whatever is said of the other operations: it gives nothing but the
word that holds a number (`ofInt?_eq_some_iff`), and gives it if there is one (`exists_ofInt?`).
-/

namespace TagQuery.Word

/-! ## Words of 64 bits -/

/-- The word that holds a number. -/
def ofInt? (n : Int) : Option Int64 := if Whole.fits n then some (.ofInt n) else none

/-- The negative of a word. -/
def neg? (a : Int64) : Option Int64 := ofInt? (-a.toInt)

/-- The sum of two words. -/
def add? (a b : Int64) : Option Int64 := ofInt? (a.toInt + b.toInt)

/-- The difference of two words. -/
def sub? (a b : Int64) : Option Int64 := ofInt? (a.toInt - b.toInt)

/-- The product of two words. -/
def mul? (a b : Int64) : Option Int64 := ofInt? (a.toInt * b.toInt)

/-- The quotient of two words by the division that never leaves a negative remainder. -/
def div? (a b : Int64) : Option Int64 := if b = 0 then none else ofInt? (a.toInt / b.toInt)

/-- The remainder of the division that never leaves a negative one. -/
def mod? (a b : Int64) : Option Int64 := if b = 0 then none else ofInt? (a.toInt % b.toInt)

theorem fits_iff {n : Int} :
    Whole.fits n = true ↔ -0x8000000000000000 ≤ n ∧ n < 0x8000000000000000 := by
  have hmin : Int64.minValue.toInt = -0x8000000000000000 := by decide
  have hmax : Int64.maxValue.toInt = 0x8000000000000000 - 1 := by decide
  rw [Whole.fits, Bool.and_eq_true, decide_eq_true_iff, decide_eq_true_iff, hmin, hmax]
  omega

theorem ofInt?_eq_some_iff {n : Int} {w : Int64} : ofInt? n = some w ↔ w.toInt = n := by
  rw [ofInt?]
  split
  · next h =>
    obtain ⟨hmin, hmax⟩ := fits_iff.mp h
    have hn : (Int64.ofInt n).toInt = n := Int64.toInt_ofInt_of_le hmin hmax
    rw [Option.some.injEq, ← Int64.toInt_inj, hn, eq_comm]
  · next h =>
    refine ⟨nofun, fun hw ↦ absurd (fits_iff.mpr ?_) h⟩
    rw [← hw]
    exact ⟨w.le_toInt, w.toInt_lt⟩

theorem exists_ofInt? {m n : Int} (h : m = n) (hmin : -0x8000000000000000 ≤ n)
    (hmax : n < 0x8000000000000000) : ∃ w, ofInt? m = some w ∧ w.toInt = n := by
  have hn : (Int64.ofInt n).toInt = n := Int64.toInt_ofInt_of_le hmin hmax
  exact ⟨.ofInt n, ofInt?_eq_some_iff.mpr (hn.trans h.symm), hn⟩

/-! ## Narrower words -/

/-- The word of 32 bits that holds what a word holds. -/
def toInt32? (a : Int64) : Option Int32 :=
  if -0x80000000 ≤ a.toInt ∧ a.toInt < 0x80000000 then some (.ofInt a.toInt) else none

/-- The byte that holds what a word holds. -/
def toUInt8? (a : Int64) : Option UInt8 :=
  if 0 ≤ a.toInt ∧ a.toInt < 0x100 then some (.ofNat a.toInt.toNat) else none

/-- The byte after a byte. -/
def succ? (a : UInt8) : Option UInt8 :=
  if a.toNat + 1 < 0x100 then some (.ofNat (a.toNat + 1)) else none

theorem exists_toInt32? {a : Int64} (hmin : -0x80000000 ≤ a.toInt) (hmax : a.toInt < 0x80000000) :
    ∃ b, toInt32? a = some b ∧ b.toInt = a.toInt :=
  ⟨.ofInt a.toInt, if_pos ⟨hmin, hmax⟩, Int32.toInt_ofInt_of_le hmin hmax⟩

theorem exists_toUInt8? {a : Int64} (hmin : 0 ≤ a.toInt) (hmax : a.toInt < 0x100) :
    ∃ b, toUInt8? a = some b ∧ b.toNat = a.toInt.toNat := by
  have hlt : a.toInt.toNat < UInt8.size := (Int.toNat_lt hmin).mpr hmax
  exact ⟨.ofNat a.toInt.toNat, if_pos ⟨hmin, hmax⟩, UInt8.toNat_ofNat_of_lt' hlt⟩

theorem exists_succ? {a : UInt8} (hmax : a.toNat + 1 < 0x100) :
    ∃ b, succ? a = some b ∧ b.toNat = a.toNat + 1 :=
  ⟨.ofNat (a.toNat + 1), if_pos hmax, UInt8.toNat_ofNat_of_lt' hmax⟩

end TagQuery.Word
