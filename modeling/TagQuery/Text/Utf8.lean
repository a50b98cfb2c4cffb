/-!
# Bytes of text

Positions in a text are reported as byte offsets into its UTF-8 form, while everything that reads
a text walks its characters. The two are joined by one measure, `utf8Length`, which adds over
concatenation; the offset of a suffix is then what the whole text has more than that suffix.

A scan for ASCII characters alone may look at the bytes themselves. The form of an ASCII character
is one byte, which is the character, and no byte of any other form is one (`head_utf8`). So such a
scan stops between two characters, and there the text can be cut; within a character there is no cut
(`cut?_eq_some_iff`).
-/

namespace TagQuery.Text

/-- The number of bytes that the UTF-8 form of a list of characters takes. -/
def utf8Length : List Char → Nat
  | [] => 0
  | c :: cs => c.utf8Size + utf8Length cs

@[simp] theorem utf8Length_nil : utf8Length [] = 0 := rfl

@[simp] theorem utf8Length_cons (c : Char) (cs : List Char) :
    utf8Length (c :: cs) = c.utf8Size + utf8Length cs := rfl

@[simp] theorem utf8Length_append (xs ys : List Char) :
    utf8Length (xs ++ ys) = utf8Length xs + utf8Length ys := by
  induction xs with
  | nil => simp
  | cons c xs ih => simp [ih, Nat.add_assoc]

/-- The byte offset at which `suffix` starts in a text of `total` bytes that ends with it. -/
def offsetOf (total : Nat) (suffix : List Char) : Nat := total - utf8Length suffix

theorem offsetOf_append (before suffix : List Char) :
    offsetOf (utf8Length (before ++ suffix)) suffix = utf8Length before := by
  simp [offsetOf]

/-! ## The form of a text -/

/-- The bytes of the UTF-8 form of a list of characters. -/
def utf8 (cs : List Char) : List UInt8 := cs.flatMap String.utf8EncodeChar

@[simp] theorem utf8_cons (c : Char) (cs : List Char) :
    utf8 (c :: cs) = String.utf8EncodeChar c ++ utf8 cs := List.flatMap_cons

@[simp] theorem length_utf8 (cs : List Char) : (utf8 cs).length = utf8Length cs := by
  induction cs with
  | nil => rfl
  | cons c cs ih => simp [ih]

/-! ## ASCII characters among the bytes -/

theorem toNat_ofUInt8_ofNat {n : Nat} (h : n < 256) : (Char.ofUInt8 (.ofNat n)).toNat = n :=
  UInt8.toNat_ofNat_of_lt' h

/-- The form of an ASCII character is one byte, which is the character. -/
theorem utf8EncodeChar_of_lt {c : Char} (h : c.toNat < 0x80) :
    ∃ b, String.utf8EncodeChar c = [b] ∧ Char.ofUInt8 b = c := by
  have hle : c.val.toNat ≤ 0x7F := Nat.le_of_lt_succ h
  refine ⟨.ofNat c.toNat, ?_, Char.toNat_inj.mp (toNat_ofUInt8_ofNat (by omega))⟩
  rw [String.utf8EncodeChar.eq_def]
  exact if_pos hle

/-- The form of any other character begins with a byte that is no ASCII character. -/
theorem utf8EncodeChar_of_le {c : Char} (h : 0x80 ≤ c.toNat) :
    ∃ b bs, String.utf8EncodeChar c = b :: bs ∧ 0x80 ≤ (Char.ofUInt8 b).toNat := by
  have hle : ¬ c.val.toNat ≤ 0x7F := Nat.not_le_of_lt h
  have hlead {n : Nat} (hmin : 0x80 ≤ n) (hmax : n < 256) :
      0x80 ≤ (Char.ofUInt8 (.ofNat n)).toNat := by
    rw [toNat_ofUInt8_ofNat hmax]
    exact hmin
  rw [String.utf8EncodeChar.eq_def]
  simp only [if_neg hle]
  -- in each of the three longer forms the first byte has its highest bit set
  split
  · exact ⟨_, _, rfl, hlead (by omega) (by omega)⟩
  split
  · exact ⟨_, _, rfl, hlead (by omega) (by omega)⟩
  · exact ⟨_, _, rfl, hlead (by omega) (by omega)⟩

/-- Whether a text begins with an ASCII character of some kind shows in its first byte. -/
theorem head_utf8 {p : Char → Bool} (hp : ∀ c, p c = true → c.toNat < 0x80) (c : Char)
    (cs : List Char) : ∃ b bs, utf8 (c :: cs) = b :: bs ∧ p (.ofUInt8 b) = p c ∧
      (p c = true → c.utf8Size = 1 ∧ bs = utf8 cs) := by
  rw [utf8_cons, ← String.length_utf8EncodeChar]
  by_cases h : c.toNat < 0x80
  · obtain ⟨b, hb, hc⟩ := utf8EncodeChar_of_lt h
    rw [hb]
    exact ⟨b, utf8 cs, rfl, congrArg p hc, fun _ ↦ ⟨rfl, rfl⟩⟩
  · obtain ⟨b, bs, hb, hle⟩ := utf8EncodeChar_of_le (Nat.le_of_not_lt h)
    have hc : p c = false := Bool.eq_false_iff.mpr fun hpc ↦ h (hp c hpc)
    have hbyte : p (.ofUInt8 b) = false :=
      Bool.eq_false_iff.mpr fun hpb ↦ Nat.not_lt_of_le hle (hp _ hpb)
    rw [hb]
    refine ⟨b, bs ++ utf8 cs, rfl, hbyte.trans hc.symm, fun hpc ↦ ?_⟩
    rw [hc] at hpc
    contradiction

/-- A scan of all bytes for ASCII characters of some kind is one of all characters. -/
theorem all_utf8 {p : Char → Bool} (hp : ∀ c, p c = true → c.toNat < 0x80) (cs : List Char) :
    (utf8 cs).all (fun b ↦ p (.ofUInt8 b)) = cs.all p := by
  induction cs with
  | nil => rfl
  | cons c cs ih =>
    obtain ⟨b, bs, hbytes, hb, hrest⟩ := head_utf8 hp c cs
    rw [hbytes, List.all_cons, List.all_cons, hb]
    cases hc : p c with
    | false => rfl
    | true => rw [(hrest hc).2, ih]

/-- ASCII characters take one byte each. -/
theorem utf8Length_eq_length {p : Char → Bool} (hp : ∀ c, p c = true → c.toNat < 0x80)
    {cs : List Char} (h : ∀ c ∈ cs, p c = true) : utf8Length cs = cs.length := by
  induction cs with
  | nil => rfl
  | cons c cs ih =>
    obtain ⟨hc, hcs⟩ := List.forall_mem_cons.mp h
    obtain ⟨b, bs, -, -, hrest⟩ := head_utf8 hp c cs
    rw [utf8Length_cons, (hrest hc).1, ih hcs, List.length_cons, Nat.add_comm]

/-! ## Cutting a text -/

/-- The two parts of a text before and from a byte offset, if that lies between two characters. -/
def cut? : Nat → List Char → Option (List Char × List Char)
  | 0, cs => some ([], cs)
  | _ + 1, [] => none
  | n + 1, c :: cs =>
    if c.utf8Size ≤ n + 1 then (cut? (n + 1 - c.utf8Size) cs).map fun (xs, ys) ↦ (c :: xs, ys)
    else none

theorem cut?_append (xs ys : List Char) : cut? (utf8Length xs) (xs ++ ys) = some (xs, ys) := by
  induction xs with
  | nil => rw [utf8Length_nil, List.nil_append, cut?]
  | cons c xs ih =>
    -- the offset is a successor, since no character is without a byte
    have hsucc : utf8Length (c :: xs) = (c.utf8Size - 1 + utf8Length xs) + 1 := by
      have := c.utf8Size_pos
      rw [utf8Length_cons]
      omega
    have hrest : utf8Length (c :: xs) - c.utf8Size = utf8Length xs := by
      rw [utf8Length_cons, Nat.add_sub_cancel_left]
    have hle : c.utf8Size ≤ utf8Length (c :: xs) := Nat.le_add_right _ _
    rw [hsucc] at hrest hle
    rw [hsucc, List.cons_append, cut?, if_pos hle, hrest, ih, Option.map_some]

/-- There is a cut at an offset exactly if a part of so many bytes stands before it. -/
theorem cut?_eq_some_iff {n : Nat} {cs xs ys : List Char} :
    cut? n cs = some (xs, ys) ↔ cs = xs ++ ys ∧ utf8Length xs = n := by
  constructor
  · intro h
    fun_induction cut? n cs generalizing xs ys with
    | case1 cs =>
      cases h
      exact ⟨rfl, rfl⟩
    | case2 n => contradiction
    | case3 n c cs hle ih =>
      obtain ⟨⟨xs, ys⟩, hcut, hparts⟩ := Option.map_eq_some_iff.mp h
      cases hparts
      obtain ⟨rfl, hlength⟩ := ih hcut
      refine ⟨rfl, ?_⟩
      rw [utf8Length_cons]
      omega
    | case4 => contradiction
  · rintro ⟨rfl, rfl⟩
    exact cut?_append xs ys

end TagQuery.Text
