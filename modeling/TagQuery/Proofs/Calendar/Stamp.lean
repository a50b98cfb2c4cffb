import TagQuery.Proofs.Calendar.DayNumber
import TagQuery.Proofs.Text.Digits
import TagQuery.Calendar.Stamp

/-!
# Reading written time stamps

A stamp that can be written is read back as it was (`ofChars?_toChars`): the same date and time of
day, to the nanosecond, on the same clock. Two stamps that mark one moment are not yet the same, so
this says more than that the moment is kept.

Zeros at the end of a fraction are not written, but the reader takes a fraction by its place: it
scales the digits that it finds as if the zeros stood there.

The reader accepts more than is written, but no year before 0, so that whatever it reads can be
written (`isWritable_of_ofChars?`).
-/

namespace TagQuery

theorem daysInMonth_le (year : Int) (month : Nat) : daysInMonth year month ≤ 31 := by
  rw [daysInMonth.eq_def]
  split
  case h_12 => split <;> omega
  all_goals omega

namespace Date

/-- Of a date that begins with no sign, all parts have the width that the reader expects. -/
theorem toList_toText {d : Date} (h : 0 ≤ d.year) :
    d.toText.toList = Text.padDigits 4 d.year.natAbs ++
      '-' :: (Text.padDigits 2 d.month ++ '-' :: Text.padDigits 2 d.day) := by
  rw [toText, String.toList_ofList, if_neg (Int.not_lt.mpr h), List.nil_append, List.append_assoc,
    List.cons_append]

theorem month_lt (d : Date) : d.month < 100 := by
  obtain ⟨-, hmonth⟩ := month_mem_of_isDate d.isDate
  omega

theorem day_lt (d : Date) : d.day < 100 := by
  obtain ⟨-, -, hle⟩ := d.isDate
  have hlength := daysInMonth_le d.year d.month
  omega

end Date

namespace Stamp

/-! ## Fractions of a second -/

theorem exists_eq_append_replicate (c : Char) (cs : List Char) :
    ∃ count, cs = (cs.reverse.dropWhile (· == c)).reverse ++ List.replicate count c := by
  have hsplit : cs.reverse.takeWhile (· == c) ++ cs.reverse.dropWhile (· == c) = cs.reverse :=
    List.takeWhile_append_dropWhile
  have hall : ∀ d ∈ cs.reverse.takeWhile (· == c), d = c := by
    intro d hd
    exact beq_iff_eq.mp (List.all_eq_true.mp List.all_takeWhile d hd)
  rw [List.eq_replicate_of_mem hall] at hsplit
  refine ⟨(cs.reverse.takeWhile (· == c)).length, ?_⟩
  rw [← List.reverse_replicate, ← List.reverse_append, hsplit, List.reverse_reverse]

/-- Digits before zeros that fill up a place of nine digits. -/
theorem fractionOfDigits_of_append {digits : List Char} {count : Nat}
    (h : (digits ++ List.replicate count '0').length = 9) :
    fractionOfDigits digits = Text.ofDigits (digits ++ List.replicate count '0') := by
  rw [List.length_append, List.length_replicate] at h
  have htake : digits.take 9 = digits := List.take_of_length_le (by omega)
  have hcount : 9 - digits.length = count := by omega
  rw [fractionOfDigits, htake, hcount]
  change _ = Nat.ofDigitChars 10 (_ ++ _) 0
  rw [Nat.ofDigitChars_append, Nat.ofDigitChars_replicate_zero, Nat.mul_comm]
  rfl

/-- A written fraction is read, up to what follows it. -/
theorem takeFraction?_fractionChars (n : Fin 1000000000) {cs : List Char}
    (hcs : ∀ c ∈ cs.head?, Text.isDigit c = false ∧ c ≠ '.') :
    takeFraction? (fractionChars n ++ cs) = some (n, cs) := by
  rw [fractionChars]
  split
  · next hzero =>
    obtain rfl : n = 0 := Fin.ext hzero
    cases cs with
    | nil => rfl
    | cons c cs =>
      rw [List.nil_append, takeFraction?]
      rintro cs' ⟨⟩
      exact (hcs '.' rfl).2 rfl
  · next hzero =>
    -- the digits that are written, and the zeros that are not
    obtain ⟨count, hpad⟩ := exists_eq_append_replicate '0' (Text.padDigits 9 n)
    generalize ((Text.padDigits 9 n).reverse.dropWhile (· == '0')).reverse = digits at hpad ⊢
    have hlength : (digits ++ List.replicate count '0').length = 9 := by
      rw [← hpad]
      exact Text.length_padDigits (by decide) n.isLt
    have hvalue : fractionOfDigits digits = n := by
      rw [fractionOfDigits_of_append hlength, ← hpad, Text.ofDigits_padDigits]
    -- a fraction of zeros alone would be zero
    have hne : digits.isEmpty = false := by
      rw [List.isEmpty_eq_false_iff]
      intro hnil
      rw [hnil] at hvalue
      exact hzero hvalue.symm
    have hall : ∀ c ∈ digits, Text.isDigit c = true := by
      intro c hc
      have hmem : c ∈ Text.padDigits 9 n := hpad ▸ List.mem_append_left _ hc
      exact Text.isDigit_of_mem_padDigits hmem
    obtain ⟨htake, hdrop⟩ := Text.takeWhile_isDigit_append hall fun c hc ↦ (hcs c hc).1
    rw [List.cons_append, takeFraction?, htake, hdrop, hne, hvalue, inRange?, dif_pos n.isLt]
    rfl

/-! ## Offsets -/

/-- An offset begins with what ends a fraction. -/
theorem head?_offsetChars {offset : Int} {c : Char} (h : c ∈ (offsetChars offset).head?) :
    Text.isDigit c = false ∧ c ≠ '.' := by
  rw [offsetChars] at h
  split at h
  · cases h
    decide
  · split at h
    · cases h
      decide
    · cases h
      decide

theorem skip?_cons (c : Char) (cs : List Char) : skip? c (c :: cs) = some cs := if_pos rfl

theorem offsetMinutes?_cons {sign : Char} {hours minutes : Nat} (hsign : sign ≠ 'Z' ∧ sign ≠ 'z')
    (hhours : hours < 24) (hminutes : minutes < 60) :
    offsetMinutes? (sign :: Text.padDigits 2 hours ++ ':' :: Text.padDigits 2 minutes) =
      if sign = '+' then some (60 * hours + minutes : Int)
      else if sign = '-' then some (-(60 * hours + minutes : Int)) else none := by
  have hreadHours := Text.takeDigits_padDigits (by decide : 0 < 2) (by omega : hours < 100)
    (':' :: Text.padDigits 2 minutes)
  have hreadMinutes := Text.takeDigits_padDigits (by decide : 0 < 2)
    (by omega : minutes < 100) []
  rw [List.append_nil] at hreadMinutes
  rw [List.cons_append, offsetMinutes?]
  · simp only [hreadHours, skip?_cons, hreadMinutes, Option.bind_eq_bind, Option.bind_some]
    rw [if_pos ⟨hhours, hminutes, rfl⟩]
    push_cast
    rfl
  · intro h
    exact absurd h hsign.1
  · intro h
    exact absurd h hsign.2

theorem offsetMinutes?_offsetChars {offset : Int} (h : offset.natAbs < 1440) :
    offsetMinutes? (offsetChars offset) = some offset := by
  rw [offsetChars]
  split
  · next hzero =>
    rw [hzero]
    rfl
  · have hhours : offset.natAbs / 60 < 24 := by omega
    have hminutes : offset.natAbs % 60 < 60 := by omega
    split
    · rw [offsetMinutes?_cons (by decide) hhours hminutes, if_neg (by decide), if_pos rfl]
      congr 1
      omega
    · rw [offsetMinutes?_cons (by decide) hhours hminutes, if_pos rfl]
      congr 1
      omega

/-! ## Stamps -/

theorem settleSecond?_of_lt (minute : Int) (second : Fin 60) (nanosecond : Fin 1000000000) :
    settleSecond? minute second nanosecond = some (second, nanosecond) := by
  rw [settleSecond?, if_neg (Nat.ne_of_lt second.isLt), inRange?, dif_pos second.isLt]
  rfl

theorem inRange?_val {bound : Nat} (n : Fin bound) : inRange? bound n = some n := by
  rw [inRange?, dif_pos n.isLt]

/-- **A written stamp is read back**, on the clock that it was read off. -/
theorem ofChars?_toChars {s : Stamp} (h : s.isWritable = true) : ofChars? s.toChars = some s := by
  have hyear : 0 ≤ s.date.year := of_decide_eq_true h
  have hyear' : s.date.year.natAbs < 10000 := by
    obtain ⟨⟨-, hlast⟩, -⟩ := s.date.isDate
    omega
  have hdate : Date.of? s.date.year.natAbs s.date.month s.date.day = some s.date :=
    Date.of?_eq_some_iff.mpr ⟨(Int.natAbs_of_nonneg hyear).symm, rfl, rfl⟩
  have hfraction : takeFraction? (fractionChars s.nanosecond ++ offsetChars s.offset) =
      some (s.nanosecond, offsetChars s.offset) :=
    takeFraction?_fractionChars s.nanosecond fun _ ↦ head?_offsetChars
  have hbetween : ∀ cs, skipAscii? ('T' :: cs) = some cs := fun _ ↦ rfl
  have hread : ∀ {n : Nat}, n < 100 → ∀ cs,
      Text.takeDigits 2 (Text.padDigits 2 n ++ cs) = some (n, cs) :=
    Text.takeDigits_padDigits (by decide : 0 < 2)
  have hhour : (s.hour : Nat) < 100 := by omega
  have hminute : (s.minute : Nat) < 100 := by omega
  have hsecond : (s.second : Nat) < 100 := by omega
  rw [ofChars?, toChars, Date.toList_toText hyear]
  simp only [List.append_assoc, List.cons_append]
  -- the reader's steps, one after the other
  refine Option.bind_eq_some_iff.mpr ⟨_, Text.takeDigits_padDigits (by decide : 0 < 4) hyear' _, ?_⟩
  refine Option.bind_eq_some_iff.mpr ⟨_, skip?_cons '-' _, ?_⟩
  refine Option.bind_eq_some_iff.mpr ⟨_, hread s.date.month_lt _, ?_⟩
  refine Option.bind_eq_some_iff.mpr ⟨_, skip?_cons '-' _, ?_⟩
  refine Option.bind_eq_some_iff.mpr ⟨_, hread s.date.day_lt _, ?_⟩
  refine Option.bind_eq_some_iff.mpr ⟨_, hbetween _, ?_⟩
  refine Option.bind_eq_some_iff.mpr ⟨_, hread hhour _, ?_⟩
  refine Option.bind_eq_some_iff.mpr ⟨_, skip?_cons ':' _, ?_⟩
  refine Option.bind_eq_some_iff.mpr ⟨_, hread hminute _, ?_⟩
  refine Option.bind_eq_some_iff.mpr ⟨_, skip?_cons ':' _, ?_⟩
  refine Option.bind_eq_some_iff.mpr ⟨_, hread hsecond _, ?_⟩
  refine Option.bind_eq_some_iff.mpr ⟨_, hfraction, ?_⟩
  refine Option.bind_eq_some_iff.mpr ⟨_, offsetMinutes?_offsetChars s.natAbs_offset_lt, ?_⟩
  refine Option.bind_eq_some_iff.mpr ⟨_, hdate, ?_⟩
  refine Option.bind_eq_some_iff.mpr ⟨_, inRange?_val s.hour, ?_⟩
  refine Option.bind_eq_some_iff.mpr ⟨_, inRange?_val s.minute, ?_⟩
  refine Option.bind_eq_some_iff.mpr ⟨_, settleSecond?_of_lt _ s.second s.nanosecond, ?_⟩
  exact dif_pos s.natAbs_offset_lt

/-! ## What can be read can be written -/

/-- A year is read from digits alone, so it is none before 0. -/
theorem isWritable_of_ofChars? {cs : List Char} {s : Stamp} (h : ofChars? cs = some s) :
    s.isWritable = true := by
  -- of all steps only those that read the year and make up the date are needed
  obtain ⟨⟨year, _⟩, -, h⟩ := Option.bind_eq_some_iff.mp h
  obtain ⟨_, -, h⟩ := Option.bind_eq_some_iff.mp h
  obtain ⟨⟨month, _⟩, -, h⟩ := Option.bind_eq_some_iff.mp h
  obtain ⟨_, -, h⟩ := Option.bind_eq_some_iff.mp h
  obtain ⟨⟨day, _⟩, -, h⟩ := Option.bind_eq_some_iff.mp h
  obtain ⟨_, -, h⟩ := Option.bind_eq_some_iff.mp h
  obtain ⟨⟨_, _⟩, -, h⟩ := Option.bind_eq_some_iff.mp h
  obtain ⟨_, -, h⟩ := Option.bind_eq_some_iff.mp h
  obtain ⟨⟨_, _⟩, -, h⟩ := Option.bind_eq_some_iff.mp h
  obtain ⟨_, -, h⟩ := Option.bind_eq_some_iff.mp h
  obtain ⟨⟨_, _⟩, -, h⟩ := Option.bind_eq_some_iff.mp h
  obtain ⟨⟨_, _⟩, -, h⟩ := Option.bind_eq_some_iff.mp h
  obtain ⟨_, -, h⟩ := Option.bind_eq_some_iff.mp h
  obtain ⟨date, hdate, h⟩ := Option.bind_eq_some_iff.mp h
  obtain ⟨_, -, h⟩ := Option.bind_eq_some_iff.mp h
  obtain ⟨_, -, h⟩ := Option.bind_eq_some_iff.mp h
  obtain ⟨⟨_, _⟩, -, hstamp⟩ := Option.bind_eq_some_iff.mp h
  obtain ⟨hyear, -, -⟩ := Date.of?_eq_some_iff.mp hdate
  obtain ⟨_, hstamp⟩ := Option.dite_none_right_eq_some.mp hstamp
  cases hstamp
  exact decide_eq_true (hyear ▸ Int.natCast_nonneg year)

end Stamp

end TagQuery
