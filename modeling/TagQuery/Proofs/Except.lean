/-!
# Computations that succeed

What it takes for a computation in several steps to succeed: every step succeeds, and the value of
one is what the next goes on from, while what its fault would be called makes no difference. It
fails with the fault of the first step that does. Readers and compilers are taken apart by these
lemmas.

Where one thing after the other is looked at until one is faulty, the fault that is reported is the
*first fault* of the list (`FirstFault`).
-/

namespace TagQuery

variable {ε ε' α β : Type}

theorem bind_eq_ok_iff {x : Except ε α} {f : α → Except ε β} {b : β} :
    x >>= f = .ok b ↔ ∃ a, x = .ok a ∧ f a = .ok b := by
  cases x with
  | error e => simp [Bind.bind, Except.bind]
  | ok a => simp [Bind.bind, Except.bind]

theorem map_eq_ok_iff {x : Except ε α} {f : α → β} {b : β} :
    x.map f = .ok b ↔ ∃ a, x = .ok a ∧ f a = b := by
  cases x with
  | error e => simp [Except.map]
  | ok a => simp [Except.map]

theorem bind_eq_error_iff {x : Except ε α} {f : α → Except ε β} {e : ε} :
    x >>= f = .error e ↔ x = .error e ∨ ∃ a, x = .ok a ∧ f a = .error e := by
  cases x with
  | error e => simp [Bind.bind, Except.bind]
  | ok a => simp [Bind.bind, Except.bind]

theorem map_eq_error_iff {x : Except ε α} {f : α → β} {e : ε} :
    x.map f = .error e ↔ x = .error e := by
  cases x with
  | error e => simp [Except.map]
  | ok a => simp [Except.map]

theorem mapError_eq_ok_iff {x : Except ε α} {f : ε → ε'} {a : α} :
    x.mapError f = .ok a ↔ x = .ok a := by
  cases x with
  | error e => exact ⟨nofun, nofun⟩
  | ok a =>
    constructor <;> intro h
    · exact congrArg Except.ok (Except.ok.inj h)
    · exact congrArg Except.ok (Except.ok.inj h)

theorem mapError_eq_error_iff {x : Except ε α} {f : ε → ε'} {e : ε'} :
    x.mapError f = .error e ↔ ∃ e', x = .error e' ∧ f e' = e := by
  constructor
  · intro h
    cases x with
    | error e' => exact ⟨e', rfl, Except.error.inj h⟩
    | ok a => cases h
  · rintro ⟨e', rfl, rfl⟩
    rfl

theorem exists_eq_ok_of_isOk {x : Except ε α} (h : x.isOk = true) : ∃ a, x = .ok a := by
  cases x with
  | error e => cases h
  | ok a => exact ⟨a, rfl⟩

/-! ## The first fault of a list -/

/-- Of the members of a list, one fails with a fault, and all before it succeed. -/
def FirstFault (f : α → Except ε β) (as : List α) (fault : ε) : Prop :=
  ∃ before a after, as = before ++ a :: after ∧ (∀ b ∈ before, ∃ c, f b = .ok c) ∧
    f a = .error fault

section FirstFault

variable {f : α → Except ε β} {a : α} {as bs : List α} {fault : ε}

theorem not_firstFault_nil : ¬FirstFault f [] fault := by
  rintro ⟨before, a, after, has, -⟩
  exact absurd has.symm (List.append_ne_nil_of_right_ne_nil before (List.cons_ne_nil a after))

theorem firstFault_cons_iff :
    FirstFault f (a :: as) fault ↔
      f a = .error fault ∨ (∃ b, f a = .ok b) ∧ FirstFault f as fault := by
  constructor
  · rintro ⟨before, c, after, has, hbefore, hc⟩
    cases before with
    | nil =>
      rw [List.nil_append] at has
      exact .inl ((List.cons.inj has).1 ▸ hc)
    | cons b before =>
      obtain ⟨hhead, htail⟩ := List.cons.inj has
      refine .inr ⟨hhead ▸ hbefore b List.mem_cons_self, before, c, after, htail, ?_, hc⟩
      intro d hd
      exact hbefore d (List.mem_cons_of_mem b hd)
  · rintro (ha | ⟨ha, before, c, after, rfl, hbefore, hc⟩)
    · exact ⟨[], a, as, rfl, List.forall_mem_nil _, ha⟩
    · exact ⟨a :: before, c, after, rfl, List.forall_mem_cons.mpr ⟨ha, hbefore⟩, hc⟩

theorem firstFault_singleton_iff : FirstFault f [a] fault ↔ f a = .error fault := by
  rw [firstFault_cons_iff]
  exact or_iff_left fun h ↦ not_firstFault_nil h.2

/-- The first fault of two lists is that of the first one, or else that of the second one. -/
theorem firstFault_append_iff :
    FirstFault f (as ++ bs) fault ↔
      FirstFault f as fault ∨ (∀ a ∈ as, ∃ b, f a = .ok b) ∧ FirstFault f bs fault := by
  induction as with
  | nil => simp [not_firstFault_nil]
  | cons a as ih =>
    rw [List.cons_append, firstFault_cons_iff, firstFault_cons_iff, ih, List.forall_mem_cons,
      and_or_left, or_assoc, and_assoc]

end FirstFault

end TagQuery
