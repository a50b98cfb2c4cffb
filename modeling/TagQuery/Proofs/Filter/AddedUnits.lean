import TagQuery.Proofs.Filter.LeftmostFault
import TagQuery.Proofs.Units.Lookup

/-!
# Adding units

Definitions of units are added to a table by merging it with another one. A suffix in the spelling
of an added one is found before those that differ from it in case, so an addition could take a
spelling away from a unit that it was read as before. It cannot if every suffix of both tables has
one reading and none is in both of them, ignoring case: then the merged table looks a suffix up in
the old table, and only if it is unknown there among the additions (`UnitTable.lookup?_merge`).

So nothing changes but that some texts are quantities now, which were rejected for a unit that has
been added (`UnitTable.IsGained`). This carries over from the number with its suffix to literals and
values of tags, from literals to conditions, and from the conditions to whole queries, which keep
their trees (`UnitTable.merge_conservative`).
-/

namespace TagQuery

open Query

namespace UnitTable

variable {table extra : UnitTable} {text : String} {quantity : Quantity}

/-! ## Quantities -/

/-- A text has an added unit: its fault without the addition, and its quantity with it. -/
inductive IsGained (extra : UnitTable) (text : String) : LiteralError → Quantity → Prop where
  | intro {x : Float} {suffix key : String} {u : UnitDefinition}
      (hsplit : splitNumber? text = some (x, suffix)) (hsuffix : suffix ≠ "")
      (hentry : (key, u) ∈ extra.entries) (hequal : equalIgnoringCase key suffix = true) :
      IsGained extra text (.unknownUnit text suffix) ⟨x * u.factor, some u.dimension⟩

theorem toOption_parseLiteral (table : UnitTable) (text : String) :
    (table.parseLiteral text).toOption = table.parseTagValue? text := by
  rw [parseLiteral, parseTagValue?]
  cases splitNumber? text with
  | none => rfl
  | some split =>
    obtain ⟨x, suffix⟩ := split
    rw [Option.bind_some]
    dsimp only
    cases table.normalize? x suffix <;> rfl

variable (htable : table.IsUnambiguous) (hextra : extra.IsUnambiguous)
  (hapart : extra.IsApartFrom table)

include htable hextra hapart

theorem normalize?_merge (x : Float) (suffix : String) :
    normalize? (table.merge extra) x suffix =
      (table.normalize? x suffix).or (extra.normalize? x suffix) := by
  rw [normalize?, normalize?, normalize?]
  split
  · rfl
  · rw [lookup?_merge htable hextra hapart, Option.map_or]

/-- A literal is read as before, or has an added unit. -/
theorem parseLiteral_merge (text : String) :
    parseLiteral (table.merge extra) text = table.parseLiteral text ∨
      ∃ fault quantity, extra.IsGained text fault quantity ∧
        table.parseLiteral text = .error fault ∧
        parseLiteral (table.merge extra) text = .ok quantity := by
  rw [parseLiteral, parseLiteral]
  cases hsplit : splitNumber? text with
  | none => exact .inl rfl
  | some split =>
    obtain ⟨x, suffix⟩ := split
    dsimp only
    rw [normalize?_merge htable hextra hapart]
    cases hold : table.normalize? x suffix with
    | some quantity => exact .inl rfl
    | none =>
      cases hnew : extra.normalize? x suffix with
      | none => exact .inl rfl
      | some quantity =>
        have hsuffix := (normalize?_eq_none_iff.mp hold).1
        rcases normalize?_eq_some_iff.mp hnew with ⟨hempty, -⟩ | ⟨-, u, hu, rfl⟩
        · contradiction
        obtain ⟨key, hentry, hequal⟩ := exists_entry_of_lookup? hu
        exact .inr ⟨_, _, .intro hsplit hsuffix hentry hequal, rfl, rfl⟩

theorem parseLiteral_merge_of_ok (h : table.parseLiteral text = .ok quantity) :
    parseLiteral (table.merge extra) text = .ok quantity := by
  rcases parseLiteral_merge htable hextra hapart text with hsame | ⟨_, _, -, hold, -⟩
  · rw [hsame, h]
  · rw [h] at hold
    contradiction

theorem parseTagValue?_merge_of_some (h : table.parseTagValue? text = some quantity) :
    parseTagValue? (table.merge extra) text = some quantity := by
  rw [← parseLiteral_eq_ok_iff] at h ⊢
  exact parseLiteral_merge_of_ok htable hextra hapart h

theorem parseTagValue?_merge (value : String) :
    parseTagValue? (table.merge extra) value = table.parseTagValue? value ∨
      ∃ fault quantity, extra.IsGained value fault quantity ∧
        table.parseTagValue? value = none ∧
        parseTagValue? (table.merge extra) value = some quantity := by
  simp only [← toOption_parseLiteral]
  rcases parseLiteral_merge htable hextra hapart value with
    hsame | ⟨fault, quantity, hgained, hold, hnew⟩
  · exact .inl (congrArg _ hsame)
  · exact .inr ⟨fault, quantity, hgained, congrArg _ hold, congrArg _ hnew⟩

end UnitTable

/-! ## Conditions and queries -/

section Compiling

variable {table extra : UnitTable} (htable : table.IsUnambiguous) (hextra : extra.IsUnambiguous)
  (hapart : extra.IsApartFrom table)

include htable hextra hapart

/-- A condition compiles as before, or compares with a literal that has an added unit. -/
theorem Predicate.ofCondition_merge (c : Condition) :
    ofCondition (table.merge extra) c = ofCondition table c ∨
      ∃ key op literal fault threshold, c = .compares key op literal ∧
        extra.IsGained literal fault threshold ∧
        ofCondition table c = .error (.literal fault) ∧
        ofCondition (table.merge extra) c = .ok (quantity key op threshold) := by
  cases c with
  | compares key op literal =>
    rw [ofCondition, ofCondition, comparison, comparison]
    split
    · exact .inl rfl
    · rcases table.parseLiteral_merge htable hextra hapart literal with
        hsame | ⟨fault, threshold, hgained, hold, hnew⟩
      · exact .inl (by rw [hsame])
      · refine .inr ⟨key, op, literal, fault, threshold, rfl, hgained, ?_, ?_⟩
        · rw [hold]
          rfl
        · rw [hnew]
          rfl
  | _ => exact .inl rfl

theorem Predicate.ofCondition_merge_of_ok {c : Condition} {p : Predicate}
    (h : ofCondition table c = .ok p) : ofCondition (table.merge extra) c = .ok p := by
  rcases ofCondition_merge htable hextra hapart c with hsame | ⟨_, _, _, _, _, -, -, hold, -⟩
  · rw [hsame, h]
  · rw [h] at hold
    contradiction

namespace Filter

variable {source : String} {f : Filter}

/-- A query keeps its tree, and reads the values of tags by the merged table. -/
theorem ofSource_merge_of_ok (h : ofSource table source = .ok f) :
    ofSource (table.merge extra) source = .ok { f with units := table.merge extra } := by
  obtain ⟨q, hq, hf⟩ := ofSource_eq_ok_iff.mp h
  refine ofSource_eq_ok_iff.mpr ⟨q, hq, ?_⟩
  obtain ⟨kinds, condition⟩ := q
  cases condition with
  | none =>
    rw [ofQuery_none_eq_ok_iff.mp hf]
    exact ofQuery_none_eq_ok_iff.mpr rfl
  | some expr =>
    obtain ⟨c, hc, rfl⟩ := ofQuery_some_eq_ok_iff.mp hf
    have hleaf : ∀ a p, Predicate.ofCondition table a = .ok p →
        Predicate.ofCondition (table.merge extra) a = .ok p :=
      fun _ _ ↦ Predicate.ofCondition_merge_of_ok htable hextra hapart
    exact ofQuery_some_eq_ok_iff.mpr ⟨c, Expr.traverse_of_imp hleaf expr hc, rfl⟩

/-- A fault stays what it is, unless it is that of a literal that has an added unit. -/
theorem ofSource_merge_of_error {e : QueryError} (h : ofSource table source = .error e) :
    ofSource (table.merge extra) source = .error e ∨
      ∃ q key op literal fault threshold, parse source = .ok q ∧
        .compares key op literal ∈ q.leaves ∧ extra.IsGained literal fault threshold ∧
        e = .compile (.literal fault) := by
  cases e with
  | parse e => exact .inl (ofSource_eq_error_parse_iff.mpr (ofSource_eq_error_parse_iff.mp h))
  | compile fault =>
    obtain ⟨q, hq, hfault⟩ := ofSource_eq_error_compile_iff.mp h
    obtain ⟨before, c, after, hleaves, hbefore, hc⟩ := ofQuery_eq_error_iff.mp hfault
    have hmem : c ∈ q.leaves := by
      rw [hleaves]
      exact List.mem_append_right _ List.mem_cons_self
    rcases Predicate.ofCondition_merge htable hextra hapart c with
      hsame | ⟨key, op, literal, fault', threshold, rfl, hgained, hold, -⟩
    · -- what compiled before the faulty condition still compiles
      have hbefore' : ∀ b ∈ before, ∃ p, Predicate.ofCondition (table.merge extra) b = .ok p := by
        intro b hb
        obtain ⟨p, hp⟩ := hbefore b hb
        exact ⟨p, Predicate.ofCondition_merge_of_ok htable hextra hapart hp⟩
      have hfault' : FirstFault (Predicate.ofCondition (table.merge extra)) q.leaves fault :=
        ⟨before, c, after, hleaves, hbefore', hsame.trans hc⟩
      exact .inl (ofSource_eq_error_compile_iff.mpr ⟨q, hq, ofQuery_eq_error_iff.mpr hfault'⟩)
    · rw [hc] at hold
      obtain rfl := Except.error.inj hold
      exact .inr ⟨q, key, op, literal, fault', threshold, hq, hmem, hgained, rfl⟩

end Filter

end Compiling

/-- **Adding units changes nothing but what was rejected for want of them.** Where every suffix of
both tables has one reading and none is in both of them, ignoring case, it keeps its reading when
they are merged, in whatever order the entries are looked through. Then literals and values of tags
are read as before, conditions compile as before, and queries compile to the same trees. What is
different was rejected for its unit and has an added unit: it has become a quantity of that unit. -/
theorem UnitTable.merge_conservative {table extra : UnitTable} (htable : table.IsUnambiguous)
    (hextra : extra.IsUnambiguous) (hapart : extra.IsApartFrom table) :
    (∀ walk, walk.Perm (table.merge extra).entries → ∀ suffix u,
      lookupAlong? (table.merge extra) walk suffix = some u ↔
        ∃ key, ((key, u) ∈ table.entries ∨ (key, u) ∈ extra.entries) ∧
          equalIgnoringCase key suffix = true) ∧
    (∀ value quantity, table.parseTagValue? value = some quantity →
      parseTagValue? (table.merge extra) value = some quantity) ∧
    (∀ literal quantity, table.parseLiteral literal = .ok quantity →
      parseLiteral (table.merge extra) literal = .ok quantity) ∧
    (∀ source f, Filter.ofSource table source = .ok f →
      Filter.ofSource (table.merge extra) source = .ok { f with units := table.merge extra }) ∧
    (∀ value, parseTagValue? (table.merge extra) value = table.parseTagValue? value ∨
      ∃ fault quantity, extra.IsGained value fault quantity ∧
        table.parseTagValue? value = none ∧
        parseTagValue? (table.merge extra) value = some quantity) ∧
    (∀ literal, parseLiteral (table.merge extra) literal = table.parseLiteral literal ∨
      ∃ fault quantity, extra.IsGained literal fault quantity ∧
        table.parseLiteral literal = .error fault ∧
        parseLiteral (table.merge extra) literal = .ok quantity) ∧
    (∀ c, Predicate.ofCondition (table.merge extra) c = Predicate.ofCondition table c ∨
      ∃ key op literal fault threshold, c = .compares key op literal ∧
        extra.IsGained literal fault threshold ∧
        Predicate.ofCondition table c = .error (.literal fault) ∧
        Predicate.ofCondition (table.merge extra) c = .ok (.quantity key op threshold)) ∧
    ∀ source e, Filter.ofSource table source = .error e →
      Filter.ofSource (table.merge extra) source = .error e ∨
        ∃ q key op literal fault threshold, parse source = .ok q ∧
          .compares key op literal ∈ q.leaves ∧ extra.IsGained literal fault threshold ∧
          e = .compile (.literal fault) := by
  refine ⟨fun walk hwalk suffix u ↦ ?_, fun value quantity h ↦ ?_, fun literal quantity h ↦ ?_,
    fun source f h ↦ ?_, ?_, ?_, ?_, fun source e h ↦ ?_⟩
  · simp only [lookupAlong?_eq_some_iff hwalk (htable.merge hextra hapart),
      hapart.mem_entries_merge_iff]
  · exact parseTagValue?_merge_of_some htable hextra hapart h
  · exact parseLiteral_merge_of_ok htable hextra hapart h
  · exact Filter.ofSource_merge_of_ok htable hextra hapart h
  · exact parseTagValue?_merge htable hextra hapart
  · exact parseLiteral_merge htable hextra hapart
  · exact Predicate.ofCondition_merge htable hextra hapart
  · exact Filter.ofSource_merge_of_error htable hextra hapart h

/-- Yards are added to the standard units: they are found on the way back through the merged table
as well, metres mean what they meant, and `2 YD` is a length. -/
theorem UnitTable.merge_conservative_yards :
    let yards : UnitTable := .ofList [("yd", ⟨.length, Binary64.ofDecimal false 9144 (-4)⟩)]
    standard.IsUnambiguous ∧ yards.IsUnambiguous ∧ yards.IsApartFrom standard ∧
      lookupAlong? (standard.merge yards) (standard.merge yards).entries.reverse "YD" =
        some ⟨.length, Binary64.ofDecimal false 9144 (-4)⟩ ∧
      (∃ f, Filter.ofSource standard "ways with width > 2 m" = .ok f ∧
        Filter.ofSource (standard.merge yards) "ways with width > 2 m" =
          .ok { f with units := standard.merge yards }) ∧
      ∃ quantity, yards.IsGained "2 YD" (.unknownUnit "2 YD" "YD") quantity ∧
        parseLiteral (standard.merge yards) "2 YD" = .ok quantity := by
  intro yards
  have hextra : yards.IsUnambiguous := by decide +kernel
  have hapart : yards.IsApartFrom standard := by decide +kernel
  obtain ⟨hwalks, -, -, hqueries, -, hliterals, -⟩ :=
    merge_conservative isUnambiguous_standard hextra hapart
  refine ⟨isUnambiguous_standard, hextra, hapart, ?_, ?_, ?_⟩
  · exact (hwalks _ (List.reverse_perm _) "YD" _).mpr
      ⟨"yd", .inr (Dictionary.mem_entries_iff.mpr rfl), by decide⟩
  · obtain ⟨f, hf⟩ : ∃ f, Filter.ofSource standard "ways with width > 2 m" = .ok f :=
      exists_eq_ok_of_isOk (by decide +kernel)
    exact ⟨f, hf, hqueries _ f hf⟩
  · have hold : standard.parseLiteral "2 YD" = .error (.unknownUnit "2 YD" "YD") := rfl
    have hknown : (parseLiteral (standard.merge yards) "2 YD").isOk = true := rfl
    rcases hliterals "2 YD" with hsame | ⟨fault, quantity, hgained, hold', hnew⟩
    · rw [hsame, hold] at hknown
      contradiction
    · obtain rfl := Except.error.inj (hold.symm.trans hold')
      exact ⟨quantity, hgained, hnew⟩

end TagQuery
