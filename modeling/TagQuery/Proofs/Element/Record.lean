import TagQuery.Element.Record
import TagQuery.Proofs.Calendar.Stamp
import TagQuery.Proofs.Json.Spelling
import TagQuery.Text.Lines

/-!
# Reading written records

Writing and reading an element are inverse (`ofLine?_emitted`). The written line spells an object
whose members are spelled one after the other, and reading the object's members gives the parts of
the element back: the kind by its name, the identifier by its digits, the tags whatever the order in
which they were written, and the stamp with its clock.

No line break stands within a record, since a string has its control characters escaped and all else
is written without blanks. So records in a text of lines are told apart by the lines.

The converse of the round trip has to deal with stamps only: whatever form of a record is read, its
stamp has a written form (`isWritable_of_ofJson?`), and nothing else keeps an element from being
written.
-/

namespace TagQuery.Record

open Json

/-! ## Objects -/

/-- A member to be written: its name, the text of its value, and the value. -/
abbrev Field := String × List Char × Json

/-- The text of some members. -/
def fieldsText (fields : List Field) : List Char :=
  List.intercalate [','] (fields.map fun f ↦ writeMember f.1 f.2.1)

/-- The members of an object, as they are read. -/
def fieldsJson (fields : List Field) : List (List Char × Json) :=
  fields.map fun f ↦ (encode f.1.toList, f.2.2)

/-- The first of the members of an object is read up to what follows its value. -/
theorem scanMembers?_writeMember {f : Field} (h : Spells f.2.1 f.2.2) {count : Nat}
    (hcount : f.2.1.length ≤ count) {rest : List Char} (hrest : IsDelimited rest) :
    scanMembers? (count + 1) (writeMember f.1 f.2.1 ++ rest) =
      match skipBlanks rest with
      | ',' :: rest => (scanMembers? count rest).bind fun (members, rest) ↦
          some ((encode f.1.toList, f.2.2) :: members, rest)
      | '\x7d' :: rest => some ([(encode f.1.toList, f.2.2)], rest)
      | _ => none := by
  have hmember : writeMember f.1 f.2.1 ++ rest =
      '"' :: (encode f.1.toList ++ '"' :: ':' :: (f.2.1 ++ rest)) := by
    rw [writeMember, quote, List.append_assoc, List.append_assoc, List.cons_append]
    rfl
  have hcolon := skipBlanks_cons (rfl : isBlank ':' = false)
  rw [hmember, scanMembers?, skipBlanks_cons rfl]
  simp only [scanString?_encode, hcolon, h count rest hcount hrest, Option.bind_eq_bind,
    Option.bind_some]
  rfl

theorem fieldsText_singleton (f : Field) : fieldsText [f] = writeMember f.1 f.2.1 :=
  List.intercalate_singleton

theorem fieldsText_cons_cons (f g : Field) (fields : List Field) :
    fieldsText (f :: g :: fields) = writeMember f.1 f.2.1 ++ ',' :: fieldsText (g :: fields) := by
  rw [fieldsText, List.map_cons, List.map_cons, List.intercalate_cons_cons, List.append_assoc]
  rfl

theorem length_lt_length_writeMember (name : String) (text : List Char) :
    text.length < (writeMember name text).length := by
  rw [writeMember, List.length_append, List.length_cons]
  omega

/-- The members of a written object are read up to its closing brace. -/
theorem scanMembers?_fieldsText {fields : List Field} (hne : fields ≠ [])
    (h : ∀ f ∈ fields, Spells f.2.1 f.2.2) {count : Nat}
    (hcount : (fieldsText fields).length ≤ count) (rest : List Char) :
    scanMembers? count (fieldsText fields ++ '\x7d' :: rest) = some (fieldsJson fields, rest) := by
  induction fields generalizing count with
  | nil => exact absurd rfl hne
  | cons f fields ih =>
    have hf := h f List.mem_cons_self
    have hlength := length_lt_length_writeMember f.1 f.2.1
    cases fields with
    | nil =>
      rw [fieldsText_singleton] at hcount ⊢
      obtain ⟨count, rfl⟩ : ∃ n, count = n + 1 := ⟨count - 1, by omega⟩
      rw [scanMembers?_writeMember hf (by omega) (by rintro _ ⟨⟩; decide)]
      rfl
    | cons g fields =>
      rw [fieldsText_cons_cons] at hcount ⊢
      rw [List.length_append, List.length_cons] at hcount
      obtain ⟨count, rfl⟩ : ∃ n, count = n + 1 := ⟨count - 1, by omega⟩
      -- the rest is shorter by a member and a comma, which is what the count needs
      have hrest := ih (List.cons_ne_nil g fields) (fun f hf ↦ h f (List.mem_cons_of_mem _ hf))
        (by omega : (fieldsText (g :: fields)).length ≤ count)
      rw [List.append_assoc, List.cons_append,
        scanMembers?_writeMember hf (by omega) (by rintro _ ⟨⟩; decide)]
      have hcomma := skipBlanks_cons (rfl : isBlank ',' = false)
      simp only [hcomma, hrest, Option.bind_some]
      rfl

/-- A written object is spelled by its members. -/
theorem spells_writeObject {fields : List Field} (h : ∀ f ∈ fields, Spells f.2.1 f.2.2) :
    Spells (writeObject (fields.map fun f ↦ writeMember f.1 f.2.1))
      (.object (fieldsJson fields)) := by
  intro count rest hcount _
  have hobject : writeObject (fields.map fun f ↦ writeMember f.1 f.2.1) =
      '\x7b' :: (fieldsText fields ++ ['\x7d']) := rfl
  rw [hobject] at hcount ⊢
  rw [List.length_cons, List.length_append] at hcount
  obtain ⟨count, rfl⟩ : ∃ n, count = n + 1 := ⟨count - 1, by omega⟩
  rw [List.cons_append, List.append_assoc, List.singleton_append, scanValue?, skipBlanks_cons rfl]
  cases fields with
  | nil => rfl
  | cons f fields =>
    have hmembers := scanMembers?_fieldsText (List.cons_ne_nil f fields) h
      (by omega : (fieldsText (f :: fields)).length ≤ count) rest
    -- the brace is not followed by another, since a member begins with its name
    obtain ⟨cs, hcs⟩ : ∃ cs, fieldsText (f :: fields) = '"' :: cs := by
      cases fields with
      | nil => exact ⟨_, fieldsText_singleton f⟩
      | cons g fields => exact ⟨_, fieldsText_cons_cons f g fields⟩
    have hname := skipBlanks_cons (rfl : isBlank '"' = false)
    rw [hcs, List.cons_append] at hmembers ⊢
    simp only [hname]
    change (scanMembers? count _).map _ = _
    rw [hmembers]
    rfl

/-! ## The parts of an element -/

theorem namedMembers?_fieldsJson (fields : List Field) :
    namedMembers? (fieldsJson fields) = some (fields.map fun f ↦ (f.1, f.2.2)) := by
  rw [namedMembers?, fieldsJson]
  induction fields with
  | nil => rfl
  | cons f fields ih =>
    rw [List.map_cons, List.mapM_cons, ih]
    simp only [decode?_encode, Option.map_some, String.ofList_toList]
    rfl

theorem text?_encode (s : String) : (Json.string (encode s.toList)).text? = some s := by
  rw [text?, decode?_encode, Option.map_some, String.ofList_toList]

theorem kindOf?_name (kind : Kind) : kindOf? (.string (encode kind.name.toList)) = some kind := by
  rw [kindOf?, text?_encode, Option.bind_some]
  · cases kind <;> rfl
  · nofun

theorem fits_toInt (id : Int64) : Whole.fits id.toInt = true := by
  have hmin := Int64.le_toInt id
  have hmax := Int64.toInt_le id
  rw [Whole.fits, Bool.and_eq_true, decide_eq_true_iff, decide_eq_true_iff]
  exact ⟨hmin, hmax⟩

theorem wholeOfLiteral?_writeId (id : Int64) : wholeOfLiteral? (writeId id) = some id.toInt := by
  obtain ⟨hread, hreadNeg⟩ := wholeOfLiteral?_toDigits id.toInt.natAbs
  have hneg : id < 0 ↔ id.toInt < 0 := by rw [Int64.lt_iff_toInt_lt, Int64.toInt_zero]
  rw [writeId]
  by_cases h : id.toInt < 0
  · rw [if_pos (hneg.mpr h), List.singleton_append, hreadNeg (by omega)]
    congr 1
    omega
  · rw [if_neg (mt hneg.mp h), List.nil_append, hread]
    congr 1
    omega

theorem spells_writeId (id : Int64) : Spells (writeId id) (.number (writeId id)) := by
  refine spells_whole id.toInt.natAbs ?_
  split
  · exact .inr rfl
  · exact .inl rfl

theorem idOf?_writeId (id : Int64) : idOf? (.number (writeId id)) = some id := by
  rw [idOf?, whole?, wholeOfLiteral?_writeId, Option.bind_some, if_pos (fits_toInt id),
    Int64.ofInt_toInt]

/-- The fields of written tags. -/
def tagFields (tags : List (String × String)) : List Field :=
  tags.map fun (key, value) ↦ (key, quote value, .string (encode value.toList))

theorem spells_writeTags (tags : List (String × String)) :
    Spells (writeTags tags) (.object (fieldsJson (tagFields tags))) := by
  have hfields : ∀ f ∈ tagFields tags, Spells f.2.1 f.2.2 := by
    intro f hf
    obtain ⟨⟨key, value⟩, -, rfl⟩ := List.mem_map.mp hf
    exact spells_quote value
  have hspells := spells_writeObject hfields
  rw [tagFields, List.map_map] at hspells
  exact hspells

theorem mapM_tagFields {f : String × Json → Option (String × String)}
    (hf : ∀ key value, f (key, .string (encode value.toList)) = some (key, value))
    (tags : List (String × String)) :
    ((tagFields tags).map fun f ↦ (f.1, f.2.2)).mapM f = some tags := by
  rw [tagFields, List.map_map]
  induction tags with
  | nil => rfl
  | cons a tags ih =>
    rw [List.map_cons, List.mapM_cons, ih, Function.comp_apply, hf]
    rfl

/-- Tags are read back whatever the order in which they were written. -/
theorem tagsOf?_tagFields {tags : Tags} {entries : List (String × String)}
    (h : entries.Perm tags.entries) :
    tagsOf? (.object (fieldsJson (tagFields entries))) = some tags := by
  rw [tagsOf?, namedMembers?_fieldsJson, Option.bind_eq_bind, Option.bind_some, mapM_tagFields,
    Option.bind_eq_bind, Option.bind_some, Dictionary.ofList_of_perm h]
  · rfl
  · intro key value
    simp only [text?_encode, Option.map_some]

theorem stampOf?_toText {s : Stamp} (h : s.isWritable = true) :
    stampOf? (.string (encode s.toText.toList)) = some (some s) := by
  have hread : Stamp.ofText? s.toText = some s := by
    rw [Stamp.ofText?, Stamp.toText, String.toList_ofList, Stamp.ofChars?_toChars h]
  rw [stampOf?, text?_encode, Option.bind_some, hread, Option.map_some]
  nofun

/-! ## Records -/

/-- The fields of a written record. -/
def fields (e : Element) (tags : List (String × String)) : List Field :=
  [("type", quote e.kind.name, .string (encode e.kind.name.toList)),
    ("id", writeId e.id, .number (writeId e.id)),
    ("tags", writeTags tags, .object (fieldsJson (tagFields tags)))] ++
  (e.stamp.map fun s ↦ ("timestamp", quote s.toText, .string (encode s.toText.toList))).toList

theorem spells_writeOrdered (e : Element) (tags : List (String × String)) :
    Spells (writeOrdered e tags) (.object (fieldsJson (fields e tags))) := by
  have hfields : ∀ f ∈ fields e tags, Spells f.2.1 f.2.2 := by
    intro f hf
    rcases List.mem_append.mp hf with hf | hf
    · simp only [List.mem_cons, List.not_mem_nil, or_false] at hf
      rcases hf with rfl | rfl | rfl
      · exact spells_quote e.kind.name
      · exact spells_writeId e.id
      · exact spells_writeTags tags
    · obtain ⟨s, -, rfl⟩ := Option.map_eq_some_iff.mp (Option.mem_toList.mp hf)
      exact spells_quote s.toText
  have hwrite : writeOrdered e tags =
      writeObject ((fields e tags).map fun f ↦ writeMember f.1 f.2.1) := by
    rw [writeOrdered, fields, List.map_append]
    cases e.stamp <;> rfl
  rw [hwrite]
  exact spells_writeObject hfields

theorem ofParts?_eq {kind id tags : Json} {stamp : Option Json} {e : Element}
    (hkind : kindOf? kind = some e.kind) (hid : idOf? id = some e.id)
    (htags : tagsOf? tags = some e.tags)
    (hstamp : (stamp.map stampOf?).getD (some none) = some e.stamp) :
    ofParts? kind id (some tags) stamp = some e := by
  rw [ofParts?, hkind, hid, Option.map_some, Option.getD_some, htags, hstamp]
  rfl

/-- Each member of a record is found by its name. -/
theorem member?_eq (kind id tags : Json) (stamp : Option Json) :
    let members := [("type", kind), ("id", id), ("tags", tags)] ++
      (stamp.map ("timestamp", ·)).toList
    namesOnce fieldNames members = true ∧ member? members "type" = some kind ∧
      member? members "id" = some id ∧ member? members "tags" = some tags ∧
      member? members "timestamp" = stamp := by
  cases stamp <;> exact ⟨rfl, rfl, rfl, rfl, rfl⟩

/-- The stamp of an element as a value. -/
def stampJson (e : Element) : Option Json := e.stamp.map fun s ↦ .string (encode s.toText.toList)

theorem stampOf?_stampJson {e : Element} (h : e.stamp.all Stamp.isWritable = true) :
    ((stampJson e).map stampOf?).getD (some none) = some e.stamp := by
  rw [stampJson]
  cases hs : e.stamp with
  | none => rfl
  | some s =>
    rw [hs, Option.all_some] at h
    rw [Option.map_some, Option.map_some, Option.getD_some, stampOf?_toText h]

/-- The members of a written record. -/
theorem map_fields (e : Element) (tags : List (String × String)) :
    (fields e tags).map (fun f ↦ (f.1, f.2.2)) =
      [("type", .string (encode e.kind.name.toList)), ("id", .number (writeId e.id)),
        ("tags", .object (fieldsJson (tagFields tags)))] ++
      ((stampJson e).map ("timestamp", ·)).toList := by
  rw [fields, List.map_append, stampJson]
  cases e.stamp <;> rfl

/-- The members of a written record give the element back. -/
theorem ofJson?_fields {e : Element} {tags : List (String × String)}
    (hstamp : e.stamp.all Stamp.isWritable = true) (htags : tags.Perm e.tags.entries) :
    ofJson? (.object (fieldsJson (fields e tags))) = some e := by
  have hparts := ofParts?_eq (kindOf?_name e.kind) (idOf?_writeId e.id)
    (tagsOf?_tagFields htags) (stampOf?_stampJson hstamp)
  obtain ⟨hnames, hkind, hid, htags, hstamp⟩ := member?_eq (.string (encode e.kind.name.toList))
    (.number (writeId e.id)) (.object (fieldsJson (tagFields tags))) (stampJson e)
  rw [ofJson?, namedMembers?_fieldsJson, Option.bind_eq_bind, Option.bind_some, map_fields,
    if_pos hnames, hkind, hid, htags, hstamp]
  exact hparts

/-! ## Lines -/

/-- A text without control characters, and so without line breaks. -/
def IsPrintable (cs : List Char) : Prop := ∀ c ∈ cs, 0x20 ≤ c.toNat

theorem isPrintable_append {cs ds : List Char} (hcs : IsPrintable cs) (hds : IsPrintable ds) :
    IsPrintable (cs ++ ds) := by
  intro c hc
  rcases List.mem_append.mp hc with hc | hc
  · exact hcs c hc
  · exact hds c hc

theorem isPrintable_cons {c : Char} {cs : List Char} (hc : 0x20 ≤ c.toNat) (hcs : IsPrintable cs) :
    IsPrintable (c :: cs) := by
  intro d hd
  rcases List.mem_cons.mp hd with rfl | hd
  · exact hc
  · exact hcs d hd

theorem isPrintable_nil : IsPrintable [] := fun _ h ↦ absurd h List.not_mem_nil

theorem isPrintable_quote (s : String) : IsPrintable (quote s) :=
  isPrintable_append (isPrintable_cons (by decide) fun _ ↦ toNat_of_mem_encode)
    (isPrintable_cons (by decide) isPrintable_nil)

theorem isPrintable_writeMember (name : String) {value : List Char} (h : IsPrintable value) :
    IsPrintable (writeMember name value) :=
  isPrintable_append (isPrintable_quote name) (isPrintable_cons (by decide) h)

theorem isPrintable_writeObject {members : List (List Char)} (h : ∀ m ∈ members, IsPrintable m) :
    IsPrintable (writeObject members) := by
  have hmembers : IsPrintable (List.intercalate [','] members) := by
    induction members with
    | nil => exact isPrintable_nil
    | cons m members ih =>
      have hm := h m List.mem_cons_self
      cases members with
      | nil =>
        rw [List.intercalate_singleton]
        exact hm
      | cons m' members =>
        have hrest := ih fun m hm ↦ h m (List.mem_cons_of_mem _ hm)
        rw [List.intercalate_cons_cons]
        exact isPrintable_append
          (isPrintable_append hm (isPrintable_cons (by decide) isPrintable_nil)) hrest
  exact isPrintable_append (isPrintable_cons (by decide) hmembers)
    (isPrintable_cons (by decide) isPrintable_nil)

theorem isPrintable_writeId (id : Int64) : IsPrintable (writeId id) := by
  refine isPrintable_append ?_ fun c hc ↦ ?_
  · split
    · exact isPrintable_cons (by decide) isPrintable_nil
    · exact isPrintable_nil
  · exact Nat.le_trans (by decide) (Text.isDigit_iff.mp (Text.isDigit_of_mem_toDigits hc)).1

theorem isPrintable_writeTags (tags : List (String × String)) : IsPrintable (writeTags tags) := by
  refine isPrintable_writeObject fun m hm ↦ ?_
  obtain ⟨⟨key, value⟩, -, rfl⟩ := List.mem_map.mp hm
  exact isPrintable_writeMember key (isPrintable_quote value)

theorem isPrintable_writeOrdered (e : Element) (tags : List (String × String)) :
    IsPrintable (writeOrdered e tags) := by
  refine isPrintable_writeObject fun m hm ↦ ?_
  rcases List.mem_append.mp hm with hm | hm
  · simp only [List.mem_cons, List.not_mem_nil, or_false] at hm
    rcases hm with rfl | rfl | rfl
    · exact isPrintable_writeMember _ (isPrintable_quote _)
    · exact isPrintable_writeMember _ (isPrintable_writeId _)
    · exact isPrintable_writeMember _ (isPrintable_writeTags _)
  · obtain ⟨s, -, rfl⟩ := Option.map_eq_some_iff.mp (Option.mem_toList.mp hm)
    exact isPrintable_writeMember _ (isPrintable_quote _)

/-- **Writing and reading an element are inverse.** Every element whose stamp, if it has one, is of
no year before 0 is put out as one line, in whatever order its tags are written. No line break
stands in the line, so that it is one line of every text in which it is followed by others; and the
line, with its end or without, is read as the very element, which has the same kind, identifier and
tags, and the same stamp on the same clock or none as before. -/
theorem ofLine?_emitted {e : Element} {tags : List (String × String)}
    (hstamp : ∀ s ∈ e.stamp, 0 ≤ s.date.year) (htags : tags.Perm e.tags.entries) :
    ∃ line, emit? e tags = some (line ++ ['\n']) ∧ '\n' ∉ line ∧ '\r' ∉ line ∧
      (∀ rest, Text.lines (line ++ '\n' :: rest) = line :: Text.lines rest) ∧
      ofLine? line = some e ∧ ofLine? (line ++ ['\n']) = some e := by
  have hwritable : e.stamp.all Stamp.isWritable = true := by
    rw [Option.all_eq_true]
    intro s hs
    exact decide_eq_true (hstamp s hs)
  have hprintable := isPrintable_writeOrdered e tags
  have hfeed : '\n' ∉ writeOrdered e tags := fun h ↦ absurd (hprintable _ h) (by decide)
  have hreturn : '\r' ∉ writeOrdered e tags := fun h ↦ absurd (hprintable _ h) (by decide)
  have hread : ∀ blanks, (∀ c ∈ blanks, isBlank c = true) →
      ofLine? (writeOrdered e tags ++ blanks) = some e := by
    intro blanks hblanks
    rw [ofLine?, ofChars?_of_spells (spells_writeOrdered e tags) hblanks, Option.bind_some,
      ofJson?_fields hwritable htags]
  refine ⟨writeOrdered e tags, if_pos hwritable, hfeed, hreturn, fun rest ↦ ?_, ?_, ?_⟩
  · have hchop : Text.chopReturn (writeOrdered e tags) = writeOrdered e tags :=
      if_neg fun h ↦ hreturn (List.mem_of_getLast? h)
    rw [Text.lines_cons hfeed, hchop]
  · have hline := hread [] nofun
    rw [List.append_nil] at hline
    exact hline
  · refine hread ['\n'] fun c hc ↦ ?_
    rw [List.mem_singleton.mp hc]
    rfl

/-- The last day of February in the year 0, on a clock half an hour behind universal time, with
tags that hold quotes, backslashes and control characters. -/
theorem ofLine?_emitted_awkward :
    let stamp : Stamp := ⟨⟨0, 2, 29, by decide⟩, 23, 59, 59, 250000000, -30, by decide⟩
    let e : Element := ⟨.relation, Int64.minValue,
      .ofList [("", "\r\n"), ("naïve \"key\"", "\\u0041\x00"), ("😀", "\x7f")], some stamp⟩
    ∃ line, emit? e e.tags.entries.reverse = some (line ++ ['\n']) ∧ '\n' ∉ line ∧
      ofLine? line = some e := by
  intro stamp e
  have hstamp : ∀ s ∈ e.stamp, 0 ≤ s.date.year := by
    rintro _ ⟨⟩
    decide
  obtain ⟨line, hemit, hfeed, -, -, hread, -⟩ :=
    ofLine?_emitted hstamp (List.reverse_perm e.tags.entries)
  exact ⟨line, hemit, hfeed, hread⟩

/-! ## What can be read can be written -/

theorem isWritable_of_stampOf? {value : Json} {stamp : Option Stamp}
    (h : stampOf? value = some stamp) : stamp.all Stamp.isWritable = true := by
  rw [stampOf?.eq_def] at h
  split at h
  · cases h
    rfl
  · obtain ⟨s, hs, rfl⟩ := Option.map_eq_some_iff.mp h
    obtain ⟨text, -, hread⟩ := Option.bind_eq_some_iff.mp hs
    exact Stamp.isWritable_of_ofChars? hread

theorem isWritable_of_ofParts? {kind id : Json} {tags stamp : Option Json} {e : Element}
    (h : ofParts? kind id tags stamp = some e) : e.stamp.all Stamp.isWritable = true := by
  simp only [ofParts?, Option.bind_eq_bind, Option.bind_eq_some_iff] at h
  obtain ⟨_, -, _, -, _, -, read, hread, ⟨⟩⟩ := h
  cases stamp with
  | none =>
    cases hread
    rfl
  | some value => exact isWritable_of_stampOf? hread

/-- **Whatever is read can be written**, in whatever order the tags are put. -/
theorem isWritable_of_ofJson? {value : Json} {e : Element} (h : ofJson? value = some e) :
    e.stamp.all Stamp.isWritable = true := by
  rw [ofJson?.eq_def] at h
  split at h
  · simp only [Option.bind_eq_bind, Option.bind_eq_some_iff] at h
    obtain ⟨members, -, h⟩ := h
    split at h
    · obtain ⟨kind, -, h⟩ := Option.bind_eq_some_iff.mp h
      obtain ⟨id, -, h⟩ := Option.bind_eq_some_iff.mp h
      exact isWritable_of_ofParts? h
    · cases h
  · exact isWritable_of_ofParts? h
  · exact isWritable_of_ofParts? h
  · exact isWritable_of_ofParts? h
  · cases h

theorem isWritable_of_ofLine? {line : List Char} {e : Element} (h : ofLine? line = some e) :
    e.stamp.all Stamp.isWritable = true := by
  obtain ⟨value, -, hvalue⟩ := Option.bind_eq_some_iff.mp h
  exact isWritable_of_ofJson? hvalue

/-! ## What is written is read -/

theorem ofLine?_writeOrdered {e : Element} {tags : List (String × String)}
    (hstamp : e.stamp.all Stamp.isWritable = true) (htags : tags.Perm e.tags.entries) :
    ofLine? (writeOrdered e tags) = some e := by
  have hread : ofChars? (writeOrdered e tags ++ []) = _ :=
    ofChars?_of_spells (spells_writeOrdered e tags) nofun
  rw [List.append_nil] at hread
  rw [ofLine?, hread, Option.bind_some, ofJson?_fields hstamp htags]

/-- A record is one line of a text in which it is followed by others. -/
theorem lines_writeOrdered (e : Element) (tags : List (String × String)) (rest : List Char) :
    Text.lines (writeOrdered e tags ++ '\n' :: rest) = writeOrdered e tags :: Text.lines rest := by
  have hprintable := isPrintable_writeOrdered e tags
  have hfeed : '\n' ∉ writeOrdered e tags := fun h ↦ absurd (hprintable _ h) (by decide)
  have hreturn : '\r' ∉ writeOrdered e tags := fun h ↦ absurd (hprintable _ h) (by decide)
  rw [Text.lines_cons hfeed, Text.chopReturn, if_neg fun h ↦ hreturn (List.mem_of_getLast? h)]

end TagQuery.Record
