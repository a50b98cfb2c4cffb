import Mathlib.Data.List.Forall2
import TagQuery.Proofs.Element.Record
import TagQuery.Proofs.Run.Pipeline

/-!
# Matching what has been matched

A run puts out records that a second run of the same filter reads and writes again, all of them and
nothing else (`run_idempotent`). Three facts meet here. Whatever is read can be written: a stamp may
be read from many forms, with small letters, long fractions, leap seconds and offsets of minus zero,
but it is kept as the date and time on its clock, and these have a written form. The written form is
read back as the same element, on the same clock, so that no date can decide differently. And each
written element is a line of its own, neither blank nor faulty, so that the second run reads the
elements that the first one wrote and nothing else (`AreEmitted.areRecords`). The filter has
accepted them before.
-/

namespace TagQuery

/-- Trimming leaves something of a text that does not begin with a blank. -/
theorem Text.trim_cons_ne_nil {c : Char} (hc : isBlank c = false) (cs : List Char) :
    trim (c :: cs) ≠ [] := by
  intro h
  have hstart : trimStart (c :: cs) = c :: cs := List.dropWhile_cons_of_neg (by simp [hc])
  rw [trim, hstart, trimEnd, List.reverse_eq_nil_iff, trimStart, List.dropWhile_eq_nil_iff] at h
  have hblank := h c (List.mem_reverse.mpr List.mem_cons_self)
  rw [hc] at hblank
  cases hblank

namespace Pipeline

/-! ## Lines that are all records -/

/-- Whether lines are records of some elements, one for each. -/
def AreRecords (lines : List (List Char)) (elements : List Element) : Prop :=
  List.Forall₂ (fun line e ↦ Reader.isBlank line = false ∧ Record.ofLine? line = some e)
    lines elements

namespace AreRecords

variable {lines : List (List Char)} {elements : List Element}

theorem counted_eq (h : AreRecords lines elements) : counted lines = lines := by
  induction h with
  | nil => rfl
  | cons hline _ ih =>
    rw [counted, List.filter_cons, hline.1]
    exact congrArg (_ :: ·) ih

theorem decoded_eq (h : AreRecords lines elements) : decoded lines = elements := by
  rw [decoded, h.counted_eq]
  induction h with
  | nil => rfl
  | cons hline _ ih => rw [List.filterMap_cons, hline.2, ih]

theorem isFaulty_eq_false (h : AreRecords lines elements) {line : List Char}
    (hline : line ∈ lines) : isFaulty line = false := by
  induction h with
  | nil => cases hline
  | cons hhead _ ih =>
    rcases List.mem_cons.mp hline with rfl | hline
    · rw [isFaulty, hhead.1, hhead.2]
      rfl
    · exact ih hline

theorem faultyNumbers_eq (h : AreRecords lines elements) : faultyNumbers lines = [] := by
  rw [faultyNumbers, List.map_eq_nil_iff, List.filter_eq_nil_iff]
  intro numbered hmem
  rw [h.isFaulty_eq_false (List.fst_mem_of_mem_zipIdx hmem)]
  exact Bool.false_ne_true

/-- A run over a text of records counts all of them and skips nothing. -/
theorem lineFilter_eq (accepts : Element → Bool) {text : String}
    (h : AreRecords (Text.lines text.toList) elements) (hall : ∀ e ∈ elements, accepts e = true) :
    (lineFilter accepts text).written = elements ∧
      (lineFilter accepts text).summary = ⟨elements.length, 0, elements.length⟩ ∧
      (lineFilter accepts text).skippedLines = [] := by
  have hwritten : (decoded (Text.lines text.toList)).filter accepts = elements := by
    rw [h.decoded_eq, List.filter_eq_self]
    exact hall
  have hskipped : (Text.lines text.toList).countP isFaulty = 0 := by
    rw [List.countP_eq_zero]
    intro line hline
    rw [h.isFaulty_eq_false hline]
    exact Bool.false_ne_true
  refine ⟨hwritten, ?_, h.faultyNumbers_eq⟩
  rw [lineFilter, h.counted_eq, hwritten, hskipped, h.length_eq]

end AreRecords

/-! ## Written records -/

/-- Whether texts are what is put out for some elements, one for each, with the tags of each element
in some order. -/
def AreEmitted (elements : List Element) (texts : List (List Char)) : Prop :=
  List.Forall₂ (fun e text ↦ ∃ tags, tags.Perm e.tags.entries ∧ Record.emit? e tags = some text)
    elements texts

/-- What is put out is a text of records. -/
theorem AreEmitted.areRecords {elements : List Element} {texts : List (List Char)}
    (h : AreEmitted elements texts) : AreRecords (Text.lines texts.flatten) elements := by
  induction h with
  | nil => exact .nil
  | cons hemit _ ih =>
    obtain ⟨tags, htags, hemit⟩ := hemit
    rw [Record.emit?] at hemit
    split at hemit
    · next hstamp =>
      cases hemit
      rw [List.flatten_cons, List.append_assoc, List.singleton_append, Record.lines_writeOrdered]
      refine .cons ⟨?_, Record.ofLine?_writeOrdered hstamp htags⟩ ih
      exact List.isEmpty_eq_false_iff.mpr (Text.trim_cons_ne_nil rfl _)
    · cases hemit

/-- Of what a run writes, every element was read from a line. -/
theorem exists_ofLine?_of_mem_written {accepts : Element → Bool} {text : String} {e : Element}
    (h : e ∈ (lineFilter accepts text).written) :
    accepts e = true ∧ ∃ line, Record.ofLine? line = some e := by
  obtain ⟨hdecoded, haccepts⟩ := List.mem_filter.mp h
  obtain ⟨line, -, hline⟩ := List.mem_filterMap.mp hdecoded
  exact ⟨haccepts, line, hline⟩

theorem emit?_eq {line : List Char} {e : Element} (h : Record.ofLine? line = some e)
    (tags : List (String × String)) :
    Record.emit? e tags = some (Record.writeOrdered e tags ++ ['\n']) :=
  if_pos (Record.isWritable_of_ofLine? h)

/-- What is put out for the elements that a run writes, with the tags of each in some order. -/
theorem areEmitted_written (accepts : Element → Bool) (text : String)
    {order : Element → List (String × String)} (horder : ∀ e, (order e).Perm e.tags.entries) :
    AreEmitted (lineFilter accepts text).written <|
      (lineFilter accepts text).written.map fun e ↦ Record.writeOrdered e (order e) ++ ['\n'] := by
  rw [AreEmitted, List.forall₂_map_right_iff, List.forall₂_same]
  intro e he
  obtain ⟨-, line, hline⟩ := exists_ofLine?_of_mem_written he
  exact ⟨order e, horder e, emit?_eq hline _⟩

theorem shown_output (r : Result) : r.shown.output = r.written.map Record.writeLine := rfl

theorem shown_summary (r : Result) : r.shown.summary = some r.summary := rfl

theorem shown_skippedLines (r : Result) : r.shown.skippedLines = r.skippedLines := rfl

/-- The text of the lines that a run shows is what is put out. -/
theorem toList_join_shown (r : Result) :
    (String.join (r.shown.output.map (· ++ "\n"))).toList =
      (r.written.map fun e ↦ Record.write e ++ ['\n']).flatten := by
  rw [String.toList_join, List.flatMap_def, Result.shown, List.map_map, List.map_map]
  refine congrArg List.flatten (List.map_congr_left fun e _ ↦ ?_)
  rw [Function.comp_apply, Function.comp_apply, String.toList_append, Record.writeLine,
    String.toList_ofList]
  rfl

/-! ## Running again -/

/-- A run over what a run has put out. -/
theorem lineFilter_emitted (accepts : Element → Bool) (text : String) {texts : List (List Char)}
    (h : AreEmitted (lineFilter accepts text).written texts) {text' : String}
    (htext : text'.toList = texts.flatten) :
    let first := lineFilter accepts text
    let second := lineFilter accepts text'
    second.written = first.written ∧
      second.summary = ⟨first.written.length, 0, first.written.length⟩ ∧
      second.skippedLines = [] := by
  refine AreRecords.lineFilter_eq accepts ?_ fun e he ↦ (exists_ofLine?_of_mem_written he).1
  rw [htext]
  exact h.areRecords

/-- A run over the lines that a run has shown shows them again. -/
theorem shown_lineFilter_join (accepts : Element → Bool) (text : String) :
    let first := (lineFilter accepts text).shown
    let second := (lineFilter accepts (String.join (first.output.map (· ++ "\n")))).shown
    second.output = first.output ∧
      second.summary = some ⟨first.output.length, 0, first.output.length⟩ ∧
      second.skippedLines = [] := by
  have hsecond := lineFilter_emitted accepts text
    (areEmitted_written accepts text fun e ↦ .refl e.tags.entries)
    (toList_join_shown (lineFilter accepts text))
  dsimp only at hsecond
  obtain ⟨hwritten, hsummary, hskipped⟩ := hsecond
  refine ⟨?_, ?_, ?_⟩
  · rw [shown_output, hwritten, shown_output]
  · rw [shown_summary, hsummary, shown_output, List.length_map]
  · rw [shown_skippedLines, hskipped]

/-- **Matching what has been matched changes nothing.** Every element that is read, from whatever
line, can be put out. Whatever sizes the batches of two runs have, and in whatever order the tags of
each written element are put out, the second run of the same filter for the same date and lifecycle
state skips no line of what the first one has put out, matches every line, and writes the same
elements again. Between the standard streams a run always succeeds if a batch can be held, and again
over its own output, which it shows once more. -/
theorem run_idempotent (f : Filter) (today : Date) (lifecycle : Option String) (text : String) :
    let accepts : Element → Bool := f.acceptsEither today lifecycle
    (∀ line e, Record.ofLine? line = some e → ∀ tags, (Record.emit? e tags).isSome = true) ∧
    (∀ size size' reader reader', Reader.start? size = some reader →
      Reader.start? size' = some reader' →
      let first := run accepts reader text
      (∀ e ∈ first.written, ∀ tags, (Record.emit? e tags).isSome = true) ∧
      ∀ texts, AreEmitted first.written texts →
        let second := run accepts reader' (.ofList texts.flatten)
        second.written = first.written ∧
          second.summary = ⟨first.written.length, 0, first.written.length⟩ ∧
          second.skippedLines = []) ∧
    ∀ {m : Type → Type} [Monad m] [LawfulMonad m] (files : FileAccess m)
      (arguments : MatchArguments), arguments.lifecycle = lifecycle →
      Program.isStream arguments.input = true → Program.isStream arguments.output = true →
      arguments.batchSize ≤ maxBatchSize → ∃ first second : Outcome,
        Program.pipe files (pure (some text)) arguments today f = pure first ∧
        Program.pipe files (pure (some (String.join (first.output.map (· ++ "\n"))))) arguments
          today f = pure second ∧
        first.failure = none ∧ second.failure = none ∧ second.output = first.output ∧
        second.summary = some ⟨first.output.length, 0, first.output.length⟩ ∧
        second.skippedLines = [] := by
  intro accepts
  have hemit : ∀ line e, Record.ofLine? line = some e → ∀ tags,
      (Record.emit? e tags).isSome = true := by
    intro line e hline tags
    rw [emit?_eq hline tags]
    rfl
  refine ⟨hemit, fun size size' reader reader' hreader hreader' ↦ ?_, ?_⟩
  · have hrun : ∀ {size reader}, Reader.start? size = some reader → ∀ text,
        run accepts reader text = lineFilter accepts text := by
      intro size reader hreader text
      have heq := map_start?_eq accepts size text
      rw [hreader] at heq
      split at heq
      · exact Option.some.inj heq
      · cases heq
    rw [hrun hreader]
    refine ⟨fun e he ↦ ?_, fun texts htexts ↦ ?_⟩
    · obtain ⟨-, line, hline⟩ := exists_ofLine?_of_mem_written he
      exact hemit line e hline
    · rw [hrun hreader']
      exact lineFilter_emitted accepts text htexts (String.toList_ofList)
  · rintro m _ _ files arguments rfl hin hout hsize
    have hpipe : ∀ text, Program.pipe files (pure (some text)) arguments today f =
        pure (lineFilter accepts text).shown := by
      intro text
      rw [pipe_eq files arguments hin hout, if_pos hsize]
    exact ⟨_, _, hpipe text, hpipe _, rfl, rfl, shown_lineFilter_join accepts text⟩

/-- A leap second with small letters, a fraction of ten digits and an offset of minus zero are
normalised by the first run, and then stay as they are. The tags are put out in descending order,
and the batches of the second run are larger. -/
theorem run_idempotent_awkward :
    let f : Filter := ⟨"nodes, ways with older 2017-06-01", ⟨true, true, false⟩,
      some (.leaf (.aged .older (.absolute ⟨2017, 6, 1, by decide⟩))), .standard⟩
    let text := "\x7b\"type\":\"node\",\"id\":1,\"timestamp\":\"2016-12-31t23:59:60z\"\x7d\n" ++
      "bad\n[\"way\",2,\x7b\"b\":\"1\",\"a\":\"\\u00e9\"\x7d," ++
      "\"2017-01-01T00:30:00.1234567899-00:00\"]\n\n" ++
      "\x7b\"id\":3,\"type\":\"node\",\"timestamp\":\"2017-06-01T00:00:00+01:00\"\x7d"
    let arguments : MatchArguments := ⟨.inline f.source none, "-", "-", none, none, 2⟩
    ∃ reader reader' texts first second, Reader.start? 1 = some reader ∧
      Reader.start? 3 = some reader' ∧
      (run (f.acceptsEither .first none) reader text).summary = ⟨4, 1, 2⟩ ∧
      AreEmitted (run (f.acceptsEither .first none) reader text).written texts ∧
      (run (f.acceptsEither .first none) reader' (.ofList texts.flatten)).summary = ⟨2, 0, 2⟩ ∧
      Program.pipe Directory.access (pure (some text)) arguments .first f = pure first ∧
      Program.pipe Directory.access (pure (some (String.join (first.output.map (· ++ "\n")))))
        arguments .first f = pure second ∧
      second.output = first.output := by
  intro f text arguments
  obtain ⟨-, hruns, hpipe⟩ := run_idempotent f .first none text
  obtain ⟨first, second, hfirst, hsecond, -, -, houtput, -⟩ :=
    hpipe Directory.access arguments rfl (by decide) (by decide) (by decide)
  let reader : Reader := ⟨1, 0, 0, #[], #[], #[]⟩
  let reader' : Reader := ⟨3, 0, 0, #[], #[], #[]⟩
  obtain ⟨-, hagain⟩ := hruns 1 3 reader reader' (by rw [Reader.start?_eq]; rfl)
    (by rw [Reader.start?_eq]; rfl)
  have hemitted := areEmitted_written (f.acceptsEither .first none) text
    fun e ↦ List.reverse_perm e.tags.entries
  rw [← run_eq _ (Reader.hasRead_nil 1)] at hemitted
  obtain ⟨-, hsummary, -⟩ := hagain _ hemitted
  have hcounts : (run (f.acceptsEither .first none) reader text).summary = ⟨4, 1, 2⟩ ∧
      (run (f.acceptsEither .first none) reader text).written.length = 2 := by
    decide +kernel
  rw [hcounts.2] at hsummary
  exact ⟨reader, reader', _, first, second, by rw [Reader.start?_eq]; rfl,
    by rw [Reader.start?_eq]; rfl, hcounts.1, hemitted, hsummary, hfirst, hsecond, houtput⟩

end Pipeline

end TagQuery
