import TagQuery.Proofs.Element.Lifecycle
import TagQuery.Run.Program

/-!
# Runs without batches

A run over a text of records has the result of a plain filter over its lines: read the lines that
are not blank, drop those that are no records, and write the elements that the filter accepts
(`run_eq_lineFilter`). That is so for every size of batches that can be held at all, and larger
sizes give no result.

## What the reader keeps

At any time the reader has some elements in batches that it has handed on, and some in the batch
that it is filling. Handing on moves elements from one place to the other, so the two together,
one after the other, are not changed by it. They are what the reader has `collected`, and after
any number of lines this is what these lines write (`HasRead`). Where batches begin and end is not
part of the invariant at all, and so has no influence on what the writer gets.
-/

namespace TagQuery.Pipeline

/-! ## The plain filter -/

/-- The lines that count. -/
def counted (lines : List (List Char)) : List (List Char) := lines.filter (!Reader.isBlank ·)

/-- Whether a line counts, but is no record. -/
def isFaulty (line : List Char) : Bool := !Reader.isBlank line && (Record.ofLine? line).isNone

/-- The elements that lines write. -/
def decoded (lines : List (List Char)) : List Element := (counted lines).filterMap Record.ofLine?

/-- The numbers of the lines that count, but are no records. -/
def faultyNumbers (lines : List (List Char)) : List Nat :=
  ((lines.zipIdx 1).filter (isFaulty ·.1)).map (·.2)

/-- The result of going through a text line by line. -/
def lineFilter (accepts : Element → Bool) (text : String) : Result :=
  let lines := Text.lines text.toList
  let written := (decoded lines).filter accepts
  { written := written
    summary := ⟨(counted lines).length, lines.countP isFaulty, written.length⟩
    skippedLines := faultyNumbers lines
    progress := (Progress.new progressInterval).advance (.ofNat (decoded lines).length) }

theorem counted_concat (lines : List (List Char)) (line : List Char) :
    counted (lines ++ [line]) =
      counted lines ++ if Reader.isBlank line then [] else [line] := by
  rw [counted, List.filter_append, List.filter_cons]
  cases Reader.isBlank line <;> rfl

theorem decoded_concat (lines : List (List Char)) (line : List Char) :
    decoded (lines ++ [line]) =
      decoded lines ++ if Reader.isBlank line then [] else (Record.ofLine? line).toList := by
  rw [decoded, counted_concat, List.filterMap_append]
  split
  · rfl
  · rw [List.filterMap_cons]
    cases Record.ofLine? line <;> rfl

theorem faultyNumbers_concat (lines : List (List Char)) (line : List Char) :
    faultyNumbers (lines ++ [line]) =
      faultyNumbers lines ++ if isFaulty line then [lines.length + 1] else [] := by
  rw [faultyNumbers, List.zipIdx_append, List.filter_append, List.map_append, List.zipIdx_singleton,
    List.filter_cons, Nat.add_comm 1]
  cases isFaulty line <;> rfl

/-- A line that counts is a record or faulty. -/
theorem length_decoded_add_faulty (lines : List (List Char)) :
    (decoded lines).length + lines.countP isFaulty = (counted lines).length := by
  have hfaulty : lines.countP isFaulty =
      (counted lines).countP fun line ↦ ¬ (Record.ofLine? line).isSome := by
    rw [counted, List.countP_filter]
    refine List.countP_congr fun line _ ↦ ?_
    rw [isFaulty, Bool.and_comm]
    cases Record.ofLine? line <;> rfl
  rw [decoded, List.length_filterMap_eq_countP, hfaulty]
  exact (List.length_eq_countP_add_countP _).symm

/-! ## Reading -/

namespace Reader

/-- The elements that a reader has taken, handed on or not. -/
def collected (r : Reader) : List Element := r.sent.toList.flatten ++ r.batch.toList

theorem collected_send (r : Reader) : r.send.collected = r.collected := by
  simp [send, collected]

theorem collected_push (r : Reader) (e : Element) : (r.push e).collected = r.collected ++ [e] := by
  have htaken : { r with batch := r.batch.push e }.collected = r.collected ++ [e] := by
    simp [collected]
  rw [push]
  split
  · rw [collected_send, htaken]
  · exact htaken

/-- Taking an element counts no line. -/
theorem counts_push (r : Reader) (e : Element) :
    (r.push e).read = r.read ∧ (r.push e).skipped = r.skipped ∧
      (r.push e).skippedLines = r.skippedLines := by
  rw [push]
  split <;> exact ⟨rfl, rfl, rfl⟩

/-- Whether a reader has read some lines: it has counted them and collected what they write. -/
structure HasRead (r : Reader) (lines : List (List Char)) : Prop where
  read : r.read = (counted lines).length
  skipped : r.skipped = lines.countP isFaulty
  skippedLines : r.skippedLines.toList = faultyNumbers lines
  collected : r.collected = decoded lines

theorem hasRead_nil (size : Nat) : HasRead ⟨size, 0, 0, #[], #[], #[]⟩ [] := ⟨rfl, rfl, rfl, rfl⟩

section Step

variable {r : Reader} {lines : List (List Char)} {line : List Char}

theorem HasRead.concat_blank (h : r.HasRead lines) (hblank : isBlank line = true) :
    r.HasRead (lines ++ [line]) := by
  have hfaulty : ¬ isFaulty line = true := by rw [isFaulty, hblank]; exact nofun
  constructor
  · rw [h.read, counted_concat, if_pos hblank, List.append_nil]
  · rw [h.skipped, List.countP_append, List.countP_singleton, if_neg hfaulty, Nat.add_zero]
  · rw [h.skippedLines, faultyNumbers_concat, if_neg hfaulty, List.append_nil]
  · rw [h.collected, decoded_concat, if_pos hblank, List.append_nil]

/-- A line that counts is counted. -/
theorem HasRead.length_counted (h : r.HasRead lines) (hblank : ¬ isBlank line = true) :
    (counted (lines ++ [line])).length = r.read + 1 := by
  rw [counted_concat, if_neg hblank, List.length_append, h.read, List.length_singleton]

theorem HasRead.push (h : r.HasRead lines) (hblank : ¬ isBlank line = true) {e : Element}
    (he : Record.ofLine? line = some e) :
    ({ r with read := r.read + 1 }.push e).HasRead (lines ++ [line]) := by
  have hfaulty : ¬ isFaulty line = true := by
    rw [isFaulty, he, Option.isNone_some, Bool.and_false]
    exact nofun
  obtain ⟨hread, hskipped, hnumbers⟩ := counts_push { r with read := r.read + 1 } e
  constructor
  · rw [hread, h.length_counted hblank]
  · rw [hskipped, h.skipped, List.countP_append, List.countP_singleton, if_neg hfaulty,
      Nat.add_zero]
  · rw [hnumbers, h.skippedLines, faultyNumbers_concat, if_neg hfaulty, List.append_nil]
  · -- whether the element filled the batch is not seen from here
    rw [collected_push, decoded_concat, if_neg hblank, he, ← h.collected]
    rfl

theorem HasRead.skip (h : r.HasRead lines) (hblank : ¬ isBlank line = true)
    (he : Record.ofLine? line = none) :
    ({ r with read := r.read + 1 }.skip lines.length).HasRead (lines ++ [line]) := by
  have hfaulty : isFaulty line = true := by
    rw [isFaulty, he, Option.isNone_none, Bool.and_true, Bool.not_eq_true']
    exact Bool.eq_false_iff.mpr hblank
  constructor
  · exact (h.length_counted hblank).symm
  · rw [List.countP_append, List.countP_singleton, if_pos hfaulty, ← h.skipped]
    rfl
  · rw [faultyNumbers_concat, if_pos hfaulty, ← h.skippedLines]
    exact Array.toList_push
  · rw [decoded_concat, if_neg hblank, he, ← h.collected]
    exact (List.append_nil _).symm

/-- **Reading a line keeps the invariant.** -/
theorem HasRead.next (h : r.HasRead lines) (line : List Char) :
    (r.next line lines.length).HasRead (lines ++ [line]) := by
  rw [Reader.next]
  split
  · next hblank => exact h.concat_blank hblank
  · next hblank =>
    dsimp only
    split
    · next e he => exact h.push hblank he
    · next he => exact h.skip hblank he

end Step

theorem HasRead.readLines {r : Reader} {before : List (List Char)} (h : r.HasRead before)
    (lines : List (List Char)) : (r.readLines before.length lines).HasRead (before ++ lines) := by
  induction lines generalizing r before with
  | nil => rwa [List.append_nil]
  | cons line lines ih =>
    have hnext := ih (h.next line)
    rwa [List.length_append, List.length_singleton, List.append_assoc] at hnext

/-- At the end nothing is left that was not handed on. -/
theorem HasRead.finish {r : Reader} {lines : List (List Char)} (h : r.HasRead lines) :
    r.finish.HasRead lines ∧ r.finish.sent.toList.flatten = decoded lines := by
  -- an empty batch is not handed on, but then nothing is left either
  have hsent : r.finish.HasRead lines ∧ r.finish.batch = #[] := by
    rw [Reader.finish]
    split
    · next hempty => exact ⟨h, Array.isEmpty_iff.mp hempty⟩
    · next hrest =>
      refine ⟨⟨h.read, h.skipped, h.skippedLines, ?_⟩, rfl⟩
      rw [collected_send, h.collected]
  obtain ⟨hread, hempty⟩ := hsent
  refine ⟨hread, ?_⟩
  rw [← hread.collected, Reader.collected, hempty, List.append_nil]

/-- A reader has room for its batches just if the largest one has room for as many elements. -/
theorem start?_eq (batchSize : Nat) :
    start? batchSize =
      if batchSize ≤ maxBatchSize then some ⟨max batchSize 1, 0, 0, #[], #[], #[]⟩ else none := by
  have hpos : 1 ≤ maxBatchSize := by decide
  simp only [start?, Nat.max_le, hpos, and_true]

end Reader

/-! ## Writing -/

namespace Writer

variable {accepts : Element → Bool}

/-- Whether a writer has gone through some elements. -/
structure HasWritten (accepts : Element → Bool) (w : Writer) (elements : List Element) : Prop where
  written : w.written.toList = elements.filter accepts
  matched : w.matched = (elements.filter accepts).length
  progress : w.progress = (Progress.new progressInterval).advance (.ofNat elements.length)

theorem hasWritten_start (accepts : Element → Bool) : HasWritten accepts .start [] :=
  ⟨rfl, rfl, rfl⟩

/-- Elements and answers side by side lead to the elements with a positive answer. -/
theorem foldl_add (batch : List Element) (w : Writer) :
    (batch.zip (batch.map accepts)).foldl (fun w (e, hit) ↦ w.add e hit) w =
      { w with
        written := w.written ++ (batch.filter accepts).toArray
        matched := w.matched + (batch.filter accepts).length } := by
  induction batch generalizing w with
  | nil => simp
  | cons e batch ih =>
    rw [List.map_cons, List.zip_cons_cons, List.foldl_cons]
    dsimp only
    rw [ih, add, List.filter_cons]
    split
    · simp [Nat.add_comm, Nat.add_left_comm]
    · rfl

theorem HasWritten.take {w : Writer} {elements : List Element} (h : w.HasWritten accepts elements)
    (batch : List Element) : (w.take accepts batch).HasWritten accepts (elements ++ batch) := by
  obtain ⟨hwritten, hmatched, hprogress⟩ := h
  rw [Writer.take, foldl_add]
  constructor
  · rw [Array.toList_append, hwritten, List.filter_append]
  · rw [hmatched, List.filter_append, List.length_append]
  · rw [hprogress, Progress.advance_advance, List.length_append]

theorem HasWritten.foldl {w : Writer} {elements : List Element} (h : w.HasWritten accepts elements)
    (batches : List (List Element)) :
    (batches.foldl (Writer.take accepts) w).HasWritten accepts (elements ++ batches.flatten) := by
  induction batches generalizing w elements with
  | nil => rwa [List.flatten_nil, List.append_nil]
  | cons batch batches ih =>
    have hnext := ih (h.take batch)
    rwa [List.append_assoc] at hnext

end Writer

/-! ## Running -/

theorem run_eq (accepts : Element → Bool) {reader : Reader} (h : reader.HasRead [])
    (text : String) : run accepts reader text = lineFilter accepts text := by
  obtain ⟨hread, hsent⟩ := (h.readLines (Text.lines text.toList)).finish
  rw [List.nil_append, List.length_nil] at hread hsent
  have hwritten := (Writer.hasWritten_start accepts).foldl
    (reader.readLines 0 (Text.lines text.toList)).finish.sent.toList
  rw [List.nil_append, hsent, Array.foldl_toList] at hwritten
  obtain ⟨hwritten, hmatched, hprogress⟩ := hwritten
  rw [run, lineFilter, hwritten, hmatched, hprogress, hread.read, hread.skipped, hread.skippedLines]

theorem map_start?_eq (accepts : Element → Bool) (batchSize : Nat) (text : String) :
    (Reader.start? batchSize).map (run accepts · text) =
      if batchSize ≤ maxBatchSize then some (lineFilter accepts text) else none := by
  rw [Reader.start?_eq]
  split
  · rw [Option.map_some, run_eq accepts (Reader.hasRead_nil _)]
  · rfl

theorem matched_le (accepts : Element → Bool) (text : String) :
    (lineFilter accepts text).summary.matched ≤
      (lineFilter accepts text).summary.read - (lineFilter accepts text).summary.skipped := by
  have hcounted := length_decoded_add_faulty (Text.lines text.toList)
  have hwritten := List.length_filter_le accepts (decoded (Text.lines text.toList))
  rw [lineFilter]
  dsimp only
  omega

/-- What a run with some result shows on standard output and counts. -/
def Result.shown (r : Result) : Outcome :=
  ⟨r.written.map Record.writeLine, some r.summary, r.skippedLines, none⟩

/-- Between the standard streams a run does nothing but filter. -/
theorem pipe_eq {m : Type → Type} [Monad m] [LawfulMonad m] (files : FileAccess m)
    (arguments : MatchArguments) (hin : Program.isStream arguments.input = true)
    (hout : Program.isStream arguments.output = true) (f : Filter) (today : Date) (text : String) :
    Program.pipe files (pure (some text)) arguments today f =
      pure (if arguments.batchSize ≤ maxBatchSize then
        (lineFilter (f.acceptsEither today arguments.lifecycle) text).shown
      else .failed .batchTooLarge) := by
  rw [Program.pipe, hin, hout, Reader.start?_eq]
  by_cases hsize : arguments.batchSize ≤ maxBatchSize
  · simp [hsize, Program.finish, Result.shown, run_eq _ (Reader.hasRead_nil _)]
  · simp [hsize]

/-- **Whatever the size of its batches, a run filters its lines**, provided that the memory for a
batch can be addressed: otherwise there is no reader, and no result. An element is written if the
filter accepts it, or accepts what it would be outside the given lifecycle state, in which some key
has to show it. Memory that can be addressed is taken to be there; nothing is said of a run that is
stopped because it is not. -/
theorem run_eq_lineFilter (f : Filter) (today : Date) (lifecycle : Option String) (text : String) :
    let accepts : Element → Bool := f.acceptsEither today lifecycle
    (∀ batchSize, (Reader.start? batchSize).map (run accepts · text) =
      if batchSize ≤ maxBatchSize then some (lineFilter accepts text) else none) ∧
    (∀ e, accepts e = true ↔ f.accepts today e = true ∨
      ∃ prefixed, lifecycle = some prefixed ∧
        (∃ tag ∈ TagView.tags e, Lifecycle.IsMarked prefixed tag.1) ∧
        f.accepts today (LifecycleView.of prefixed e) = true) ∧
    (lineFilter accepts text).summary.matched ≤
      (lineFilter accepts text).summary.read - (lineFilter accepts text).summary.skipped ∧
    ∀ {m : Type → Type} [Monad m] [LawfulMonad m] (files : FileAccess m)
      (arguments : MatchArguments), arguments.lifecycle = lifecycle →
      Program.isStream arguments.input = true → Program.isStream arguments.output = true →
      Program.pipe files (pure (some text)) arguments today f =
        pure (if arguments.batchSize ≤ maxBatchSize then (lineFilter accepts text).shown
          else .failed .batchTooLarge) := by
  refine ⟨fun batchSize ↦ map_start?_eq _ batchSize text, f.acceptsEither_iff today lifecycle,
    matched_le _ text, ?_⟩
  rintro m _ _ files arguments rfl hin hout
  exact pipe_eq files arguments hin hout f today text

/-- Two records with a blank and a faulty line between them, in batches of no elements, and in
batches of two between the standard streams. -/
theorem run_eq_lineFilter_nodes :
    let f : Filter := ⟨"nodes", ⟨true, false, false⟩, none, .standard⟩
    let text := "\x7b\"type\":\"node\",\"id\":1\x7d\n \nbad\n\x7b\"type\":\"way\",\"id\":2\x7d"
    let arguments : MatchArguments := ⟨.inline "nodes" none, "-", "-", none, none, 2⟩
    let outcome := ((Program.pipe Directory.access (pure (some text)) arguments .first f).run
      ⟨.empty⟩).1
    ((Reader.start? 0).map (run (f.acceptsEither .first none) · text)).map
      (fun r ↦ (r.written.map (·.id), r.summary, r.skippedLines)) =
      some ([1], ⟨3, 1, 1⟩, [3]) ∧
    outcome.summary = some ⟨3, 1, 1⟩ ∧ outcome.skippedLines = [3] ∧ outcome.exitCode = 0 := by
  intro f text arguments outcome
  obtain ⟨hrun, -, -, hpipe⟩ := run_eq_lineFilter f .first none text
  have hsize : arguments.batchSize ≤ maxBatchSize := by decide
  have houtcome : outcome = (lineFilter (f.acceptsEither .first none) text).shown := by
    have haction := hpipe Directory.access arguments rfl (by decide) (by decide)
    rw [if_pos hsize] at haction
    exact congrArg (fun action ↦ (action.run ⟨.empty⟩).1) haction
  rw [hrun 0, houtcome]
  decide +kernel

/-- A run with the largest size of batches that can be given fails, although there is an element to
be written. -/
theorem pipe_ne_lineFilter :
    let f : Filter := ⟨"nodes", ⟨true, false, false⟩, none, .standard⟩
    let text := "\x7b\"type\":\"node\",\"id\":1\x7d\n"
    let arguments : MatchArguments := ⟨.inline "nodes" none, "-", "-", none, none, 18446744073709551615⟩
    let expected := lineFilter (f.acceptsEither .first none) text
    let outcome := ((Program.pipe Directory.access (pure (some text)) arguments .first f).run
      ⟨.empty⟩).1
    expected.summary = ⟨1, 0, 1⟩ ∧ expected.written.map (·.id) = [1] ∧
      outcome.output = [] ∧ outcome.summary = none ∧ outcome.exitCode = 1 := by
  intro f text arguments expected outcome
  have hsize : ¬ arguments.batchSize ≤ maxBatchSize := by decide
  have hpipe := pipe_eq Directory.access arguments (by decide) (by decide) f .first text
  rw [if_neg hsize] at hpipe
  have houtcome : outcome = .failed .batchTooLarge :=
    congrArg (fun action ↦ (action.run ⟨.empty⟩).1) hpipe
  rw [houtcome]
  exact ⟨by decide +kernel, by decide +kernel, rfl, rfl, rfl⟩

end TagQuery.Pipeline
