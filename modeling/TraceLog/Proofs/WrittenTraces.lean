import TraceLog.Proofs.Replaying

/-!
# Traces That Are Written Down

A trace is written one record a line: its time, its level and its message, with spaces and tabs
between them, and blank lines wherever one likes. All lines are ended in the same way, and the last
one need not be. `Trace.Consists` tells which texts are put together so. Reading such a text gives
back what was written: every record, with the number of its line, and nothing else.

A line is ended by a line feed, a carriage return or both, and by nothing else: the other characters
that end lines elsewhere may stand in a message, as may blanks at its end.

## Main results

* `Text.lines_append_ending`: the first line of a text.
* `Trace.readLine_text`: a line that was written.
* `Trace.written_trace_reads_back`: a trace that was written.
-/

namespace TraceLog

open Number

/-! ### Lines -/

namespace Text

/-- The ways in which lines are ended. -/
def endings : List (List Char) :=
  [['\n'], ['\r', '\n'], ['\r']]

/-- No line ends within the text. -/
def IsUnbroken (s : List Char) : Prop :=
  ∀ c ∈ s, c ≠ '\n' ∧ c ≠ '\r'

instance (s : List Char) : Decidable (IsUnbroken s) :=
  List.decidableBAll _ s

variable {c : Char} {ending line rest : List Char}

/-- What ends a line is blank, so that a word is unbroken. -/
theorem IsWord.isUnbroken (h : IsWord line) : IsUnbroken line := by
  intro c hc
  constructor
  · rintro rfl
    exact absurd (h.2 _ hc) (by decide)
  · rintro rfl
    exact absurd (h.2 _ hc) (by decide)

/-- A character that ends no line is put in front of the first line. -/
theorem lines_cons_of_ne (hc : c ≠ '\n' ∧ c ≠ '\r') (rest : List Char) :
    lines (c :: rest) = match lines rest with
      | [] => [[c]]
      | line :: more => (c :: line) :: more := by
  have hordinary : ¬ (c = '\n' ∨ c = '\r') := not_or.mpr hc
  have hlines := lines.eq_3 c rest fun _ hreturn => absurd hreturn hc.2
  rw [if_neg hordinary] at hlines
  exact hlines

/-- A line ends where its ending stands. A carriage return alone must not have a line feed behind
it. -/
theorem lines_ending (hending : ending ∈ endings)
    (hrest : ending = ['\r'] → rest.head? ≠ some '\n') :
    lines (ending ++ rest) = [] :: lines rest := by
  simp only [endings, List.mem_cons, List.not_mem_nil, or_false] at hending
  rcases hending with rfl | rfl | rfl
  · rw [List.singleton_append, lines.eq_3 _ _ (by simp), if_pos (.inl rfl)]
  · rw [List.cons_append, List.singleton_append, lines]
  · have hapart : ∀ more, '\r' = '\r' → rest = '\n' :: more → False := by
      rintro more - rfl
      exact hrest rfl rfl
    rw [List.singleton_append, lines.eq_3 _ _ hapart, if_pos (.inr rfl)]

/-- **The first line of a text** goes up to its ending. -/
theorem lines_append_ending (hending : ending ∈ endings) (hline : IsUnbroken line)
    (hrest : ending = ['\r'] → rest.head? ≠ some '\n') :
    lines (line ++ (ending ++ rest)) = line :: lines rest := by
  induction line with
  | nil => exact lines_ending hending hrest
  | cons c line ih =>
      obtain ⟨hc, hline⟩ := List.forall_mem_cons.mp hline
      rw [List.cons_append, lines_cons_of_ne hc, ih hline]

/-- The last line goes up to the end of the text. -/
theorem lines_of_isUnbroken (hline : IsUnbroken line) (hne : line ≠ []) : lines line = [line] := by
  induction line with
  | nil => exact absurd rfl hne
  | cons c line ih =>
      obtain ⟨hc, hline⟩ := List.forall_mem_cons.mp hline
      rw [lines_cons_of_ne hc]
      cases line with
      | nil => rfl
      | cons d line => rw [ih hline (by simp)]

end Text

namespace Trace

/-! ### Lines that are written -/

/-- What stands between the parts of a line: at least one space or tab. -/
def IsSpacing (s : List Char) : Prop :=
  s ≠ [] ∧ ∀ c ∈ s, c = ' ' ∨ c = '\t'

instance (s : List Char) : Decidable (IsSpacing s) :=
  @instDecidableAnd _ _ _ (List.decidableBAll _ s)

/-- Spacing is a gap. -/
theorem IsSpacing.isGap {s : List Char} (h : IsSpacing s) : Text.IsGap s := by
  intro c hc
  rcases h.2 c hc with rfl | rfl <;> decide

/-- Spacing does not break a line. -/
theorem IsSpacing.isUnbroken {s : List Char} (h : IsSpacing s) : Text.IsUnbroken s := by
  intro c hc
  rcases h.2 c hc with rfl | rfl <;> decide

/-- How a record is written in a line: a word for its time, a word for its level, and its message,
which does not start with a blank and goes on to the end of the line. -/
structure RecordLine where
  time : List Char
  between : List Char
  level : List Char
  after : List Char
  message : List Char
  /-- The time that the first word is read as. -/
  moment : Binary64
  /-- The level that the second word means. -/
  rank : Int
  isWord_time : Text.IsWord time
  isSpacing_between : IsSpacing between
  isWord_level : Text.IsWord level
  isSpacing_after : IsSpacing after
  message_start : ∀ c ∈ message.head?, Text.isBlank c = false
  message_unbroken : Text.IsUnbroken message
  time_reads : readReal? time = some moment
  level_means : Level.parse (.text (String.ofList level)) = .ok rank

/-- A line that is written in a trace: a blank one, or one with a record. -/
inductive SourceLine where
  | blank (gap : List Char) (isGap : Text.IsGap gap) (isUnbroken : Text.IsUnbroken gap)
  | record (line : RecordLine)

/-- The characters of a line. -/
def SourceLine.text : SourceLine → List Char
  | .blank gap .. => gap
  | .record line => line.time ++ (line.between ++ (line.level ++ (line.after ++ line.message)))

/-- What a line says, if it is not blank. -/
def SourceLine.entry? : SourceLine → Option TraceEntry
  | .blank .. => none
  | .record line => some ⟨line.moment, line.rank, String.ofList line.message⟩

/-- The lines that are written say these records, the first of them having number `number`. -/
def recordsFrom (number : Nat) (lines : List SourceLine) : List TraceRecord :=
  (lines.zipIdx number).filterMap fun (line, number) =>
    line.entry?.map fun entry => ⟨number, entry.time, entry.level, entry.message⟩

/-- The text consists of these lines. Each is ended in the same way; the last one may go without. -/
inductive Consists (ending : List Char) : List Char → List SourceLine → Prop
  | nil : Consists ending [] []
  | last (line : SourceLine) : Consists ending line.text [line]
  | cons {s : List Char} {lines : List SourceLine} (line : SourceLine) :
      Consists ending s lines → Consists ending (line.text ++ (ending ++ s)) (line :: lines)

variable {ending s : List Char} {number : Nat} {lines : List SourceLine}

/-- The text of a line does not break it. -/
theorem SourceLine.isUnbroken (line : SourceLine) : Text.IsUnbroken line.text := by
  cases line with
  | blank gap isGap isUnbroken => exact isUnbroken
  | record line =>
      simp only [SourceLine.text, Text.IsUnbroken, List.forall_mem_append]
      exact ⟨line.isWord_time.isUnbroken, line.isSpacing_between.isUnbroken,
        line.isWord_level.isUnbroken, line.isSpacing_after.isUnbroken, line.message_unbroken⟩

/-- A line with a record says it. -/
theorem RecordLine.tells (line : RecordLine) :
    Tells (SourceLine.record line).text ⟨line.moment, line.rank, String.ofList line.message⟩ := by
  have hbefore : Text.IsGap [] := by simp [Text.IsGap]
  exact .intro hbefore line.isWord_time line.isSpacing_between.isGap line.isSpacing_between.1
    line.isWord_level line.isSpacing_after.isGap (fun _ => line.isSpacing_after.1)
    line.message_start line.time_reads line.level_means

/-- **A line that was written** is read as what it says. -/
theorem readLine_text (line : SourceLine) (number : Nat) :
    readLine number line.text = .ok (line.entry?.map fun entry =>
      ⟨number, entry.time, entry.level, entry.message⟩) := by
  cases line with
  | blank gap isGap isUnbroken => exact readLine_eq_ok_none_iff.mpr isGap
  | record line => exact readLine_of_tells line.tells number

/-- The text of a line is read to what the line says. -/
theorem readLines_cons_text (line : SourceLine) (number : Nat) (lines : List (List Char)) :
    readLines number (line.text :: lines) =
      (recordsFrom number [line] ++ (readLines (number + 1) lines).1,
        (readLines (number + 1) lines).2) := by
  have hread := readLine_text line number
  cases line with
  | blank gap isGap isUnbroken => exact readLines_of_blank hread lines
  | record line => exact readLines_of_record hread lines

/-- The records of lines are those of the first one, and those of the others. -/
theorem recordsFrom_cons (number : Nat) (line : SourceLine) (lines : List SourceLine) :
    recordsFrom number (line :: lines) =
      recordsFrom number [line] ++ recordsFrom (number + 1) lines := by
  simp only [recordsFrom, List.zipIdx_cons, List.zipIdx_nil, List.filterMap_cons,
    List.filterMap_nil]
  cases line.entry? <;> rfl

/-- No text that consists of lines starts with a line feed, if that does not end them. -/
theorem Consists.head?_ne (h : Consists ['\r'] s lines) : s.head? ≠ some '\n' := by
  have hapart : ∀ (line : SourceLine) (rest : List Char), rest.head? ≠ some '\n' →
      (line.text ++ rest).head? ≠ some '\n' := by
    intro line rest hrest
    rcases htext : line.text with - | ⟨c, text⟩
    · exact hrest
    · have hc := line.isUnbroken c (by simp [htext])
      simpa using hc.1
  cases h with
  | nil => simp
  | last line => simpa using hapart line [] (by simp)
  | cons line h => exact hapart line _ (by simp)

/-- **Lines that were written are read as what they say.** -/
theorem readLines_of_consists (hending : ending ∈ Text.endings) (h : Consists ending s lines)
    (number : Nat) : readLines number (Text.lines s) = (recordsFrom number lines, none) := by
  induction h generalizing number with
  | nil => rfl
  | last line =>
      by_cases hempty : line.text = []
      -- an empty last line does not count as a line; it says nothing anyway
      · have hblank := readLine_text line number
        rw [hempty, readLine_eq_ok_none_iff.mpr (by simp [Text.IsGap])] at hblank
        have hentry : line.entry? = none := by simpa using hblank
        simp [hempty, Text.lines, readLines, recordsFrom, hentry]
      · rw [Text.lines_of_isUnbroken line.isUnbroken hempty, readLines_cons_text, readLines,
          List.append_nil]
  | @cons s lines line hrest ih =>
      have hapart : ending = ['\r'] → s.head? ≠ some '\n' := by
        rintro rfl
        exact hrest.head?_ne
      rw [Text.lines_append_ending hending line.isUnbroken hapart, readLines_cons_text, ih,
        recordsFrom_cons number line lines]

/-- **A trace that was written is read back.** Let a text consist of lines, blank ones and ones with
a record, in any order, and let all of them be ended by a line feed, a carriage return or both, the
last one perhaps by nothing. Reading the text gives the records that were written, in order, each
with its time, its level, its message and the number of its line, blank lines counted, and finds no
fault. The same is read of the bytes of the text. -/
theorem written_trace_reads_back (hending : ending ∈ Text.endings) {s : String}
    (h : Consists ending s.toList lines) :
    readText s = (recordsFrom 1 lines, none) ∧
      readBytes (Text.encode s.toList) = (recordsFrom 1 lines, none) := by
  have hread := readLines_of_consists hending h 1
  constructor
  · exact hread
  · rw [Replay.readBytes_encode, hread]
    rfl

/-- A record with a percent sign, a line separator and a blank at the end of its message. -/
def halfDone : RecordLine where
  time := ['0']
  between := ['\t', ' ']
  level := ['I', 'N', 'F', 'O']
  after := [' ']
  message := ['5', '0', '%', ' ', '\u2028', 'd', 'o', 'n', 'e', ' ']
  moment := .zero
  rank := 20
  isWord_time := by decide
  isSpacing_between := by decide
  isWord_level := by decide
  isSpacing_after := by decide
  message_start := by
    rintro c ⟨⟩
    decide
  message_unbroken := by decide
  time_reads := rfl
  level_means := rfl

/-- A record at the end of time, without a message. -/
def speechless : RecordLine where
  time := ['i', 'n', 'f']
  between := [' ']
  level := ['f', 'i', 'n', 'e']
  after := [' ', '\t']
  message := []
  moment := .infinite false
  rank := 10
  isWord_time := by decide
  isSpacing_between := by decide
  isWord_level := by decide
  isSpacing_after := by decide
  message_start := by
    rintro c ⟨⟩
  message_unbroken := by decide
  time_reads := rfl
  level_means := rfl

/-- A blank line between two records, the second of which is not ended. -/
theorem written_trace_reads_back_of_blank_line :
    let s := "0\t INFO 50% \u2028done \r\n\x0c\r\ninf fine \t"
    ['\r', '\n'] ∈ Text.endings ∧
      Consists ['\r', '\n'] s.toList
        [.record halfDone, .blank ['\x0c'] (by decide) (by decide), .record speechless] ∧
      readText s = ([⟨1, .zero, 20, "50% \u2028done "⟩, ⟨3, .infinite false, 10, ""⟩], none) := by
  intro s
  have hending : ['\r', '\n'] ∈ Text.endings := by decide
  have hs : s.toList = (SourceLine.record halfDone).text ++ (['\r', '\n'] ++ (['\x0c'] ++
      (['\r', '\n'] ++ (SourceLine.record speechless).text))) := by decide
  have hconsists : Consists ['\r', '\n'] s.toList
      [.record halfDone, .blank ['\x0c'] (by decide) (by decide), .record speechless] := by
    rw [hs]
    exact .cons _ (.cons (.blank ['\x0c'] _ _) (.last _))
  exact ⟨hending, hconsists, (written_trace_reads_back hending hconsists).1⟩

end Trace

end TraceLog
