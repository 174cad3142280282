import Mathlib.Data.List.TakeWhile
import TraceLog.Trace
import TraceLog.Proofs.Digits

/-!
# What the Lines of a Trace Say

A line of a trace is a time, a level and a message. `Trace.Tells` tells what a line says without
reading it: the line is put together from blanks, two words and the message. `Trace.Plays` tells
which lines can be logged one after the other: each says something, and no time is before the one
in front of it. Reading lines finds the longest part at their front that plays, where blank lines
count for nothing.

## Main results

* `Text.nextWord?_eq_some_iff`: the first word of a text.
* `Trace.readLine_eq_ok_some_iff`, `Trace.readLine_eq_ok_none_iff`: lines that say something, and
  blank ones.
* `Trace.longest_readLines`: what is read of lines is the longest part of them that plays.
-/

namespace TraceLog

open Number

/-! ### Words -/

namespace Text

/-- A word: it is not empty, and nothing in it is blank. -/
def IsWord (s : List Char) : Prop :=
  s ≠ [] ∧ ∀ c ∈ s, isBlank c = false

/-- A gap between words: all of it is blank. -/
def IsGap (s : List Char) : Prop :=
  ∀ c ∈ s, isBlank c = true

-- decided along the text: all characters there are would be too many to try
instance (s : List Char) : Decidable (IsWord s) :=
  @instDecidableAnd _ _ _ (List.decidableBAll _ s)

instance (s : List Char) : Decidable (IsGap s) :=
  List.decidableBAll _ s

variable {s word rest : List Char}

/-- A run of characters of one kind is dropped up to the first one of another kind. -/
theorem dropWhile_append_of_head? {p : Char → Bool} {run : List Char} (h : ∀ c ∈ run, p c = true)
    (hrest : ∀ c ∈ rest.head?, p c = false) : (run ++ rest).dropWhile p = rest := by
  rw [List.dropWhile_append_of_pos h]
  cases rest with
  | nil => rfl
  | cons c rest => exact List.dropWhile_cons_of_neg (by simp [hrest c rfl])

/-- A run ends where something else begins. -/
theorem takeWhile_append_of_head? {p : Char → Bool} {run : List Char} (h : ∀ c ∈ run, p c = true)
    (hrest : ∀ c ∈ rest.head?, p c = false) : (run ++ rest).takeWhile p = run := by
  rw [List.takeWhile_append_of_pos h]
  cases rest with
  | nil => exact List.append_nil run
  | cons c rest =>
      rw [List.takeWhile_cons_of_neg (by simp [hrest c rfl]), List.append_nil]

/-- What is behind a run does not belong to it. -/
theorem head?_dropWhile (p : Char → Bool) (s : List Char) :
    ∀ c ∈ (s.dropWhile p).head?, p c = false := by
  intro c hc
  have hhead := List.head?_dropWhile_not p s
  rw [Option.mem_def.mp hc] at hhead
  exact hhead

/-- A text is a gap, and what is left when that is trimmed off. -/
theorem exists_gap_append_trimStart (s : List Char) :
    ∃ gap, IsGap gap ∧ s = gap ++ trimStart s :=
  ⟨s.takeWhile isBlank, fun _ hc => List.mem_takeWhile_imp hc,
    List.takeWhile_append_dropWhile.symm⟩

/-- There is no word in a gap, and only there. -/
theorem nextWord?_eq_none_iff : nextWord? s = none ↔ IsGap s := by
  rw [IsGap, ← trimStart_eq_nil_iff, nextWord?]
  cases trimStart s with
  | nil => simp
  | cons c rest => simp

/-- **The first word of a text** stands behind a gap, and in front of a blank or the end. -/
theorem nextWord?_eq_some_iff :
    nextWord? s = some (word, rest) ↔
      IsWord word ∧ (∀ c ∈ rest.head?, isBlank c = true) ∧
        ∃ gap, IsGap gap ∧ s = gap ++ (word ++ rest) := by
  constructor
  · intro h
    obtain ⟨gap, hgap, hs⟩ := exists_gap_append_trimStart s
    rw [nextWord?] at h
    split at h
    · simp at h
    · next c later htrim =>
      obtain ⟨rfl, rfl⟩ := Prod.mk.inj (Option.some.inj h)
      have hc := isBlank_of_trimStart_eq_cons htrim
      refine ⟨⟨by simp [hc], ?_⟩, ?_, gap, hgap, ?_⟩
      · intro d hd
        simpa using List.mem_takeWhile_imp hd
      · intro d hd
        simpa using head?_dropWhile _ _ d hd
      · rw [List.takeWhile_append_dropWhile, ← htrim]
        exact hs
  · rintro ⟨⟨hne, hword⟩, hrest, gap, hgap, rfl⟩
    obtain ⟨c, later, rfl⟩ := List.exists_cons_of_ne_nil hne
    have htrim : trimStart (gap ++ (c :: later ++ rest)) = c :: (later ++ rest) :=
      dropWhile_append_of_head? hgap (by simpa using hword c List.mem_cons_self)
    have hletters : ∀ d ∈ c :: later, (!isBlank d) = true := fun d hd => by simp [hword d hd]
    have hend : ∀ d ∈ rest.head?, (!isBlank d) = false := fun d hd => by simp [hrest d hd]
    simp only [nextWord?, htrim]
    rw [← List.cons_append, takeWhile_append_of_head? hletters hend,
      dropWhile_append_of_head? hletters hend]

end Text

/-! ### Lines -/

/-- What a line of a trace can say. -/
structure TraceEntry where
  time : Binary64
  level : Int
  message : String
  deriving DecidableEq, Repr

/-- What a record says, wherever its line stands. -/
def TraceRecord.entry (record : TraceRecord) : TraceEntry :=
  ⟨record.time, record.level, record.message⟩

namespace Trace

variable {line : List Char} {number : Nat}

/-- The line says this: it consists of a word for the time, a word for the level, and the
message, with blanks in between. The message is empty, or it starts with a character that is not
blank and stands behind a blank. -/
inductive Tells : List Char → TraceEntry → Prop
  | intro {before time between level after message : List Char} {t : Binary64} {n : Int} :
      Text.IsGap before → Text.IsWord time → Text.IsGap between → between ≠ [] →
      Text.IsWord level → Text.IsGap after → (message ≠ [] → after ≠ []) →
      (∀ c ∈ message.head?, Text.isBlank c = false) → readReal? time = some t →
      Level.parse (.text (String.ofList level)) = .ok n →
      Tells (before ++ (time ++ (between ++ (level ++ (after ++ message)))))
        ⟨t, n, String.ofList message⟩

/-- A gap in front of something puts a blank at the head. -/
theorem head?_append_of_gap {gap rest : List Char} (hgap : Text.IsGap gap)
    (hrest : rest ≠ [] → gap ≠ []) : ∀ c ∈ (gap ++ rest).head?, Text.isBlank c = true := by
  intro c hc
  cases gap with
  | nil =>
      obtain rfl : rest = [] := by
        by_contra hne
        exact hrest hne rfl
      simp at hc
  | cons d gap =>
      obtain rfl : d = c := by simpa using hc
      exact hgap d List.mem_cons_self

/-- There is a gap in front of what does not start with a blank, if blanks or nothing stand where
both begin. -/
theorem ne_nil_of_head?_append {gap rest : List Char}
    (hhead : ∀ c ∈ (gap ++ rest).head?, Text.isBlank c = true)
    (hrest : ∀ c ∈ rest.head?, Text.isBlank c = false) (hne : rest ≠ []) : gap ≠ [] := by
  rintro rfl
  obtain ⟨c, more, rfl⟩ := List.exists_cons_of_ne_nil hne
  have hblank := hhead c rfl
  rw [hrest c rfl] at hblank
  simp at hblank

/-- A blank line has no record, and is the only one without a fault that has none. -/
theorem readLine_eq_ok_none_iff : readLine number line = .ok none ↔ Text.IsGap line := by
  rw [← Text.nextWord?_eq_none_iff]
  rcases hfirst : Text.nextWord? line with - | ⟨time, rest⟩
  · simp only [readLine, hfirst]
  · simp only [readLine, hfirst, reduceCtorEq, iff_false]
    split
    · simp
    · split
      · simp
      · split
        · simp
        · simp
        · simp

/-- A line that has a record says it. -/
theorem tells_of_readLine {record : TraceRecord} (h : readLine number line = .ok (some record)) :
    Tells line record.entry ∧ record.line = number := by
  rw [readLine] at h
  split at h
  · simp at h
  next time rest hfirst =>
  split at h
  · simp at h
  next level later hsecond =>
  split at h
  · simp at h
  next t htime =>
  split at h
  · next n hlevel =>
    obtain rfl := Option.some.inj (Except.ok.inj h)
    obtain ⟨hword, hhead, before, hbefore, rfl⟩ := Text.nextWord?_eq_some_iff.mp hfirst
    obtain ⟨hword', hhead', between, hbetween, rfl⟩ := Text.nextWord?_eq_some_iff.mp hsecond
    obtain ⟨after, hafter, hlater⟩ := Text.exists_gap_append_trimStart later
    have hletters : ∀ c ∈ (level ++ later).head?, Text.isBlank c = false := by
      obtain ⟨c, letters, rfl⟩ := List.exists_cons_of_ne_nil hword'.1
      rintro _ ⟨⟩
      exact hword'.2 c List.mem_cons_self
    have hmessage : ∀ c ∈ (Text.trimStart later).head?, Text.isBlank c = false :=
      Text.head?_dropWhile _ _
    have hgap : Text.trimStart later ≠ [] → after ≠ [] :=
      ne_nil_of_head?_append (by rwa [← hlater]) hmessage
    have htells := Tells.intro hbefore hword hbetween
      (ne_nil_of_head?_append hhead hletters (by simp [hword'.1])) hword' hafter hgap hmessage
      htime hlevel
    rw [← hlater] at htells
    exact ⟨htells, rfl⟩
  · simp at h
  · simp at h

/-- A line has a record of what it says. -/
theorem readLine_of_tells {entry : TraceEntry} (h : Tells line entry) (number : Nat) :
    readLine number line = .ok (some ⟨number, entry.time, entry.level, entry.message⟩) := by
  cases h with
  | @intro before time between level after message t n hbefore hword hbetween hne hword' hafter
      hmessage hhead htime hlevel =>
    have hfirst : Text.nextWord? (before ++ (time ++ (between ++ (level ++ (after ++ message))))) =
        some (time, between ++ (level ++ (after ++ message))) :=
      Text.nextWord?_eq_some_iff.mpr
        ⟨hword, head?_append_of_gap hbetween fun _ => hne, before, hbefore, rfl⟩
    have hsecond : Text.nextWord? (between ++ (level ++ (after ++ message))) =
        some (level, after ++ message) :=
      Text.nextWord?_eq_some_iff.mpr
        ⟨hword', head?_append_of_gap hafter hmessage, between, hbetween, rfl⟩
    have htrim : Text.trimStart (after ++ message) = message :=
      Text.dropWhile_append_of_head? hafter hhead
    simp only [readLine, hfirst, hsecond, htime, hlevel, htrim]

/-- **A line has a record exactly when it says something**, and the record is what it says. -/
theorem readLine_eq_ok_some_iff {record : TraceRecord} :
    readLine number line = .ok (some record) ↔
      Tells line record.entry ∧ record.line = number := by
  refine ⟨tells_of_readLine, ?_⟩
  rintro ⟨htells, rfl⟩
  exact readLine_of_tells htells record.line

/-- A line says one thing at most. -/
theorem Tells.unique {entry entry' : TraceEntry} (h : Tells line entry) (h' : Tells line entry') :
    entry' = entry := by
  have hrecord := (readLine_of_tells h' 0).symm.trans (readLine_of_tells h 0)
  exact congrArg TraceRecord.entry (Option.some.inj (Except.ok.inj hrecord))

/-! ### Lines one after the other -/

/-- The lines say these entries, and none has a time before the one in front of it; the first
stands behind this time. -/
inductive Plays : Binary64 → List (List Char) → List TraceEntry → Prop
  | nil {time : Binary64} : Plays time [] []
  | cons {time : Binary64} {line : List Char} {entry : TraceEntry} {lines : List (List Char)}
      {entries : List TraceEntry} : Tells line entry → entry.time.lt time = false →
      Plays entry.time lines entries → Plays time (line :: lines) (entry :: entries)

/-- The longest part at the front of lines that plays, and what it says. -/
structure LongestPlayed (time : Binary64) (lines front : List (List Char))
    (entries : List TraceEntry) : Prop where
  isPrefix : front <+: lines
  plays : Plays time front entries
  longest : ∀ front' entries', front' <+: lines → Plays time front' entries' → front' <+: front

/-- The lines that are not blank. -/
def written (lines : List (List Char)) : List (List Char) :=
  lines.filter fun line => ¬ Text.IsGap line

/-- The records at the front whose times do not go back; the first stands behind this time. -/
def inOrder : Binary64 → List TraceRecord → List TraceRecord
  | _, [] => []
  | time, record :: records =>
    if record.time.lt time then [] else record :: inOrder record.time records

/-- How a line stops a run whose time goes back behind that of the line in front of it. -/
def lateStop (number : Nat) (time before : Binary64) : Stop :=
  .complaint s!"line {number}: {(Fault.timeBackwards time.shortText before.shortText).message}"

/-- How the first record stops a run whose time goes back; the first of all stands behind this
time. -/
def lateStop? : Binary64 → List TraceRecord → Option Stop
  | _, [] => none
  | time, record :: records =>
    if record.time.lt time then some (lateStop record.line record.time time)
    else lateStop? record.time records

/-- How a run is stopped over what was read of a trace: by a record whose time goes back, or by the
fault behind the records. -/
def stop? (time : Binary64) (read : List TraceRecord × Option TraceFault) : Option Stop :=
  (lateStop? time read.1).or (read.2.map TraceFault.stop)

variable {time : Binary64} {entry : TraceEntry} {record : TraceRecord}
  {lines front : List (List Char)} {entries : List TraceEntry} {records : List TraceRecord}

/-- A time that goes back ends the records in order. -/
theorem inOrder_cons_of_lt (h : record.time.lt time = true) :
    inOrder time (record :: records) = [] := by
  rw [inOrder, if_pos h]

/-- A record in order is followed by those that are in order behind it. -/
theorem inOrder_cons_of_not_lt (h : record.time.lt time = false) :
    inOrder time (record :: records) = record :: inOrder record.time records := by
  rw [inOrder, if_neg (by simp [h])]

/-- A time that goes back stops the run. -/
theorem lateStop?_cons_of_lt (h : record.time.lt time = true) :
    lateStop? time (record :: records) = some (lateStop record.line record.time time) := by
  rw [lateStop?, if_pos h]

/-- A record in order does not stop the run. -/
theorem lateStop?_cons_of_not_lt (h : record.time.lt time = false) :
    lateStop? time (record :: records) = lateStop? record.time records := by
  rw [lateStop?, if_neg (by simp [h])]

/-- No record stops a run exactly when all are in order. -/
theorem lateStop?_eq_none_iff : lateStop? time records = none ↔ inOrder time records = records := by
  induction records generalizing time with
  | nil => simp [lateStop?, inOrder]
  | cons record records ih =>
      rcases horder : record.time.lt time with - | -
      · rw [lateStop?_cons_of_not_lt horder, inOrder_cons_of_not_lt horder, ih]
        simp
      · rw [lateStop?_cons_of_lt horder, inOrder_cons_of_lt horder]
        simp

/-- A run is not stopped exactly if all lines are read and all records are in order. -/
theorem stop?_eq_none_iff {read : List TraceRecord × Option TraceFault} :
    stop? time read = none ↔ read.2 = none ∧ inOrder time read.1 = read.1 := by
  rw [stop?, Option.or_eq_none_iff, Option.map_eq_none_iff, lateStop?_eq_none_iff, and_comm]

/-- A line that cannot be played leaves nothing in front of it. -/
theorem longestPlayed_nil (h : ∀ entry, Tells line entry → entry.time.lt time = true) :
    LongestPlayed time (line :: lines) [] [] := by
  refine ⟨List.nil_prefix, .nil, fun front' entries' hprefix hplays => ?_⟩
  cases hplays with
  | nil => exact List.prefix_rfl
  | @cons _ line' entry _ _ htells horder _ =>
      obtain ⟨rfl, -⟩ := List.cons_prefix_cons.mp hprefix
      rw [h entry htells] at horder
      simp at horder

/-- A line that can be played stands in front of what plays behind it. -/
theorem LongestPlayed.cons (htells : Tells line entry) (horder : entry.time.lt time = false)
    (h : LongestPlayed entry.time lines front entries) :
    LongestPlayed time (line :: lines) (line :: front) (entry :: entries) := by
  refine ⟨List.cons_prefix_cons.mpr ⟨rfl, h.isPrefix⟩, .cons htells horder h.plays, ?_⟩
  intro front' entries' hprefix hplays
  cases hplays with
  | nil => exact List.nil_prefix
  | @cons _ line' entry' _ _ htells' _ hrest =>
      obtain ⟨rfl, hprefix'⟩ := List.cons_prefix_cons.mp hprefix
      obtain rfl := htells.unique htells'
      exact List.cons_prefix_cons.mpr ⟨rfl, h.longest _ _ hprefix' hrest⟩

/-- Only a blank line is left out. -/
theorem written_cons_of_not_blank (h : readLine number line ≠ .ok none) (lines : List (List Char)) :
    written (line :: lines) = line :: written lines :=
  List.filter_cons_of_pos (decide_eq_true fun hgap => h (readLine_eq_ok_none_iff.mpr hgap))

/-- A blank line is left out. -/
theorem written_cons_of_blank (h : readLine number line = .ok none) (lines : List (List Char)) :
    written (line :: lines) = written lines :=
  List.filter_cons_of_neg (by simpa using readLine_eq_ok_none_iff.mp h)

/-- A faulty line ends the reading. -/
theorem readLines_of_fault {fault : TraceFault} (h : readLine number line = .error fault)
    (lines : List (List Char)) : readLines number (line :: lines) = ([], some fault) := by
  simp only [readLines, h]

/-- A blank line is passed over, and counted. -/
theorem readLines_of_blank (h : readLine number line = .ok none) (lines : List (List Char)) :
    readLines number (line :: lines) = readLines (number + 1) lines := by
  simp only [readLines, h]
  rfl

/-- A line that says something gives a record in front of the others. -/
theorem readLines_of_record (h : readLine number line = .ok (some record))
    (lines : List (List Char)) :
    readLines number (line :: lines) =
      (record :: (readLines (number + 1) lines).1, (readLines (number + 1) lines).2) := by
  simp only [readLines, h]
  rfl

/-- **What is read of lines is the longest part that plays**: the records in order are its
entries. All lines that are not blank play when no line is at fault and all records are in
order. -/
theorem longest_readLines (number : Nat) (time : Binary64) (lines : List (List Char)) :
    ∃ front, LongestPlayed time (written lines) front
        ((inOrder time (readLines number lines).1).map TraceRecord.entry) ∧
      (front = written lines ↔ (readLines number lines).2 = none ∧
        inOrder time (readLines number lines).1 = (readLines number lines).1) := by
  induction lines generalizing number time with
  | nil =>
      exact ⟨[], ⟨List.nil_prefix, .nil, fun _ _ hprefix _ => hprefix⟩,
        by simp [written, readLines, inOrder]⟩
  | cons line lines ih =>
      rcases hread : readLine number line with fault | - | record
      · have hwritten := written_cons_of_not_blank (by rw [hread]; simp) lines
        rw [hwritten, readLines_of_fault hread]
        refine ⟨[], longestPlayed_nil fun entry htells => ?_, by simp⟩
        rw [readLine_of_tells htells] at hread
        simp at hread
      · rw [written_cons_of_blank hread, readLines_of_blank hread]
        exact ih (number + 1) time
      · obtain ⟨htells, -⟩ := readLine_eq_ok_some_iff.mp hread
        have hwritten := written_cons_of_not_blank (by rw [hread]; simp) lines
        rw [hwritten, readLines_of_record hread]
        rcases horder : record.time.lt time with - | -
        · obtain ⟨front, hlongest, hall⟩ := ih (number + 1) record.time
          rw [inOrder_cons_of_not_lt horder]
          exact ⟨line :: front, hlongest.cons htells horder, by simpa using hall⟩
        · rw [inOrder_cons_of_lt horder]
          refine ⟨[], longestPlayed_nil fun entry htells' => ?_, by simp⟩
          rw [htells.unique htells']
          exact horder

/-- There are no more records than lines, and each is what a line says. -/
theorem records_readLines (number : Nat) (lines : List (List Char)) :
    (readLines number lines).1.length ≤ lines.length ∧
      ∀ record ∈ (readLines number lines).1, ∃ line, Tells line record.entry := by
  induction lines generalizing number with
  | nil => simp [readLines]
  | cons line lines ih =>
      obtain ⟨hlength, htells⟩ := ih (number + 1)
      rcases hread : readLine number line with fault | - | record
      · simp [readLines_of_fault hread]
      · rw [readLines_of_blank hread]
        exact ⟨Nat.le_succ_of_le hlength, htells⟩
      · rw [readLines_of_record hread]
        refine ⟨Nat.succ_le_succ hlength, List.forall_mem_cons.mpr ⟨?_, htells⟩⟩
        exact ⟨line, (readLine_eq_ok_some_iff.mp hread).1⟩

/-- The level of an entry is one of those that texts mean: at least the lowest one, and short. -/
theorem Tells.level (h : Tells line entry) :
    Level.lowest ≤ entry.level ∧ Value.IsShort entry.level := by
  cases h with
  | intro _ _ _ _ _ _ _ _ _ hlevel =>
      have hle := Level.lowest_le_of_parse hlevel
      rw [Level.parse] at hlevel
      exact ⟨hle, Level.isShort_of_parseText hlevel⟩

end Trace

/-- A text has no more lines than characters. -/
theorem Text.length_lines (s : List Char) : (Text.lines s).length ≤ s.length := by
  induction s using Text.lines.induct with
  | case1 => rfl
  | case2 rest ih =>
      rw [lines, List.length_cons, List.length_cons, List.length_cons]
      omega
  | case3 c rest hcrlf hend ih =>
      rw [lines.eq_3 c rest hcrlf, if_pos hend, List.length_cons, List.length_cons]
      omega
  | case4 c rest hcrlf hend hnone ih => simp [lines.eq_3 c rest hcrlf, if_neg hend, hnone]
  | case5 c rest hcrlf hend line more hsome ih =>
      rw [hsome, List.length_cons] at ih
      simp only [lines.eq_3 c rest hcrlf, if_neg hend, hsome, List.length_cons]
      omega

/-- There are no more ended lines than characters. -/
theorem Text.length_endedLines (s : List Char) : (Text.endedLines s).length ≤ s.length := by
  have hshorter : (if s.getLast? = some '\r' then s.dropLast else s).length ≤ s.length := by
    split
    · rw [List.length_dropLast]
      omega
    · rfl
  rw [endedLines]
  generalize (if s.getLast? = some '\r' then s.dropLast else s) = kept at hshorter
  have hlines := length_lines kept
  split
  · omega
  · rw [List.length_dropLast]
    omega

end TraceLog
