import TraceLog.Proofs.Command
import TraceLog.Proofs.Numerals

/-!
# Complaints About Bad Lines

A replay goes on as long as lines play, and ends with the first one that offends: it is faulty, or
its time goes back. `Trace.Faulty` and `Trace.Offends` tell what that means from the words of the
line alone. A complaint starts with the number of the line. There is one way for a line to end the
command without one: its level looks like a number and is none (`Trace.MissesLevel`).

## Main results

* `Trace.readLine_eq_error_iff`: the lines that are faulty.
* `Trace.first_fault`, `Trace.first_offence`: what comes in front of the line that stops reading, or
  a replay.
* `Replay.complains_of_first_bad_line`: how the command ends for each trace.
-/

namespace TraceLog

open Number

namespace Trace

/-! ### Faulty lines -/

/-- The line consists of this word alone. -/
def Single (line word : List Char) : Prop :=
  Text.IsWord word ∧ ∃ before after, Text.IsGap before ∧ Text.IsGap after ∧
    line = before ++ (word ++ after)

/-- The line starts with these two words, and this is what stands behind them. -/
def Starts (line time level rest : List Char) : Prop :=
  Text.IsWord time ∧ Text.IsWord level ∧ (∀ c ∈ rest.head?, Text.isBlank c = true) ∧
    ∃ before between, Text.IsGap before ∧ Text.IsGap between ∧ between ≠ [] ∧
      line = before ++ (time ++ (between ++ (level ++ rest)))

/-- What is wrong with a line: it consists of one word, its time is none, its level is refused, or
the level looks like a number and is none. -/
inductive Faulty (number : Nat) (line : List Char) : TraceFault → Prop
  | tooFewWords {word : List Char} : Single line word → Faulty number line (.tooFewWords number)
  | badTime {time level rest : List Char} : Starts line time level rest → readReal? time = none →
      Faulty number line (.badTime number (String.ofList time))
  | badLevel {time level rest : List Char} {t : Binary64} : Starts line time level rest →
      readReal? time = some t →
      Level.parse (.text (String.ofList level)) =
        .error (Level.unknown (.text (String.ofList level))) →
      Faulty number line (.badLevel number (Level.unknown (.text (String.ofList level))))
  | unreadableLevel {time level rest : List Char} {t : Binary64} {cause : NumberFault} :
      Starts line time level rest → readReal? time = some t →
      Level.parse (.text (String.ofList level)) = .error (.number cause) →
      Faulty number line (.unreadableLevel number (.number cause))

/-- The level of the line looks like a number and is none, while its time is one. -/
def MissesLevel (line : List Char) : Prop :=
  ∃ time level rest, Starts line time level rest ∧ readReal? time ≠ none ∧
    Level.MissesNumber (String.ofList level)

variable {line time level rest : List Char} {number : Nat} {fault : TraceFault}

/-- The words that a line starts with are the first two that are found. -/
theorem starts_iff : Starts line time level rest ↔
    ∃ later, Text.nextWord? line = some (time, later) ∧
      Text.nextWord? later = some (level, rest) := by
  constructor
  · rintro ⟨htime, hlevel, hrest, before, between, hbefore, hbetween, hne, rfl⟩
    refine ⟨between ++ (level ++ rest), Text.nextWord?_eq_some_iff.mpr ?_,
      Text.nextWord?_eq_some_iff.mpr ⟨hlevel, hrest, between, hbetween, rfl⟩⟩
    exact ⟨htime, head?_append_of_gap hbetween fun _ => hne, before, hbefore, rfl⟩
  · rintro ⟨later, hfirst, hsecond⟩
    obtain ⟨htime, hhead, before, hbefore, rfl⟩ := Text.nextWord?_eq_some_iff.mp hfirst
    obtain ⟨hlevel, hrest, between, hbetween, rfl⟩ := Text.nextWord?_eq_some_iff.mp hsecond
    have hletters : ∀ c ∈ (level ++ rest).head?, Text.isBlank c = false := by
      obtain ⟨c, letters, rfl⟩ := List.exists_cons_of_ne_nil hlevel.1
      rintro _ ⟨⟩
      exact hlevel.2 c List.mem_cons_self
    exact ⟨htime, hlevel, hrest, before, between, hbefore, hbetween,
      ne_nil_of_head?_append hhead hletters (by simp [hlevel.1]), rfl⟩

/-- A line consists of one word when no second one is found. -/
theorem single_iff {word : List Char} : Single line word ↔
    ∃ later, Text.nextWord? line = some (word, later) ∧ Text.nextWord? later = none := by
  constructor
  · rintro ⟨hword, before, after, hbefore, hafter, rfl⟩
    have hhead : ∀ c ∈ after.head?, Text.isBlank c = true :=
      fun c hc => hafter c (List.mem_of_mem_head? hc)
    exact ⟨after, Text.nextWord?_eq_some_iff.mpr ⟨hword, hhead, before, hbefore, rfl⟩,
      Text.nextWord?_eq_none_iff.mpr hafter⟩
  · rintro ⟨after, hfirst, hsecond⟩
    obtain ⟨hword, -, before, hbefore, rfl⟩ := Text.nextWord?_eq_some_iff.mp hfirst
    exact ⟨hword, before, after, hbefore, Text.nextWord?_eq_none_iff.mp hsecond, rfl⟩

/-- A line that consists of one word does not start with two. -/
theorem Single.not_starts {word : List Char} (h : Single line word) :
    ¬ Starts line time level rest := by
  intro hstarts
  obtain ⟨later, hfirst, hsecond⟩ := single_iff.mp h
  obtain ⟨later', hfirst', hsecond'⟩ := starts_iff.mp hstarts
  rw [hfirst] at hfirst'
  obtain ⟨-, rfl⟩ := Prod.mk.inj (Option.some.inj hfirst')
  simp [hsecond] at hsecond'

/-- A line starts with two words at most in one way. -/
theorem Starts.unique {time' level' rest' : List Char} (h : Starts line time level rest)
    (h' : Starts line time' level' rest') : time' = time ∧ level' = level := by
  obtain ⟨later, hfirst, hsecond⟩ := starts_iff.mp h
  obtain ⟨later', hfirst', hsecond'⟩ := starts_iff.mp h'
  rw [hfirst] at hfirst'
  obtain ⟨rfl, rfl⟩ := Prod.mk.inj (Option.some.inj hfirst')
  rw [hsecond] at hsecond'
  obtain ⟨rfl, -⟩ := Prod.mk.inj (Option.some.inj hsecond')
  exact ⟨rfl, rfl⟩

/-- **The lines that are faulty**, and how. -/
theorem readLine_eq_error_iff : readLine number line = .error fault ↔ Faulty number line fault := by
  constructor
  · intro h
    rcases hfirst : Text.nextWord? line with - | ⟨time, later⟩
    · simp [readLine, hfirst] at h
    rcases hsecond : Text.nextWord? later with - | ⟨level, rest⟩
    · simp only [readLine, hfirst, hsecond] at h
      obtain rfl := Except.error.inj h
      exact .tooFewWords (single_iff.mpr ⟨later, hfirst, hsecond⟩)
    have hstarts := starts_iff.mpr ⟨later, hfirst, hsecond⟩
    rcases htime : readReal? time with - | t
    · simp only [readLine, hfirst, hsecond, htime] at h
      obtain rfl := Except.error.inj h
      exact .badTime hstarts htime
    rcases Level.parse_text_cases (String.ofList level) with
      ⟨⟨n, hlevel⟩, -⟩ | ⟨hlevel, -⟩ | ⟨⟨cause, hlevel⟩, -⟩
    · simp [readLine, hfirst, hsecond, htime, hlevel] at h
    · simp only [readLine, hfirst, hsecond, htime, hlevel, Level.unknown_text] at h
      obtain rfl := Except.error.inj h
      exact .badLevel hstarts htime hlevel
    · simp only [readLine, hfirst, hsecond, htime, hlevel] at h
      obtain rfl := Except.error.inj h
      exact .unreadableLevel hstarts htime hlevel
  · intro h
    cases h with
    | tooFewWords hsingle =>
        obtain ⟨later, hfirst, hsecond⟩ := single_iff.mp hsingle
        simp only [readLine, hfirst, hsecond]
    | badTime hstarts htime =>
        obtain ⟨later, hfirst, hsecond⟩ := starts_iff.mp hstarts
        simp only [readLine, hfirst, hsecond, htime]
    | badLevel hstarts htime hlevel =>
        obtain ⟨later, hfirst, hsecond⟩ := starts_iff.mp hstarts
        simp only [readLine, hfirst, hsecond, htime, hlevel, Level.unknown_text]
    | unreadableLevel hstarts htime hlevel =>
        obtain ⟨later, hfirst, hsecond⟩ := starts_iff.mp hstarts
        simp only [readLine, hfirst, hsecond, htime, hlevel]

/-- Where the words are known, a line misses its level when the time is read and the number is
not. -/
theorem missesLevel_iff (h : Starts line time level rest) :
    MissesLevel line ↔ readReal? time ≠ none ∧
      ∃ cause, Level.parse (.text (String.ofList level)) = .error (.number cause) := by
  rw [← Level.missesNumber_iff]
  constructor
  · rintro ⟨time', level', rest', h', hmisses⟩
    obtain ⟨rfl, rfl⟩ := h.unique h'
    exact hmisses
  · exact fun hmisses => ⟨time, level, rest, h, hmisses⟩

/-- A line that says something starts with a time and a level. -/
theorem Tells.starts {entry : TraceEntry} (h : Tells line entry) :
    ∃ time level rest, Starts line time level rest ∧ readReal? time = some entry.time ∧
      Level.parse (.text (String.ofList level)) = .ok entry.level := by
  cases h with
  | intro hbefore htime hbetween hne hlevel hafter hmessage _ hread hparse =>
      exact ⟨_, _, _, ⟨htime, hlevel, head?_append_of_gap hafter hmessage, _, _, hbefore, hbetween,
        hne, rfl⟩, hread, hparse⟩

/-! ### Complaints -/

/-- The line is complained about under its number, unless its level looks like a number and is none:
the run is stopped by the fault of reading that. -/
def Reports (number : Nat) (line : List Char) (stop : Stop) : Prop :=
  ¬ MissesLevel line ∧ (∃ reason : String, stop = .complaint s!"line {number}: {reason}") ∨
    MissesLevel line ∧ ∃ cause, stop = .fault (.number cause)

/-- A complaint is the number of a line and a reason. -/
theorem complaint_eq (number : Nat) (reason : String) :
    Stop.complaint s!"line {number}: {reason}" =
      .complaint ("line " ++ toString number ++ (": " ++ reason)) := by
  rw [← String.append_assoc]
  rfl

/-- A faulty line is reported, unless it misses its level. -/
theorem Faulty.reports (h : Faulty number line fault) : Reports number line fault.stop := by
  cases h with
  | tooFewWords hsingle =>
      refine .inl ⟨?_, "expected '<time> <level> <message>'", ?_⟩
      · rintro ⟨time, level, rest, hstarts, -⟩
        exact hsingle.not_starts hstarts
      · have hreason : ": " ++ "expected '<time> <level> <message>'" =
            ": expected '<time> <level> <message>'" := by decide
        rw [complaint_eq, hreason]
        rfl
  | @badTime time _ _ hstarts htime =>
      refine .inl ⟨fun hmisses => ((missesLevel_iff hstarts).mp hmisses).1 htime,
        "bad time " ++ Text.quoted (String.ofList time), ?_⟩
      have hreason : ": " ++ ("bad time " ++ Text.quoted (String.ofList time)) =
          ": bad time " ++ Text.quoted (String.ofList time) := String.append_assoc.symm
      rw [complaint_eq, hreason, ← String.append_assoc]
      rfl
  | badLevel hstarts _ hlevel =>
      refine .inl ⟨fun hmisses => ?_, _, rfl⟩
      obtain ⟨-, cause, hcause⟩ := (missesLevel_iff hstarts).mp hmisses
      simp [hlevel, Level.unknown_text] at hcause
  | unreadableLevel hstarts htime hlevel =>
      exact .inr ⟨(missesLevel_iff hstarts).mpr ⟨by simp [htime], _, hlevel⟩, _, rfl⟩

/-- How a line stops a run that has come to this time: it is faulty, or its own time is earlier. -/
inductive Offends (number : Nat) (time : Binary64) (line : List Char) : Stop → Prop
  | faulty {fault : TraceFault} : Faulty number line fault → Offends number time line fault.stop
  | late {entry : TraceEntry} : Tells line entry → entry.time.lt time = true →
      Offends number time line (lateStop number entry.time time)

/-- So is a line that offends. -/
theorem Offends.reports {time : Binary64} {stop : Stop} (h : Offends number time line stop) :
    Reports number line stop := by
  cases h with
  | faulty hfaulty => exact hfaulty.reports
  | late htells _ =>
      refine .inl ⟨fun hmisses => ?_, _, rfl⟩
      obtain ⟨time, level, rest, hstarts, -, hlevel⟩ := htells.starts
      obtain ⟨-, cause, hcause⟩ := (missesLevel_iff hstarts).mp hmisses
      simp [hlevel] at hcause

/-! ### The first bad line -/

/-- The time that entries come to which start at this one. -/
def lastTime (time : Binary64) (entries : List TraceEntry) : Binary64 :=
  entries.foldl (fun _ entry => entry.time) time

/-- A line behind another has a number greater by one than without that. -/
theorem number_behind (number : Nat) (line : List Char) (before : List (List Char)) :
    number + (line :: before).length = number + 1 + before.length := by
  rw [List.length_cons]
  omega

/-- **Reading goes on up to the first faulty line**: there is a record of what each line in front of
it says, blank ones left out. -/
theorem first_fault (number : Nat) (lines : List (List Char)) :
    let read := readLines number lines
    read.2 = none ∧ List.Forall₂ Tells (written lines) (read.1.map TraceRecord.entry) ∨
      ∃ before line after fault, lines = before ++ line :: after ∧
        List.Forall₂ Tells (written before) (read.1.map TraceRecord.entry) ∧
        read.2 = some fault ∧ Faulty (number + before.length) line fault := by
  -- a line that is not faulty moves to the front of what is found behind it
  induction lines generalizing number with
  | nil => exact .inl ⟨rfl, .nil⟩
  | cons line lines ih =>
      rcases hread : readLine number line with fault | - | record
      · rw [readLines_of_fault hread]
        exact .inr ⟨[], line, lines, fault, rfl, .nil, rfl, readLine_eq_error_iff.mp hread⟩
      · rw [readLines_of_blank hread, written_cons_of_blank hread]
        rcases ih (number + 1) with hall | ⟨before, bad, after, fault, rfl, htells, hfault, hbad⟩
        · exact .inl hall
        · refine .inr ⟨line :: before, bad, after, fault, rfl, ?_, hfault, ?_⟩
          · rwa [written_cons_of_blank hread]
          · rwa [number_behind]
      · have hsome : readLine number line ≠ .ok none := by simp [hread]
        have hwritten := written_cons_of_not_blank hsome
        have htells := (readLine_eq_ok_some_iff.mp hread).1
        rw [readLines_of_record hread, hwritten]
        rcases ih (number + 1) with
          ⟨hnone, hall⟩ | ⟨before, bad, after, fault, rfl, hall, hfault, hbad⟩
        · exact .inl ⟨hnone, .cons htells hall⟩
        · refine .inr ⟨line :: before, bad, after, fault, rfl, ?_, hfault, ?_⟩
          · rw [hwritten]
            exact .cons htells hall
          · rwa [number_behind]

/-- **A run goes on up to the first line that offends**: the lines in front of it play, blank ones
left out. -/
theorem first_offence (number : Nat) (time : Binary64) (lines : List (List Char)) :
    stop? time (readLines number lines) = none ∧ (∃ entries, Plays time (written lines) entries) ∨
      ∃ before line after entries stop, lines = before ++ line :: after ∧
        Plays time (written before) entries ∧
        stop? time (readLines number lines) = some stop ∧
        Offends (number + before.length) (lastTime time entries) line stop := by
  -- what is found behind a record starts at its time, what is found behind a blank line at the same
  induction lines generalizing number time with
  | nil => exact .inl ⟨rfl, [], .nil⟩
  | cons line lines ih =>
      rcases hread : readLine number line with fault | - | record
      · rw [readLines_of_fault hread]
        exact .inr ⟨[], line, lines, [], fault.stop, rfl, .nil, rfl,
          .faulty (readLine_eq_error_iff.mp hread)⟩
      · rw [readLines_of_blank hread, written_cons_of_blank hread]
        rcases ih (number + 1) time with
          hall | ⟨before, bad, after, entries, stop, rfl, hplays, hstop, hbad⟩
        · exact .inl hall
        · refine .inr ⟨line :: before, bad, after, entries, stop, rfl, ?_, hstop, ?_⟩
          · rwa [written_cons_of_blank hread]
          · rwa [number_behind]
      · have hsome : readLine number line ≠ .ok none := by simp [hread]
        have hwritten := written_cons_of_not_blank hsome
        obtain ⟨htells, rfl⟩ := readLine_eq_ok_some_iff.mp hread
        rw [readLines_of_record hread, hwritten, Trace.stop?]
        rcases horder : record.time.lt time with - | -
        · rw [lateStop?_cons_of_not_lt horder]
          rcases ih (record.line + 1) record.time with
            ⟨hnone, entries, hplays⟩ | ⟨before, bad, after, entries, stop, rfl, hplays, hstop, hbad⟩
          · exact .inl ⟨hnone, _, .cons htells horder hplays⟩
          · refine .inr
              ⟨line :: before, bad, after, record.entry :: entries, stop, rfl, ?_, hstop, ?_⟩
            · rw [hwritten]
              exact .cons htells horder hplays
            · rwa [number_behind]
        · rw [lateStop?_cons_of_lt horder, Option.some_or]
          have hlate : Offends record.line time line
              (lateStop record.line record.entry.time time) := .late htells horder
          exact .inr ⟨[], line, lines, [], _, rfl, .nil, rfl, hlate⟩

end Trace

namespace Replay

/-! ### The command -/

section

variable {reader : OptionReader} {platform : Platform} {request : Request} {files : FileTree}
  {arguments : List String} {environment : Options.Variables} {standardInput : List UInt8}
  {given : Arguments} {s : String}

/-- **How the command ends for each trace.** Let any library read the command line and come to a
request. Let its configuration succeed, with the standard level of its diagnostics, and let the
trace be a text once the log is open, with no more characters than there are numbers that can be
written.

* Either all lines play, blank ones left out, and the command completes with status zero. Or there
  is a first line that offends behind lines that play. The command ends there with status two, and
  with a complaint that starts with the number of that line, blank lines counted.
* It is different only if the level of that line looks like a number and is none, while its time is
  one: the fault of reading that number ends the command, with status one.
* Reading the trace alone stops in the same way at the first faulty line, if there is one. -/
theorem complains_of_first_bad_line (moments : Nat → Moment)
    (hread : reader.arguments arguments = .ok given)
    (hhelp : given.asksForHelp = false)
    (hrequest : Request.ofArguments reader platform.directory files environment given =
      .ok request)
    (hdiagnostics : request.logLevel = "WARNING")
    (hraised : (configuration platform request files).raised = none)
    (htrace : traceBytes standardInput (configuration platform request files).scene.outlets.files
      request.trace = Text.encode s.toList)
    (hshort : Value.IsShort (s.toList.length : Int)) :
    let result := run reader platform moments arguments environment standardInput files
    let lines := Text.lines s.toList
    let read := Trace.readText s
    ((∃ entries, Trace.Plays .zero (Trace.written lines) entries) ∧
        result.ending = .completed ∧ result.status = 0 ∨
      ∃ before line after entries stop, lines = before ++ line :: after ∧
        Trace.Plays .zero (Trace.written before) entries ∧
        Trace.Offends (before.length + 1) (Trace.lastTime .zero entries) line stop ∧
        result.ending = endOfStop stop ∧
        (¬ Trace.MissesLevel line ∧ result.status = 2 ∧
            (∃ reason : String, stop = .complaint s!"line {before.length + 1}: {reason}") ∨
          Trace.MissesLevel line ∧ result.status = 1 ∧ ∃ cause, stop = .fault (.number cause))) ∧
    (read.2 = none ∧
        List.Forall₂ Trace.Tells (Trace.written lines) (read.1.map TraceRecord.entry) ∨
      ∃ before line after fault, lines = before ++ line :: after ∧
        List.Forall₂ Trace.Tells (Trace.written before) (read.1.map TraceRecord.entry) ∧
        read.2 = some fault ∧ Trace.Faulty (before.length + 1) line fault ∧
        (¬ Trace.MissesLevel line ∧
            (∃ reason : String, fault.stop = .complaint s!"line {before.length + 1}: {reason}") ∨
          Trace.MissesLevel line ∧ ∃ cause, fault.stop = .fault (.number cause))) := by
  intro result lines read
  constructor
  · obtain ⟨settings, sink, hvalid, hcommitted, hopened⟩ := opened_of_configure hraised
    have hformat := Logger.hasStandardFormat_build hvalid sink
    have hshows : (gate.build settings sink).ShowsOwnClock := fun _ => ⟨rfl, rfl⟩
    obtain ⟨-, hending⟩ := replayTrace_eq platform moments hformat hshows _ hopened.takes s.toList
      hshort
    have hrun : result = _ :=
      run_of_configured moments hread hhelp hrequest hdiagnostics hraised hcommitted
    rw [htrace] at hrun
    have hended : result.ending = endOfReplay (Trace.stop? .zero (Trace.readLines 1 lines)) := by
      rw [hrun]
      exact hending
    rcases Trace.first_offence 1 .zero lines with
      ⟨hstop, hplays⟩ | ⟨before, line, after, entries, stop, hlines, hplays, hstop, hoffends⟩
    · rw [hstop] at hended
      exact .inl ⟨hplays, hended, by simp [Result.status, hended, endOfReplay]⟩
    · rw [hstop] at hended
      rw [Nat.add_comm] at hoffends
      refine .inr ⟨before, line, after, entries, stop, hlines, hplays, hoffends, hended, ?_⟩
      rcases hoffends.reports with ⟨hreads, reason, rfl⟩ | ⟨hmisses, cause, rfl⟩
      · exact .inl ⟨hreads, by simp [Result.status, hended, endOfReplay, endOfStop], reason, rfl⟩
      · exact .inr ⟨hmisses, by simp [Result.status, hended, endOfReplay, endOfStop], cause, rfl⟩
  · rcases Trace.first_fault 1 lines with
      hall | ⟨before, line, after, fault, hlines, htells, hfault, hfaulty⟩
    · exact .inl hall
    · rw [Nat.add_comm] at hfaulty
      exact .inr ⟨before, line, after, fault, hlines, htells, hfault, hfaulty, hfaulty.reports⟩

/-- A trace with a blank line and a time that goes back. -/
theorem complains_of_first_bad_line_of_late_line :
    let s := "1 INFO x\n\n0.5 INFO late\n"
    let result := run .standard {} (fun _ => {}) ["-"] [] (Text.encode s.toList) {}
    ∃ before line after, Text.lines s.toList = before ++ line :: after ∧
      ¬ Trace.MissesLevel line ∧
      (∃ reason : String, result.ending =
        .complained (.complaint s!"line {before.length + 1}: {reason}")) ∧
      result.errorOutput = "INFO\tx\nUsage: cli replay [OPTIONS] TRACE\n" ++
        "Try 'cli replay --help' for help.\n\n" ++
        "Error: line 3: Virtual time cannot go backwards: 0.5 < 1.0\n" := by
  intro s result
  have hrequest : Request.ofArguments .standard ({} : Platform).directory {} [] ⟨[], ["-"]⟩ =
      .ok ⟨.standardInput, "INFO", "level;message", false, none, "WARNING"⟩ := rfl
  have hshort : Value.IsShort (s.toList.length : Int) := Value.isShort_of_lt (by decide)
  have hstatus : result.status = 2 := by decide +kernel
  have herror : result.errorOutput = "INFO\tx\nUsage: cli replay [OPTIONS] TRACE\n" ++
      "Try 'cli replay --help' for help.\n\n" ++
      "Error: line 3: Virtual time cannot go backwards: 0.5 < 1.0\n" := by decide +kernel
  obtain ⟨⟨-, -, hzero⟩ | ⟨before, line, after, entries, stop, hlines, -, -, hended, hends⟩, -⟩ :=
    complains_of_first_bad_line (fun _ => {})
      (show OptionReader.standard.arguments ["-"] = .ok ⟨[], ["-"]⟩ from rfl) rfl
      hrequest rfl rfl (show traceBytes (Text.encode s.toList) _ .standardInput =
        Text.encode s.toList from rfl) hshort
  · rw [show result.status = 0 from hzero] at hstatus
    simp at hstatus
  · refine ⟨before, line, after, hlines, ?_⟩
    rcases hends with ⟨hreads, -, reason, rfl⟩ | ⟨-, hone, -⟩
    · exact ⟨hreads, ⟨reason, hended⟩, herror⟩
    · rw [show result.status = 1 from hone] at hstatus
      simp at hstatus

/-- A digit without a value in place of a level ends the command with a fault: it neither succeeds
nor complains. -/
theorem fails_on_superscript :
    let result := run .standard {} (fun _ => {}) ["-"] [] (Text.encode "0 ² x\n".toList) {}
    Request.ofArguments .standard ({} : Platform).directory {} [] ⟨[], ["-"]⟩ =
        .ok ⟨.standardInput, "INFO", "level;message", false, none, "WARNING"⟩ ∧
      (configuration {} ⟨.standardInput, "INFO", "level;message", false, none, "WARNING"⟩
        {}).raised = none ∧
      result.status = 1 ∧ (∀ fault, result.ending ≠ .complained fault) ∧
      result.errorOutput = "" := by
  intro result
  have hstatus : result.status = 1 := by decide +kernel
  refine ⟨rfl, rfl, hstatus, fun fault hended => ?_, by decide +kernel⟩
  simp [Result.status, hended] at hstatus

end

end Replay

end TraceLog
