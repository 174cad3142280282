import TraceLog.Replay
import TraceLog.Proofs.Decoding
import TraceLog.Proofs.Entries
import TraceLog.Proofs.Formatting

/-!
# Replayed Traces

What the command writes is settled by what the lines of the trace say. `Logger.linesOf` has the
lines of entries: those whose level passes, numbered among themselves, each at its own time. A
trace is replayed up to the first line that does not play (`Trace.Plays`): the lines of the
entries in front of it have been written by then, and nothing else is.

Nor does the command ever end because a record cannot be formatted, whatever bytes it is given
for a trace.

## Main results

* `Replay.logRecords_of_takes`: records that are logged one after the other.
* `Replay.replayTrace_encode`: a trace that is a text.
* `Replay.replayTrace_ne_aborted`: a trace of any bytes.
-/

namespace TraceLog

open Number

/-- With one sink, its stream has a line once, and no other stream has it. -/
theorem Sink.repeated_behind_singleton (sink : Sink) (handle : Handle) (s : String) :
    repeated (Sink.behind [sink] handle) s = if handle = sink.handle then s else "" := by
  rw [repeated_behind_cons]
  exact String.append_empty

/-- What is received may be told in other words. -/
theorem Outlets.Receives.congr {outlets outlets' : Outlets} {received received' : Handle → String}
    (h : outlets.Receives received outlets') (heq : ∀ handle, received handle = received' handle) :
    outlets.Receives received' outlets' :=
  funext heq ▸ h

/-! ### Records one after the other -/

/-- The lines of entries that are logged one after the other, each at a moment of its own, from
these numbers of the entry and of the record on: those of the entries whose level passes. -/
def Logger.linesOf (logger : Logger) (moments : Nat → Moment) (first sequence : Nat)
    (entries : List TraceEntry) : List String :=
  ((entries.zipIdx first).filter fun (entry, _) => logger.Passes entry.level).mapIdx
    fun k (entry, n) =>
      logger.lineAt (sequence + k) entry.time entry.level entry.message (Replay.site (moments n))

namespace Replay

variable {platform : Platform} {logger : Logger} {sink : Sink} {sequence : Nat}
  {time : Binary64} {entry : TraceEntry} {entries : List TraceEntry} {record : TraceRecord}
  {records : List TraceRecord} {scene : Scene} {readings : Nat} {moments : Nat → Moment}

/-- An entry whose level passes has the first line. -/
theorem linesOf_cons_of_passes (h : logger.Passes entry.level) (moments : Nat → Moment)
    (first sequence : Nat) (entries : List TraceEntry) :
    logger.linesOf moments first sequence (entry :: entries) =
      logger.lineAt sequence entry.time entry.level entry.message (Replay.site (moments first)) ::
        logger.linesOf moments (first + 1) (sequence + 1) entries := by
  rw [Logger.linesOf, List.zipIdx_cons, List.filter_cons_of_pos (by simpa using h),
    List.mapIdx_cons]
  simp only [Nat.add_zero, Logger.linesOf, Nat.add_assoc, Nat.add_comm 1]

/-- An entry whose level does not pass has no line. -/
theorem linesOf_cons_of_not_passes (h : ¬ logger.Passes entry.level) (moments : Nat → Moment)
    (first sequence : Nat) (entries : List TraceEntry) :
    logger.linesOf moments first sequence (entry :: entries) =
      logger.linesOf moments (first + 1) sequence entries := by
  rw [Logger.linesOf, List.zipIdx_cons, List.filter_cons_of_neg (by simpa using h)]
  rfl

/-- The place that records are logged from is shown. -/
theorem shown_site (moment : Moment) : (Replay.site moment).Shown "replay" "106" :=
  ⟨rfl, Value.text?_of_isShort (Value.isShort_of_lt (by decide))⟩

/-- The call that a record is logged with. -/
def callOf (record : TraceRecord) : Logger.Call :=
  .printLine (.text record.message) (.int record.level)

/-- The call of a record comes to its level and its message, if the level passes. -/
theorem outcome_callOf (logger : Logger) (h : Level.lowest ≤ record.level) :
    logger.outcome (callOf record) =
      .ok (if logger.Passes record.level then some (record.level, record.message) else none) := by
  have hlevel : Level.parse (.int record.level) = .ok record.level := by
    rw [Level.parse, if_neg (Int.not_lt.mpr h)]
  simp only [Logger.outcome, callOf, Logger.resolveLevel, hlevel]
  rfl

/-- What a logger can do with a record whose level is one of those that texts mean. -/
theorem does_callOf (platform : Platform) (logger : Logger) (site : CallSite) (scene : Scene)
    (h : Level.lowest ≤ record.level) :
    logger.Does platform (callOf record) site scene
      (.ok (if logger.Passes record.level then some (record.level, record.message) else none)) := by
  rw [← outcome_callOf logger h]
  exact logger.does_outcome platform _ site scene

/-- A record whose level does not pass leaves everything as it is. -/
theorem call_of_not_passes (platform : Platform) (logger : Logger) (site : CallSite) (scene : Scene)
    (hlevel : Level.lowest ≤ record.level) (h : ¬ logger.Passes record.level) :
    logger.call platform (callOf record) site scene = (logger, scene, .returned) := by
  have hdoes := does_callOf platform logger site scene hlevel
  rw [if_neg h] at hdoes
  cases hdoes with
  | dropped hcall => exact hcall

/-- A record whose level passes is received by the sink as the line of its entry. -/
theorem call_of_passes (platform : Platform) (logger : Logger) (moment : Moment) (scene : Scene)
    (hclock : scene.clock = some ⟨.manual time, readings⟩) (hformat : logger.HasStandardFormat)
    (hshows : logger.ShowsOwnClock) (hsinks : logger.sinks = [sink])
    (htakes : ∀ s, sink.Takes s scene.outlets)
    (hsequence : Value.IsShort (logger.nextSequence : Int))
    (hlevel : Level.lowest ≤ record.level) (hshort : Value.IsShort record.level)
    (h : logger.Passes record.level) :
    ∃ outlets readings',
      logger.call platform (callOf record) (Replay.site moment) scene =
        ({ logger with nextSequence := logger.nextSequence + 1 },
          { scene with outlets, clock := some ⟨.manual time, readings'⟩ }, .returned) ∧
      scene.outlets.Receives (fun handle => if handle = sink.handle then
        logger.lineAt logger.nextSequence time record.level record.message (Replay.site moment)
        else "") outlets := by
  have hdoes := does_callOf platform logger (Replay.site moment) scene hlevel
  rw [if_pos h] at hdoes
  cases hdoes with
  | emits hpasses _ hmessage hcall =>
      obtain ⟨outlets, readings', hemit, hreceives⟩ := Logger.emit_of_takes platform hformat hshows
        hclock (by rw [hsinks]; simpa using htakes _) hpasses hshort hmessage hsequence
        (shown_site moment)
      refine ⟨outlets, readings', hcall.trans hemit, ?_⟩
      simp only [hsinks, Sink.repeated_behind_singleton] at hreceives
      exact hreceives

/-- A manual clock is set to a time that does not go back. -/
theorem set_of_not_lt (h : record.time.lt time = false) (readings : Nat) :
    (⟨.manual time, readings⟩ : Clock).set (.real record.time) =
      .ok ⟨.manual record.time, readings⟩ := by
  simp only [Clock.set, Clock.moveTo, Value.toReal_real]
  exact if_neg (by simp [h])

/-- A manual clock refuses a time that goes back. -/
theorem set_of_lt (h : record.time.lt time = true) (readings : Nat) :
    (⟨.manual time, readings⟩ : Clock).set (.real record.time) =
      .error (.timeBackwards record.time.shortText time.shortText) := by
  simp only [Clock.set, Clock.moveTo, Value.toReal_real]
  exact if_pos h

/-- A record that is logged is followed by the rest. -/
theorem logRecords_cons {clock clock' : Clock} {logger' : Logger} {scene' : Scene}
    (hset : clock.set (.real record.time) = .ok clock')
    {count : Nat}
    (hcall : logger.call platform (callOf record) (Replay.site (moments count))
      { scene with clock := some clock' } = (logger', scene', .returned))
    (records : List TraceRecord) :
    logRecords platform moments (record :: records) logger clock scene count =
      logRecords platform moments records logger' (scene'.clock.getD clock') scene'
        (count + 1) := by
  rw [callOf] at hcall
  simp only [logRecords, hset, hcall]

/-- How the logging of records ends: all of them were logged, or it was stopped. -/
def logged (count : Nat) : Option Stop → Except End Nat
  | none => .ok count
  | some stop => .error (endOfStop stop)

/-- **Records are logged one after the other, up to the first whose time goes back**: the sink has
received the lines of those in front of it, and nothing else. -/
theorem logRecords_of_takes (platform : Platform) (moments : Nat → Moment) {base : Logger}
    (hformat : base.HasStandardFormat) (hshows : base.ShowsOwnClock)
    (hlevels : ∀ record ∈ records, Level.lowest ≤ record.level ∧ Value.IsShort record.level)
    (sequence : Nat) (time : Binary64) (readings : Nat) (scene : Scene) (count : Nat)
    (htakes : ∀ s, sink.Takes s scene.outlets)
    (hshort : Value.IsShort ((sequence + records.length : Nat) : Int)) :
    let outcome := logRecords platform moments records
      { base with sinks := [sink], nextSequence := sequence } ⟨.manual time, readings⟩ scene count
    scene.outlets.Receives (fun handle => if handle = sink.handle then
        String.join (base.linesOf moments count sequence
          ((Trace.inOrder time records).map TraceRecord.entry)) else "") outcome.1.outlets ∧
      outcome.2 = logged (count + records.length) (Trace.lateStop? time records) := by
  -- the sink takes what comes later, whatever it has received by then
  induction records generalizing sequence time readings scene count with
  | nil =>
      exact ⟨(Outlets.Receives.refl scene.outlets).congr fun handle => (ite_self _).symm, rfl⟩
  | cons record records ih =>
      obtain ⟨⟨hlevel, hlevelShort⟩, hrest⟩ := List.forall_mem_cons.mp hlevels
      have hlater : Value.IsShort ((sequence + 1 + records.length : Nat) : Int) :=
        Value.isShort_of_le (by rw [List.length_cons]; omega) hshort
      rw [List.length_cons, Nat.add_comm records.length, ← Nat.add_assoc]
      rcases horder : record.time.lt time with - | -
      · rw [Trace.inOrder_cons_of_not_lt horder, List.map_cons,
          Trace.lateStop?_cons_of_not_lt horder]
        by_cases hpasses : base.Passes record.level
        · obtain ⟨outlets, readings', hcall, hreceives⟩ := call_of_passes platform
            { base with sinks := [sink], nextSequence := sequence } (moments count)
            { scene with clock := some ⟨.manual record.time, readings⟩ } rfl
            ⟨hformat.names, hformat.fields⟩ hshows rfl htakes
            (Value.isShort_of_le (Nat.le_add_right _ _) hshort) hlevel hlevelShort hpasses
          obtain ⟨hreceives', hlogged⟩ := ih hrest (sequence + 1) record.time readings'
            { scene with outlets, clock := some ⟨.manual record.time, readings'⟩ } (count + 1)
            (fun s => (htakes s).received hreceives) hlater
          rw [logRecords_cons (set_of_not_lt horder readings) hcall,
            linesOf_cons_of_passes (show base.Passes record.entry.level from hpasses)]
          refine ⟨?_, hlogged⟩
          refine Outlets.Receives.congr (hreceives.trans hreceives') fun handle => ?_
          split
          · rw [String.join_cons]
            rfl
          · rw [String.append_empty]
        · have hcall := call_of_not_passes platform
            { base with sinks := [sink], nextSequence := sequence } (Replay.site (moments count))
            { scene with clock := some ⟨.manual record.time, readings⟩ } hlevel hpasses
          obtain ⟨hreceives, hlogged⟩ := ih hrest sequence record.time readings
            { scene with clock := some ⟨.manual record.time, readings⟩ } (count + 1) htakes
            (Value.isShort_of_le (by omega) hlater)
          rw [logRecords_cons (set_of_not_lt horder readings) hcall,
            linesOf_cons_of_not_passes (show ¬ base.Passes record.entry.level from hpasses)]
          exact ⟨hreceives, hlogged⟩
      · rw [Trace.inOrder_cons_of_lt horder, Trace.lateStop?_cons_of_lt horder]
        simp only [logRecords, set_of_lt horder]
        exact ⟨(Outlets.Receives.refl scene.outlets).congr fun handle => (ite_self _).symm, rfl⟩

/-! ### Traces -/

/-- What is read of a text, whatever the blocks are that it arrives in. -/
theorem readBytes_encode (s : List Char) :
    Trace.readBytes (Text.encode s) = ((Trace.readLines 1 (Text.lines s)).1,
      (Trace.readLines 1 (Text.lines s)).2.map TraceFault.stop) := by
  simp only [Trace.readBytes, Text.decodeBlocks_encode]

/-- There are no more records in a file than bytes, and each is what a line says. -/
theorem records_readBytes (bytes : List UInt8) :
    (Trace.readBytes bytes).1.length ≤ bytes.length ∧
      ∀ record ∈ (Trace.readBytes bytes).1, ∃ line, Trace.Tells line record.entry := by
  have hdecoded := Text.length_decodeBlocks Trace.blockSize [] bytes
  rw [List.length_nil, Nat.zero_add] at hdecoded
  rcases hread : Text.decodeBlocks Trace.blockSize [] bytes with ⟨s, - | error⟩
  · rw [hread] at hdecoded
    obtain ⟨hlength, htells⟩ := Trace.records_readLines 1 (Text.lines s)
    simp only [Trace.readBytes, hread]
    exact ⟨hlength.trans ((Text.length_lines s).trans hdecoded), htells⟩
  · rw [hread] at hdecoded
    obtain ⟨hlength, htells⟩ := Trace.records_readLines 1 (Text.endedLines s)
    simp only [Trace.readBytes, hread]
    exact ⟨hlength.trans ((Text.length_endedLines s).trans hdecoded), htells⟩

/-- The levels of records that are read are such as texts mean. -/
theorem levels_readBytes (bytes : List UInt8) : ∀ record ∈ (Trace.readBytes bytes).1,
    Level.lowest ≤ record.level ∧ Value.IsShort record.level := by
  intro record hmem
  obtain ⟨line, htells⟩ := (records_readBytes bytes).2 record hmem
  exact htells.level

/-- How a replay of lines ends of which this part at the front plays. -/
inductive Played (front lines : List (List Char)) : End → Prop
  | all : front = lines → Played front lines .completed
  | stopped {stop : Stop} : front ≠ lines → Played front lines (endOfStop stop)

/-- How a replay ends that is stopped like this, or is not. -/
def endOfReplay : Option Stop → End
  | none => .completed
  | some stop => endOfStop stop

/-- What a replay comes to of what was read of the trace: the sink has received the lines of the
records in order, and the run was stopped by what comes behind them. -/
theorem replayTrace_eq (platform : Platform) (moments : Nat → Moment) {base : Logger}
    (hformat : base.HasStandardFormat) (hshows : base.ShowsOwnClock) (scene : Scene)
    (htakes : ∀ s, sink.Takes s scene.outlets) (s : List Char)
    (hshort : Value.IsShort (s.length : Int)) :
    let outcome := replayTrace platform moments { base with sinks := [sink], nextSequence := 0 }
      (Clock.manual .zero) (Text.encode s) scene
    let read := Trace.readLines 1 (Text.lines s)
    scene.outlets.Receives (fun handle => if handle = sink.handle then
        String.join (base.linesOf moments 0 0 ((Trace.inOrder .zero read.1).map TraceRecord.entry))
        else "") outcome.1.outlets ∧
      outcome.2 = endOfReplay (Trace.stop? .zero read) := by
  have hlevels := levels_readBytes (Text.encode s)
  rw [readBytes_encode] at hlevels
  have hlength := (Trace.records_readLines 1 (Text.lines s)).1.trans (Text.length_lines s)
  simp only [replayTrace, readBytes_encode]
  generalize Trace.readLines 1 (Text.lines s) = read at hlevels hlength
  obtain ⟨hreceives, hlogged⟩ := logRecords_of_takes platform moments hformat hshows hlevels 0 .zero
    0 scene 0 htakes (Value.isShort_of_le (by rw [Nat.zero_add]; exact hlength) hshort)
  rw [← Clock.manual] at hreceives hlogged
  rw [Trace.stop?]
  rcases hlog : logRecords platform moments read.1 { base with sinks := [sink], nextSequence := 0 }
    (Clock.manual .zero) scene 0 with ⟨scene', ending⟩
  rw [hlog] at hreceives hlogged
  obtain rfl : ending = _ := hlogged
  rcases Trace.lateStop? .zero read.1 with - | stop
  · rcases read.2 with - | fault
    · exact ⟨hreceives, rfl⟩
    · exact ⟨hreceives, rfl⟩
  · exact ⟨hreceives, rfl⟩

/-- **A trace is replayed up to the first line that does not play**: the sink has received the
lines of the entries in front of it, and nothing else. -/
theorem replayTrace_encode (platform : Platform) (moments : Nat → Moment) {base : Logger}
    (hformat : base.HasStandardFormat) (hshows : base.ShowsOwnClock) (scene : Scene)
    (htakes : ∀ s, sink.Takes s scene.outlets) (s : List Char)
    (hshort : Value.IsShort (s.length : Int)) :
    let outcome := replayTrace platform moments { base with sinks := [sink], nextSequence := 0 }
      (Clock.manual .zero) (Text.encode s) scene
    let lines := Trace.written (Text.lines s)
    ∃ front entries, Trace.LongestPlayed .zero lines front entries ∧
      scene.outlets.Receives (fun handle => if handle = sink.handle then
        String.join (base.linesOf moments 0 0 entries) else "") outcome.1.outlets ∧
      Played front lines outcome.2 := by
  intro outcome lines
  obtain ⟨front, hlongest, hall⟩ := Trace.longest_readLines 1 .zero (Text.lines s)
  obtain ⟨hreceives, hending⟩ :=
    replayTrace_eq platform moments hformat hshows scene htakes s hshort
  refine ⟨front, _, hlongest, hreceives, ?_⟩
  rw [← Trace.stop?_eq_none_iff] at hall
  rw [show outcome.2 = _ from hending]
  rcases hstop : Trace.stop? .zero (Trace.readLines 1 (Text.lines s)) with - | stop
  · exact .all (hall.mpr hstop)
  · exact .stopped fun hfront => by simp [hall.mp hfront] at hstop

/-! ### Traces of any bytes -/

/-- A clock that was set is a manual one. -/
theorem source_of_set {clock clock' : Clock} {v : Value} (h : clock.set v = .ok clock') :
    ∃ time, clock'.source = .manual time := by
  rw [Clock.set] at h
  split at h
  · obtain ⟨time, -, hmove⟩ := bind_eq_ok.mp h
    exact ⟨time, Clock.source_of_moveTo hmove⟩
  · simp at h
  · simp at h

/-- No record that is logged ends the process, whatever clock and sinks there are. -/
theorem logRecords_ne_aborted (platform : Platform) (moments : Nat → Moment) {base : Logger}
    (hformat : base.HasStandardFormat) (hshows : base.ShowsOwnClock)
    (hlevels : ∀ record ∈ records, Value.IsShort record.level) (sinks : List Sink)
    (sequence : Nat) (clock : Clock) (scene : Scene) (count : Nat)
    (hshort : Value.IsShort ((sequence + records.length : Nat) : Int)) (fault : FormattingFault) :
    (logRecords platform moments records { base with sinks, nextSequence := sequence } clock scene
      count).2 ≠ .error (.aborted fault) := by
  induction records generalizing sequence clock scene count with
  | nil => simp [logRecords]
  | cons record records ih =>
      obtain ⟨hlevel, hrest⟩ := List.forall_mem_cons.mp hlevels
      rcases hset : clock.set (.real record.time) with fault | clock'
      · simp [logRecords, hset]
      obtain ⟨time, hmanual⟩ := source_of_set hset
      have hwritable : (Step.log (callOf record) (Replay.site (moments count))).IsWritable :=
        ⟨by rintro n ⟨⟩; exact hlevel, _, _, shown_site (moments count)⟩
      have hclock : Logger.CanShowTime { base with sinks, nextSequence := sequence }
          { scene with clock := some clock' } :=
        fun _ => ⟨time, clock'.readings, by rw [← hmanual]⟩
      have hformat' : Logger.HasStandardFormat { base with sinks, nextSequence := sequence } :=
        ⟨hformat.names, hformat.fields⟩
      obtain ⟨hcall, next, hnext, hnumbered⟩ := Logger.unfailed_call platform hformat' hshows
        hclock (Value.isShort_of_le (Nat.le_add_right _ _) hshort) hwritable
      rcases hdone : Logger.call platform { base with sinks, nextSequence := sequence }
        (callOf record) (Replay.site (moments count)) { scene with clock := some clock' } with
        ⟨logger, scene', ending⟩
      rw [hdone] at hcall hnumbered
      rcases ending with - | raised | aborted
      · rw [logRecords_cons hset hdone, show logger = _ from hnumbered]
        have hlater : next + records.length ≤ sequence + (record :: records).length := by
          rw [List.length_cons]
          simp only at hnext
          omega
        exact ih hrest next _ scene' (count + 1) (Value.isShort_of_le hlater hshort)
      · rw [callOf] at hdone
        simp [logRecords, hset, hdone]
      · exact absurd rfl (hcall.goesOn aborted)

/-- **No trace ends the process**, whatever bytes it has. -/
theorem replayTrace_ne_aborted (platform : Platform) (moments : Nat → Moment) {logger : Logger}
    (hformat : logger.HasStandardFormat) (hshows : logger.ShowsOwnClock)
    (hsequence : logger.nextSequence = 0) (clock : Clock) (scene : Scene) (bytes : List UInt8)
    (hshort : Value.IsShort (bytes.length : Int)) (fault : FormattingFault) :
    (replayTrace platform moments logger clock bytes scene).2 ≠ .aborted fault := by
  have hlevels := levels_readBytes bytes
  have hlength := (records_readBytes bytes).1
  simp only [replayTrace]
  generalize Trace.readBytes bytes = read at hlevels hlength
  have hrecords := logRecords_ne_aborted platform moments hformat hshows
    (fun record hmem => (hlevels record hmem).2) logger.sinks 0 clock scene 0
    (Value.isShort_of_le (by omega) hshort) fault
  have hsame : { logger with nextSequence := 0 } = logger := by rw [← hsequence]
  rw [hsame] at hrecords
  rcases hlog : logRecords platform moments read.1 logger clock scene 0 with
    ⟨scene', ending | count⟩
  · rw [hlog] at hrecords
    exact fun haborted => hrecords (congrArg Except.error haborted)
  · rcases read.2 with - | complaint | fault
    · simp
    · simp [endOfStop]
    · simp [endOfStop]

end Replay

end TraceLog
