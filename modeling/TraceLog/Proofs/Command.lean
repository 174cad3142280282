import TraceLog.Proofs.Logging
import TraceLog.Proofs.Replaying
import TraceLog.Proofs.Retry

/-!
# The Replay Command

What the whole command does, from its arguments to its exit status. The configuration opens the
console or an empty log file; the trace is read after that. `Replay.received_run` tells what the
log has received and when the command succeeds, by what the lines of the trace say alone, and
`Replay.run_ne_aborted` that the command never ends because a record cannot be formatted.

## Main results

* `Replay.opened_of_configure`: what a configuration that succeeds leaves to the replay.
* `Replay.received_run`: the log of a command, and its exit status.
* `Replay.run_ne_aborted`: a command is never ended by its own records.
-/

namespace TraceLog

open Number

namespace Replay

/-- The scene that the command starts from. -/
def start (files : FileTree) : Scene :=
  { clock := some (Clock.manual .zero), outlets := { files } }

/-- The gate of the command. -/
def gate : Gate := { clock := .own }

/-- The configuration that the command makes. -/
def configuration (platform : Platform) (request : Request) (files : FileTree) : Attempt :=
  gate.configure platform (options request) [] (start files)

/-- The place of a log file. -/
def logPlace (platform : Platform) (path : String) : Place :=
  ((FilePath.ofText path).absolute platform.directory).parts

variable {platform : Platform} {request : Request} {files : FileTree} {sink : Sink}
  {outlets : Outlets}

/-! ### The configuration -/

/-- The sink that lines go to is open: that of the console, or that of a log file, which is
empty. -/
inductive Opened (platform : Platform) (request : Request) (files : FileTree) :
    Sink → Outlets → Prop
  | console : request.file = none → Opened platform request files ⟨.line, .console⟩ { files }
  | file {path : String} {handle : Handle} {outlets : Outlets} : request.file = some path →
      ({ files } : Outlets).openFile (logPlace platform path) = .ok (handle, outlets) →
      Opened platform request files ⟨.file, handle⟩ outlets

/-- Announcing a configuration writes to no stream. -/
theorem outlets_announce (settings : Settings) (scene : Scene) :
    (Gate.announce settings scene).1.outlets = scene.outlets := by
  rw [Gate.announce]
  split
  · rfl
  · rfl

/-- **A configuration that succeeds** commits the logger that its settings describe, and opens its
sink. -/
theorem opened_of_configure (h : (configuration platform request files).raised = none) :
    ∃ settings sink, gate.validate (options request) [] = .ok settings ∧
      (configuration platform request files).gate.committed = some (gate.build settings sink) ∧
      Opened platform request files sink (configuration platform request files).scene.outlets := by
  have houtcome := Gate.outcome_configure (show gate.committed = none from rfl) platform
    (options request) [] (start files)
  rw [← configuration] at houtcome
  generalize configuration platform request files = attempt at h houtcome
  cases houtcome with
  | invalid => simp at h
  | unopened => simp at h
  | unmuted => simp at h
  | @committed settings opened muted sink hvalid hopen hmute =>
      refine ⟨settings, sink, hvalid, rfl, ?_⟩
      rw [Gate.options_of_validate_nil hvalid] at hopen hmute
      obtain rfl : opened = muted := congrArg Prod.fst hmute
      have hopening := Gate.opening_openSink platform (options request) (start files)
      rw [hopen] at hopening
      rw [outlets_announce]
      cases hopening with
      | console hpath => exact .console (Option.map_eq_none_iff.mp hpath)
      | @file path handle outlets hpath _ hfile _ =>
          obtain ⟨text, hrequest, rfl⟩ := Option.map_eq_some_iff.mp hpath
          exact .file hrequest hfile

/-- Nothing has been reported when the sink is open. -/
theorem Opened.reports (h : Opened platform request files sink outlets) : outlets.reports = [] := by
  cases h with
  | console => rfl
  | file _ hopen => exact Outlets.reports_openFile hopen

/-- The sink takes every text. -/
theorem Opened.takes (h : Opened platform request files sink outlets) (s : String) :
    sink.Takes s outlets := by
  cases h with
  | console => exact ⟨by simp, ⟨.text "", false⟩, rfl, rfl⟩
  | @file path handle outlets _ hopen =>
      obtain ⟨rfl, -⟩ := Outlets.handle_openFile hopen
      refine ⟨by simp, ⟨.file (logPlace platform path) 0, false⟩, ?_, rfl⟩
      rw [Outlets.find?_openFile hopen, if_pos rfl]

/-- The configuration does not touch the trace, unless that is the log file. -/
theorem Opened.traceBytes (h : Opened platform request files sink outlets)
    (hdistinct : ∀ path, request.file = some path →
      request.trace ≠ .file (logPlace platform path)) (standardInput : List UInt8) :
    traceBytes standardInput outlets.files request.trace =
      traceBytes standardInput files request.trace := by
  cases h with
  | console => rfl
  | @file path handle outlets hfile hopen =>
      rcases htrace : request.trace with - | place
      · rfl
      · have hne : place ≠ logPlace platform path := by
          rintro rfl
          exact hdistinct path hfile htrace
        rw [Replay.traceBytes, Replay.traceBytes, Outlets.content?_openFile hopen, if_neg hne]

/-- What is in the log when this text was received by the sink: it is on standard error, or in the
file. -/
theorem Opened.received (h : Opened platform request files sink outlets) {outlets' : Outlets}
    {text : String}
    (hreceives : outlets.Receives (fun handle => if handle = sink.handle then text else "")
      outlets') :
    match request.file with
    | none => outlets'.errorText = text
    | some path => outlets'.errorText = "" ∧
        outlets'.files.content? (logPlace platform path) = some (Text.encode text.toList) := by
  have hreports : outlets'.reports = [] := hreceives.reports.trans h.reports
  cases h with
  | console hfile =>
      simp only [hfile]
      have hconsole : outlets'.find? .console = some ⟨.text text, false⟩ := by
        rw [hreceives.streams, if_pos rfl]
        show some (Stream.after text ⟨.text "", false⟩) = _
        simp only [Stream.after, Stream.receive, String.empty_append]
      exact Outlets.errorText_of_text hconsole hreports
  | @file path handle outlets hfile hopen =>
      obtain ⟨rfl, -⟩ := Outlets.handle_openFile hopen
      simp only [hfile]
      constructor
      · have hconsole : outlets'.find? .console = some ⟨.text "", false⟩ := by
          rw [hreceives.streams, if_neg (by simp), Outlets.find?_openFile hopen,
            if_neg (by simp)]
          rfl
        exact Outlets.errorText_of_text hconsole hreports
      · refine hreceives.files _ _ [] ?_ ?_ (fun other _ hne _ _ => if_neg hne) |>.trans ?_
        · rw [Outlets.find?_openFile hopen, if_pos rfl]
          rfl
        · rw [Outlets.content?_openFile hopen, if_pos rfl]
        · rw [if_pos rfl, List.nil_append]

/-! ### The command -/

section

variable {reader : OptionReader} {arguments : List String} {environment : Options.Variables}
  {standardInput : List UInt8} {given : Arguments} {s : String}

/-- A command whose configuration succeeds replays the trace. -/
theorem run_of_configured (moments : Nat → Moment)
    (hread : reader.arguments arguments = .ok given)
    (hhelp : given.asksForHelp = false)
    (hrequest : Request.ofArguments reader platform.directory files environment given =
      .ok request)
    (hdiagnostics : request.logLevel = "WARNING") {logger : Logger}
    (hraised : (configuration platform request files).raised = none)
    (hcommitted : (configuration platform request files).gate.committed = some logger) :
    let bytes := traceBytes standardInput
      (configuration platform request files).scene.outlets.files request.trace
    let outcome := replayTrace platform moments logger (Clock.manual .zero) bytes
      (configuration platform request files).scene
    run reader platform moments arguments environment standardInput files =
      { scene := outcome.1, diagnostics := ⟨30, 1, false⟩, ending := outcome.2 } := by
  have hlevel : Diagnostics.configure (.text request.logLevel) {} = .ok ⟨30, 1, false⟩ := by
    rw [hdiagnostics]
    rfl
  simp only [configuration, start, gate] at hraised hcommitted ⊢
  simp only [run, hread, hhelp, hrequest, perform, hlevel, hraised, hcommitted, Bool.false_eq_true,
    if_false]

/-- A replay succeeds when all lines play. -/
theorem Played.status_eq_zero_iff {front lines : List (List Char)} {result : Result}
    (h : Played front lines result.ending) : result.status = 0 ↔ front = lines := by
  rw [Result.status]
  generalize result.ending = ending at h ⊢
  cases h with
  | all hall => simp [hall]
  | @stopped stop hne =>
      cases stop with
      | complaint text => simp [endOfStop, hne]
      | fault fault => simp [endOfStop, hne]

/-- What stands behind the lines on standard error is a complaint, if anything does. -/
theorem exists_complaint (result : Result) :
    ∃ complaint, result.errorOutput = result.scene.outlets.errorText ++ complaint ∧
      (complaint ≠ "" → ∃ fault, result.ending = .complained fault ∧ complaint = fault.text) := by
  rw [Result.errorOutput]
  refine ⟨_, rfl, ?_⟩
  split
  · next fault hending => exact fun _ => ⟨fault, hending, rfl⟩
  · exact fun hne => absurd rfl hne

/-- **The log of a command, and its exit status.** Let any library read the command line and come to
a request. Let its configuration succeed, with the standard level of its diagnostics and a log file
other than the trace, and let the trace be a text. Take the longest part at the front of its lines
that plays, blank lines left out.

* The command succeeds exactly when these are all lines.
* The log file or, without one, standard error has received the lines of the entries of this part,
  each logged at the moment of its call, and nothing else. On standard error a complaint may stand
  behind them. -/
theorem received_run (moments : Nat → Moment) (hread : reader.arguments arguments = .ok given)
    (hhelp : given.asksForHelp = false)
    (hrequest : Request.ofArguments reader platform.directory files environment given =
      .ok request)
    (hdiagnostics : request.logLevel = "WARNING")
    (hraised : (configuration platform request files).raised = none)
    (htrace : traceBytes standardInput files request.trace = Text.encode s.toList)
    (hdistinct : ∀ path, request.file = some path →
      request.trace ≠ .file (logPlace platform path))
    (hshort : Value.IsShort (s.toList.length : Int)) :
    let result := run reader platform moments arguments environment standardInput files
    let lines := Trace.written (Text.lines s.toList)
    ∃ settings sink front entries, gate.validate (options request) [] = .ok settings ∧
      Trace.LongestPlayed .zero lines front entries ∧
      (result.status = 0 ↔ front = lines) ∧
      let text := String.join ((gate.build settings sink).linesOf moments 0 0 entries)
      match request.file with
      | none => ∃ complaint, result.errorOutput = text ++ complaint ∧
          (complaint ≠ "" → ∃ fault, result.ending = .complained fault ∧ complaint = fault.text)
      | some path => result.scene.outlets.errorText = "" ∧
          result.scene.outlets.files.content? (logPlace platform path) =
            some (Text.encode text.toList) := by
  intro result lines
  obtain ⟨settings, sink, hvalid, hcommitted, hopened⟩ := opened_of_configure hraised
  have hformat := Logger.hasStandardFormat_build hvalid sink
  have hshows : (gate.build settings sink).ShowsOwnClock := fun _ => ⟨rfl, rfl⟩
  obtain ⟨front, entries, hlongest, hreceives, hplayed⟩ := replayTrace_encode platform moments
    hformat hshows _ hopened.takes s.toList hshort
  have hrun : result = _ :=
    run_of_configured moments hread hhelp hrequest hdiagnostics hraised hcommitted
  rw [hopened.traceBytes hdistinct, htrace] at hrun
  refine ⟨settings, sink, front, entries, hvalid, hlongest, ?_, ?_⟩
  · refine Played.status_eq_zero_iff ?_
    rw [hrun]
    exact hplayed
  · have hreceived : (configuration platform request files).scene.outlets.Receives
        (fun handle => if handle = sink.handle then
          String.join ((gate.build settings sink).linesOf moments 0 0 entries) else "")
        result.scene.outlets := by
      rw [hrun]
      exact hreceives
    have hlog := hopened.received hreceived
    rcases hfile : request.file with - | path
    · simp only [hfile] at hlog ⊢
      obtain ⟨complaint, herror, hcomplaint⟩ := exists_complaint result
      refine ⟨complaint, ?_, hcomplaint⟩
      rw [herror, hlog]
    · simp only [hfile] at hlog ⊢
      exact hlog

/-- A trace with a blank line, a record below the threshold and a time that goes back, each record
in a process of its own. -/
theorem received_run_of_late_line :
    let s := "0.5 INFO 90% cpu\n\n1.5 FINEST x\n 2 ERROR bad \n1 INFO late\n"
    let files : FileTree := { files := [(["t"], Text.encode s.toList)] }
    let arguments := ["/t", "--file", "/out", "--clock-prefix", "--format",
      "process;sequence;message"]
    let moments : Nat → Moment := fun n => { process := UInt32.ofNat (n + 70) }
    let lines := Trace.written (Text.lines s.toList)
    let result := run .standard {} moments arguments [] [] files
    ∃ settings sink front entries, Trace.LongestPlayed .zero lines front entries ∧ front ≠ lines ∧
      let text := String.join ((gate.build settings sink).linesOf moments 0 0 entries)
      result.scene.outlets.files.content? ["out"] = some (Text.encode text.toList) ∧
      Text.encode text.toList = Text.encode "0.50\t70\t0\t90% cpu\n2.00\t72\t1\tbad \n".toList := by
  intro s files arguments moments lines result
  have hread : OptionReader.standard.arguments arguments = .ok
      ⟨[.file "/out", .clockPrefix true, .format "process;sequence;message"], ["/t"]⟩ := rfl
  have hrequest : Request.ofArguments .standard ({} : Platform).directory files []
      ⟨[.file "/out", .clockPrefix true, .format "process;sequence;message"], ["/t"]⟩ = .ok
        ⟨.file ["t"], "INFO", "process;sequence;message", true, some "/out", "WARNING"⟩ := rfl
  have hdistinct : ∀ path, some "/out" = some path →
      TraceSource.file ["t"] ≠ .file (logPlace {} path) := by
    rintro path ⟨⟩
    decide
  have hshort : Value.IsShort (s.toList.length : Int) := Value.isShort_of_lt (by decide)
  obtain ⟨settings, sink, front, entries, -, hlongest, hstatus, -, hlog⟩ :=
    received_run moments hread rfl hrequest rfl rfl (show traceBytes [] files (.file ["t"]) =
      Text.encode s.toList from rfl) hdistinct hshort
  refine ⟨settings, sink, front, entries, hlongest, fun hfront => ?_, hlog, ?_⟩
  · have hfailed : result.status = 2 := by decide +kernel
    rw [hstatus.mpr hfront] at hfailed
    simp at hfailed
  · have hfile : result.scene.outlets.files.content? ["out"] =
        some (Text.encode "0.50\t70\t0\t90% cpu\n2.00\t72\t1\tbad \n".toList) := by
      decide +kernel
    exact Option.some.inj (hlog.symm.trans hfile)

/-- No file is longer than before when the command has opened its log. -/
theorem Opened.length_traceBytes (h : Opened platform request files sink outlets) {bound : Nat}
    (hinput : standardInput.length ≤ bound)
    (hfiles : ∀ place content, files.content? place = some content → content.length ≤ bound)
    (trace : TraceSource) :
    (Replay.traceBytes standardInput outlets.files trace).length ≤ bound := by
  cases trace with
  | standardInput => exact hinput
  | file place =>
      have hcontent : ∀ content, outlets.files.content? place = some content →
          content.length ≤ bound := by
        intro content hthere
        cases h with
        | console => exact hfiles place content hthere
        | file _ hopen =>
            rw [Outlets.content?_openFile hopen] at hthere
            split at hthere
            · obtain rfl := Option.some.inj hthere
              exact Nat.zero_le bound
            · exact hfiles place content hthere
      rw [Replay.traceBytes]
      rcases hthere : outlets.files.content? place with - | content
      · exact Nat.zero_le bound
      · exact hcontent content hthere

/-- A configuration that fails does not end the process as a record does. -/
theorem endOfConfiguration_ne_aborted (fault : Fault) (aborted : FormattingFault) :
    endOfConfiguration fault ≠ .aborted aborted := by
  cases fault with
  | _ => simp [endOfConfiguration]

/-- A request is not ended by its own records. -/
theorem perform_ne_aborted (platform : Platform) (moments : Nat → Moment) (request : Request)
    {standardInput : List UInt8}
    {files : FileTree} {bound : Nat} (hinput : standardInput.length ≤ bound)
    (hfiles : ∀ place content, files.content? place = some content → content.length ≤ bound)
    (hshort : Value.IsShort (bound : Int)) (fault : FormattingFault) :
    (perform platform moments request standardInput files).ending ≠ .aborted fault := by
  rcases hlevel : Diagnostics.configure (.text request.logLevel) {} with refused | diagnostics
  · simp [perform, hlevel]
  rcases hraised : (configuration platform request files).raised with - | refused
  · obtain ⟨settings, sink, hvalid, hcommitted, hopened⟩ := opened_of_configure hraised
    have hlength := hopened.length_traceBytes hinput hfiles request.trace
    have hreplay := replayTrace_ne_aborted platform moments
      (Logger.hasStandardFormat_build hvalid sink) (fun _ => ⟨rfl, rfl⟩) rfl (Clock.manual .zero)
      (configuration platform request files).scene _
      (Value.isShort_of_le hlength hshort) fault
    simp only [configuration, start, gate] at hraised hcommitted hreplay
    simp only [perform, hlevel, hraised, hcommitted]
    exact hreplay
  · simp only [configuration, start, gate] at hraised
    simp only [perform, hlevel, hraised]
    exact endOfConfiguration_ne_aborted refused fault

/-- **The command never ends because a record cannot be formatted**, whatever its arguments, its
variables and its trace are, and whatever library reads them. -/
theorem run_ne_aborted (reader : OptionReader) (platform : Platform) (moments : Nat → Moment)
    (arguments : List String)
    (environment : Options.Variables) {standardInput : List UInt8} {files : FileTree} {bound : Nat}
    (hinput : standardInput.length ≤ bound)
    (hfiles : ∀ place content, files.content? place = some content → content.length ≤ bound)
    (hshort : Value.IsShort (bound : Int)) (fault : FormattingFault) :
    (run reader platform moments arguments environment standardInput files).ending ≠
      .aborted fault := by
  rw [run]
  split
  · simp
  split
  · simp
  split
  · simp
  · simp
  · exact perform_ne_aborted platform moments _ hinput hfiles hshort fault

end

end Replay

/-! ### All records -/

namespace Session

variable {session : Session} {owner : Owner} {gate : Gate} {options : Options}
  {overrides : Table String Value} {settings : Settings} {sink : Sink} {steps : List Step}

/-- **No record that is logged fails to be formatted.** Take a session with a logger as a gate
builds it, whatever the format, the threshold, the name and the failure policy are, beside a manual
clock if lines start with the time. Take any run of logging calls, sinks, clock moves and further
configurations of the gate, whatever the streams do.

* No failure is noted, and all faults that are noted are faults of streams: the failure policy is
  never asked.
* No step ends the process.

Nor does the command that replays traces end so, whatever it is given. -/
theorem formatted_run (hsettings : gate.validate options overrides = .ok settings)
    (hfirst : session.first = some owner)
    (hlogger : session.logger = .ok (gate.build settings sink))
    (hclock : (gate.build settings sink).CanShowTime session.scene)
    (hshows : (gate.build settings sink).ShowsOwnClock)
    (hsteps : ∀ step ∈ steps, step.concerns owner = true ∧ step.IsWritable)
    (hshort : Value.IsShort (steps.length : Int)) :
    ((session.final steps).scene.failures = session.scene.failures ∧
      ∃ faults : List StreamFault, (session.final steps).scene.sinkFaults =
        session.scene.sinkFaults ++ faults.map Fault.stream) ∧
    (∀ entry ∈ session.run steps, ∀ fault, entry.2 ≠ .aborted fault) ∧
    ∀ reader platform moments arguments environment standardInput files bound,
      standardInput.length ≤ bound →
      (∀ place content, FileTree.content? files place = some content → content.length ≤ bound) →
      Value.IsShort (bound : Int) →
      ∀ fault, (Replay.run reader platform moments arguments environment standardInput
        files).ending ≠ .aborted fault := by
  have hcan : CanFormat owner (gate.build settings sink) 0 session :=
    ⟨hfirst, ⟨[sink], 0, Nat.le_refl 0, hlogger⟩, hclock⟩
  obtain ⟨hformatted, hgoes⟩ := hcan.run (Logger.hasStandardFormat_build hsettings sink) hshows
    (by rw [Nat.zero_add]; exact hshort) hsteps
  exact ⟨⟨hformatted.failures, hformatted.faults⟩, hgoes,
    fun reader platform moments arguments environment _ _ _ =>
      Replay.run_ne_aborted reader platform moments arguments environment⟩

/-- Percent signs in a message and in a template, a sink that fails, a level of its own, and a call
in another process. -/
theorem formatted_run_of_failing_sink :
    let site : CallSite := { file := "d.py", function := .text "f", line := .int 1 }
    let forked : CallSite := { site with moment := { process := 4000000000 } }
    let steps : List Step :=
      [.log (.print (.text "100%") .null) site, .attach "broken" (.failing false .recursion),
        .setClock (.int 1), .log (.printf (.int 77) (.text "%s%%") [.int 7]) forked]
    (timed.final steps).scene.failures = [] ∧
      (∀ entry ∈ timed.run steps, ∀ fault, entry.2 ≠ .aborted fault) ∧
      ∀ moments fault, (Replay.run .standard {} moments ["-"] [] (Text.encode "1 INFO 100%".toList)
        {}).ending ≠ .aborted fault := by
  intro site forked steps
  have hone : Value.IsShort (1 : Int) := Value.isShort_of_lt (by decide)
  have hline := Value.text?_of_isShort hone
  have hsite : ∃ function line, site.Shown function line := ⟨"f", "1", rfl, hline⟩
  have hforked : ∃ function line, forked.Shown function line := ⟨"f", "1", rfl, hline⟩
  have hnull : Value.null.IsShortLevel := by
    rintro n ⟨⟩
  have hlevel : (Value.int 77).IsShortLevel := by
    rintro n ⟨⟩
    exact Value.isShort_of_lt (by decide)
  have hsteps : ∀ step ∈ steps, step.concerns .host = true ∧ step.IsWritable := by
    simp [steps, Step.concerns, Step.IsWritable, hsite, hforked, hnull, hlevel, Logger.Call.level]
  have hvalid : Gate.validate { clock := .own }
      { clockPrefix := .bool true, format := .text "sequence;message" } [] = .ok _ := rfl
  obtain ⟨⟨hfailures, -⟩, hgoes, hcommand⟩ := formatted_run hvalid
    (show timed.first = some .host from rfl) (show timed.logger = .ok _ from rfl)
    (fun _ => ⟨.zero, 0, rfl⟩) (fun _ => ⟨rfl, rfl⟩) hsteps (Value.isShort_of_lt (by decide))
  refine ⟨hfailures, hgoes, fun moments => hcommand .standard {} moments ["-"] [] _ {} 100
    (by decide) ?_ (Value.isShort_of_lt (by decide))⟩
  intro place content hthere
  simp [FileTree.content?, Table.find?] at hthere

end Session

end TraceLog
