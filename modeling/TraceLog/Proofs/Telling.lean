import TraceLog.Proofs.Calls
import TraceLog.Proofs.Hearing
import TraceLog.Proofs.Run

/-!
# What Is Told of Errors Is Only Added To

Faults of single sinks and handlers are noted in the scene, and reported on standard error. Nothing
reads what was noted or reported before: each operation comes to the same end behind it, and adds
the same to it (`Scene.behind`). Hence so do steps and runs.

## Main results

* `Outlets.meet_behind`, `Outlets.reportEnd_behind`: reports.
* `Gate.configure_behind`, `deliver_behind`, `HostLogger.log_behind`: configurations, and records of
  the library and of the host.
* `Session.step_behind`, `Session.final_behind`: steps and runs.
* `Session.final_of_untold`: runs that differ in what was told before.
-/

namespace TraceLog

/-- What was told of errors: the faults that were noted, and the pieces that were reported. -/
structure Told where
  faults : List Fault := []
  reports : List Reported := []

namespace Told

/-- What was told, and then more. -/
def append (told later : Told) : Told where
  faults := told.faults ++ later.faults
  reports := told.reports ++ later.reports

/-- Something was told among the rest, in this order. -/
structure Within (told all : Told) : Prop where
  faults : told.faults.Sublist all.faults
  reports : told.reports.Sublist all.reports

/-- What was told before something else is within both. -/
theorem within_append (told later : Told) : told.Within (told.append later) :=
  ⟨List.sublist_append_left _ _, List.sublist_append_left _ _⟩

/-- What was told is within itself. -/
theorem Within.refl (told : Told) : told.Within told :=
  ⟨.refl _, .refl _⟩

/-- Less than less is less. -/
theorem Within.trans {told more all : Told} (h : told.Within more) (h' : more.Within all) :
    told.Within all :=
  ⟨h.faults.trans h'.faults, h.reports.trans h'.reports⟩

/-- Telling the same later keeps one within the other. -/
theorem Within.append {told all : Told} (h : told.Within all) (later : Told) :
    (told.append later).Within (all.append later) :=
  ⟨h.faults.append (.refl _), h.reports.append (.refl _)⟩

end Told

/-! ### Outlets -/

namespace Outlets

variable (reports : List Reported) (outlets : Outlets)

/-- The outlets behind pieces that were reported before. -/
def behind (reports : List Reported) (outlets : Outlets) : Outlets :=
  { outlets with reports := reports ++ outlets.reports }

/-- Reports in front do not matter for the streams. -/
@[simp] theorem find?_behind (handle : Handle) :
    (outlets.behind reports).find? handle = outlets.find? handle := rfl

/-- Storing a stream is the same behind other reports. -/
theorem put_behind (handle : Handle) (stream : Stream) :
    (outlets.behind reports).put handle stream = (outlets.put handle stream).behind reports := rfl

/-- Opening a file is the same behind other reports. -/
theorem openFile_behind (place : Place) :
    (outlets.behind reports).openFile place =
      (outlets.openFile place).map fun opened => (opened.1, opened.2.behind reports) := by
  have hfiles : (outlets.behind reports).files = outlets.files := rfl
  rcases hopen : outlets.files.openEmpty place with cause | files
  · simp only [openFile, hfiles, hopen]
    rfl
  · simp only [openFile, hfiles, hopen]
    rfl

/-- Making a named stream is the same behind other reports. -/
theorem ensure_behind (name : String) (device : Device) :
    (outlets.behind reports).ensure name device = (outlets.ensure name device).behind reports := by
  rcases hfind : outlets.find? (.named name) with - | stream
  · simp only [ensure, find?_behind, hfind, put_behind]
  · simp only [ensure, find?_behind, hfind]

/-- Closing a stream is the same behind other reports. -/
theorem close_behind (handle : Handle) :
    (outlets.behind reports).close handle = (outlets.close handle).behind reports := by
  rcases hfind : outlets.find? handle with - | ⟨device, closed⟩
  · simp only [close, find?_behind, hfind]
  · cases device with
    | _ => simp only [close, find?_behind, hfind, put_behind]

/-- Writing a text is the same behind other reports. -/
theorem writeText_behind (s : String) (handle : Handle) :
    (outlets.behind reports).writeText s handle =
      (outlets.writeText s handle).map (behind reports) := by
  have hfiles : (outlets.behind reports).files = outlets.files := rfl
  rcases hfind : outlets.find? handle with - | stream
  · simp only [writeText, find?_behind, hfind]
    rfl
  · rcases hwrite : stream.writeText s outlets.files with fault | written
    · simp only [writeText, find?_behind, hfind, hfiles, hwrite]
      rfl
    · simp only [writeText, find?_behind, hfind, hfiles, hwrite]
      rfl

/-- Writing bytes is the same behind other reports. -/
theorem writeBytes_behind (bs : List UInt8) (handle : Handle) :
    (outlets.behind reports).writeBytes bs handle =
      (outlets.writeBytes bs handle).map (behind reports) := by
  rcases hfind : outlets.find? handle with - | stream
  · simp only [writeBytes, find?_behind, hfind]
    rfl
  · simp only [writeBytes, find?_behind, hfind]
    rcases stream.writeBytes bs with fault | written
    · rfl
    · rfl

/-! ### Reports -/

/-- A piece of a report comes behind the other reports, and is refused as it is without them. -/
theorem reportPiece_behind (piece : String) :
    (outlets.behind reports).reportPiece piece =
      (outlets.reportPiece piece).map (behind reports) := by
  rcases hfind : outlets.find? .console with - | stream
  · simp only [reportPiece, find?_behind, hfind]
    rfl
  · rcases hrefusal : stream.refusal? piece with - | fault
    · simp only [reportPiece, find?_behind, hfind, hrefusal, Except.map]
      simp only [behind, List.append_assoc]
    · simp only [reportPiece, find?_behind, hfind, hrefusal]
      rfl

/-- So does a whole report, up to the piece that is refused. -/
theorem report_behind (pieces : List String) :
    (outlets.behind reports).report pieces =
      ((outlets.report pieces).1.behind reports, (outlets.report pieces).2) := by
  induction pieces generalizing outlets with
  | nil => rfl
  | cons piece pieces ih =>
      rcases hpiece : outlets.reportPiece piece with fault | next
      · simp only [report, reportPiece_behind, hpiece]
        rfl
      · simp only [report, reportPiece_behind, hpiece]
        exact ih next

/-- So does the report on a fault of a handler. -/
theorem reportFault_behind (report : Report) :
    (outlets.behind reports).reportFault report =
      ((outlets.reportFault report).1.behind reports, (outlets.reportFault report).2) := by
  rcases hopening : outlets.report report.opening with ⟨opened, - | fault⟩
  · simp only [reportFault, report_behind, hopening]
    rcases report.closing with - | piece
    · rfl
    · simp only [Option.map_some, reportPiece_behind]
      rcases opened.reportPiece piece with fault | next
      · cases fault with
        | failed failure =>
            cases failure with
            | _ => rfl
        | _ => rfl
      · rfl
  · simp only [reportFault, report_behind, hopening]

/-- **A fault is met in the same way** behind all reports. -/
theorem meet_behind (report : Fault → Report) (fault : Fault) :
    (outlets.behind reports).meet report fault =
      ((outlets.meet report fault).1.behind reports, (outlets.meet report fault).2) := by
  simp only [meet, reportFault_behind]
  split
  · rfl
  · rfl

/-- **The report with which the process ends** is the same behind all reports. -/
theorem reportEnd_behind (pieces : List String) :
    (outlets.behind reports).reportEnd pieces =
      ((outlets.reportEnd pieces).1.behind reports, (outlets.reportEnd pieces).2) := by
  rw [reportEnd, reportEnd, report_behind]
  rcases outlets.report pieces with ⟨next, - | fault⟩
  · rfl
  · rfl

end Outlets

/-- A sink writes the same behind other reports. -/
theorem Sink.write_behind (lineEnd : List Char) (line : String) (sink : Sink)
    (reports : List Reported) (outlets : Outlets) :
    sink.write lineEnd line (outlets.behind reports) =
      (sink.write lineEnd line outlets).map (Outlets.behind reports) := by
  obtain ⟨kind, handle⟩ := sink
  cases kind with
  | line => exact outlets.writeText_behind reports line handle
  | file => exact outlets.writeText_behind reports line handle
  | byteStream => exact outlets.writeBytes_behind reports _ handle

/-! ### Scenes -/

/-- The scene behind what was told before. -/
def Scene.behind (told : Told) (scene : Scene) : Scene :=
  { scene with
    sinkFaults := told.faults ++ scene.sinkFaults
    outlets := scene.outlets.behind told.reports }

/-- What a scene tells of errors. -/
def Scene.told (scene : Scene) : Told :=
  ⟨scene.sinkFaults, scene.outlets.reports⟩

/-- The scene apart from what is told of errors. -/
def Scene.untold (scene : Scene) : Scene :=
  { scene with sinkFaults := [], outlets := scene.outlets.withoutReports }

/-- A scene is told behind what it tells. -/
theorem Scene.behind_told (scene : Scene) : scene.untold.behind scene.told = scene := by
  simp only [behind, untold, told, Outlets.behind, Outlets.withoutReports, List.append_nil]

/-- What is told in front does not matter for the rest of a scene. -/
@[simp] theorem Scene.untold_behind (told : Told) (scene : Scene) :
    (scene.behind told).untold = scene.untold := rfl

/-! ### Configurations -/

namespace Gate

variable (platform : Platform) (gate : Gate) (options : Options)
  (overrides : Table String Value) (told : Told) (scene : Scene)

/-- A sink is opened behind other reports as it is without them. -/
theorem openSink_behind :
    openSink platform options (scene.behind told) =
      ((openSink platform options scene).1.behind told, (openSink platform options scene).2) := by
  simp only [openSink, Scene.behind]
  rcases options.filePath with - | path
  · rfl
  rcases hzero : (path.absolute platform.directory).holdsZero with - | -
  · rcases hopen : scene.outlets.openFile (path.absolute platform.directory).parts with
      cause | ⟨handle, outlets⟩
    · simp only [hzero, hopen, Outlets.openFile_behind]
      rfl
    · rcases hgiven : path.holdsZero with - | -
      · simp only [hzero, hopen, hgiven, Outlets.openFile_behind]
        rfl
      · simp only [hzero, hopen, hgiven, Outlets.openFile_behind]
        rfl
  · simp only [hzero]
    rfl

end Gate

namespace HostLogger

variable (reports : List Reported) (handle : Handle)

/-- A handler is redirected behind other reports as it is without them. -/
theorem redirectOne_behind (handler : HostHandler) (outlets : Outlets) :
    redirectOne handle handler (outlets.behind reports) =
      (redirectOne handle handler outlets).map fun moved =>
        (moved.1, moved.2.behind reports) := by
  rcases htarget : handler.target with - | old
  · simp only [redirectOne, htarget]
    rfl
  · have hflush : (outlets.behind reports).flush? old = outlets.flush? old := rfl
    by_cases hold : old = handle
    · simp only [redirectOne, htarget, if_pos hold]
      rfl
    rcases hfault : outlets.flush? old with - | fault
    · cases hkind : handler.kind with
      | _ => simp only [redirectOne, htarget, if_neg hold, hflush, hfault, hkind,
          Outlets.close_behind, Except.map]
    · simp only [redirectOne, htarget, if_neg hold, hflush, hfault]
      rfl

/-- So are all handlers of a logger, up to the one that fails. -/
theorem redirectAll_behind (handlers : List HostHandler) (outlets : Outlets) :
    redirectAll handle handlers (outlets.behind reports) =
      let moved := redirectAll handle handlers outlets
      (moved.1, moved.2.1.behind reports, moved.2.2) := by
  induction handlers generalizing outlets with
  | nil => rfl
  | cons handler handlers ih =>
      rcases hstream : handler.isStreamHandler with - | -
      · simp only [redirectAll, hstream, Bool.false_eq_true, if_false, ih]
      · rcases hone : redirectOne handle handler outlets with fault | ⟨moved, next⟩
        · simp only [redirectAll, hstream, if_true, redirectOne_behind, hone, Except.map]
        · simp only [redirectAll, hstream, if_true, redirectOne_behind, hone, Except.map, ih]

/-- So is the whole logger. -/
theorem setOutput_behind (host : HostLogger) (outlets : Outlets) :
    host.setOutput handle (outlets.behind reports) =
      let redirected := host.setOutput handle outlets
      ({ redirected.1 with outlets := redirected.1.outlets.behind reports }, redirected.2) := by
  simp only [setOutput, redirectAll_behind]
  split
  · rfl
  · rcases redirectAll handle host.handlers outlets with ⟨handlers, next, - | fault⟩
    · rfl
    · rfl

end HostLogger

namespace Gate

variable (platform : Platform) (gate : Gate) (options : Options)
  (overrides : Table String Value) (told : Told) (scene : Scene)

/-- The host's logger is muted behind other reports as it is without them. -/
theorem muteHost_behind :
    gate.muteHost options (scene.behind told) =
      ((gate.muteHost options scene).1.behind told, (gate.muteHost options scene).2) := by
  rcases hsuppress : options.suppressHost.isTrue with - | -
  · simp only [muteHost, hsuppress]
  rcases hgiven : gate.hostLogger with - | v
  · rcases hhost : scene.host with - | host
    · simp only [muteHost, hsuppress, hgiven, Scene.behind, hhost]
    · have hset := host.setOutput_behind told.reports (scene.outlets.openStream .discard).1
        (scene.outlets.openStream .discard).2
      have hopen : (scene.outlets.behind told.reports).openStream .discard =
          ((scene.outlets.openStream .discard).1,
            (scene.outlets.openStream .discard).2.behind told.reports) := rfl
      simp only [muteHost, hsuppress, hgiven, Scene.behind, hhost, hopen, hset]
      rcases host.setOutput (scene.outlets.openStream .discard).1
        (scene.outlets.openStream .discard).2 with ⟨delivery, notice⟩
      rcases hraised : delivery.raised with - | fault
      · cases notice with
        | none => rfl
        | some notice => rfl
      · cases notice with
        | none => rfl
        | some notice => rfl
  · simp only [muteHost, hsuppress, hgiven]

/-- A configuration is announced behind other reports as it is without them. -/
theorem announce_behind (settings : Settings) :
    announce settings (scene.behind told) =
      ((announce settings scene).1.behind told, (announce settings scene).2) := by
  rcases hname : Level.name settings.threshold with fault | levelName
  · simp only [announce, hname]
  · simp only [announce, hname]
    rfl

/-- **A configuration** does the same behind all that was told. -/
theorem configure_behind :
    gate.configure platform options overrides (scene.behind told) =
      { gate.configure platform options overrides scene with
        scene := (gate.configure platform options overrides scene).scene.behind told } := by
  rcases hcommitted : gate.committed with - | logger
  · rcases hvalid : gate.validate options overrides with fault | settings
    · simp only [configure, hcommitted, hvalid]
    rcases hopen : openSink platform settings.options scene with ⟨opened, fault | sink⟩
    · simp only [configure, hcommitted, hvalid, openSink_behind, hopen]
    rcases hmute : gate.muteHost settings.options opened with ⟨muted, - | fault⟩
    · simp only [configure, hcommitted, hvalid, openSink_behind, hopen, muteHost_behind,
        hmute, announce_behind]
    · simp only [configure, hcommitted, hvalid, openSink_behind, hopen, muteHost_behind,
        hmute]
  · rw [configure_eq_of_committed hcommitted, configure_eq_of_committed hcommitted]
    rfl

/-- A gate is invoked behind what was told before as it is without that. -/
theorem invoke_behind (call : Invocation) :
    gate.invoke platform call (scene.behind told) =
      { gate.invoke platform call scene with
        scene := (gate.invoke platform call scene).scene.behind told } := by
  simp only [invoke, configure_behind]
  split
  · rfl
  · split
    · rfl
    · rfl

end Gate

/-- So is the gate of the process. -/
theorem ProcessGate.invoke_behind (platform : Platform) (gate : Option Gate) (passed : Passed)
    (call : Invocation) (told : Told) (scene : Scene) :
    ProcessGate.invoke platform gate passed call (scene.behind told) =
      { ProcessGate.invoke platform gate passed call scene with
        scene := (ProcessGate.invoke platform gate passed call scene).scene.behind told } := by
  simp only [invoke, Gate.invoke_behind]
  split
  · rfl
  · split
    · rfl
    · rfl

/-! ### Records -/

section

variable (told : Told) (record : Record)

/-- The fault of a handler is told behind what was told before. -/
theorem Scene.meet_behind (fault : Fault) (scene : Scene) :
    (scene.behind told).meet record fault =
      ((scene.meet record fault).1.behind told, (scene.meet record fault).2) := by
  have hmeet : (scene.behind told).outlets.meet record.report fault =
      ((scene.outlets.meet record.report fault).1.behind told.reports,
        (scene.outlets.meet record.report fault).2) :=
    scene.outlets.meet_behind told.reports record.report fault
  simp only [meet, hmeet]
  split
  · rfl
  · simp only [behind, noteFaults, setOutlets, List.append_assoc]

/-- A line is written behind what was told before as it is without that. -/
theorem writeThrough_behind (lineEnd : List Char) (line : String) (sink : Sink) (scene : Scene) :
    writeThrough lineEnd record line sink (scene.behind told) =
      ((writeThrough lineEnd record line sink scene).1.behind told,
        (writeThrough lineEnd record line sink scene).2) := by
  have hwrite : sink.write lineEnd line (scene.behind told).outlets =
      (sink.write lineEnd line scene.outlets).map (Outlets.behind told.reports) :=
    sink.write_behind lineEnd line told.reports scene.outlets
  rcases hwritten : sink.write lineEnd line scene.outlets with fault | outlets
  · simp only [writeThrough, hwrite, hwritten, Except.map, Scene.meet_behind]
  · simp only [writeThrough, hwrite, hwritten, Except.map]
    rfl

/-- A process that is to end tells so behind what was told before. -/
theorem endProcess_behind (fault : FormattingFault) (scene : Scene) :
    endProcess record fault (scene.behind told) =
      ((endProcess record fault scene).1.behind told, (endProcess record fault scene).2) := by
  have hreport : (scene.behind told).reportEnd record fault =
      ((scene.reportEnd record fault).1.behind told, (scene.reportEnd record fault).2) := by
    have hend : (scene.behind told).outlets.reportEnd (Report.ofEnd record.frames fault) = _ :=
      scene.outlets.reportEnd_behind told.reports (Report.ofEnd record.frames fault)
    simp only [Scene.reportEnd, hend]
    rfl
  rw [endProcess, endProcess, hreport]
  rcases scene.reportEnd record fault with ⟨next, - | hindrance⟩
  · rfl
  · simp only [raising, Scene.meet_behind]

/-- **A record is given to a sink** in the same way behind all that was told. -/
theorem Sink.give_behind (platform : Platform) (logger : Logger) (sink : Sink) (scene : Scene) :
    sink.give platform logger record (scene.behind told) =
      ((sink.give platform logger record scene).1.behind told,
        (sink.give platform logger record scene).2) := by
  have hclock : (scene.behind told).clockFor logger.clock = scene.clockFor logger.clock := by
    cases logger.clock with
    | own => rfl
    | value v => rfl
  have hset : ∀ clock, (scene.behind told).setClockFor logger.clock clock =
      (scene.setClockFor logger.clock clock).behind told := by
    intro clock
    cases logger.clock with
    | own => rfl
    | value v => rfl
  have hfailed : ∀ (scene : Scene) fault, (scene.behind told).noteFailure fault =
      (scene.noteFailure fault).behind told := fun _ _ => rfl
  rcases hformat : logger.layout.format record (scene.clockFor logger.clock) with
    ⟨fault | line, clock⟩
  · rcases hpolicy : logger.policy with - | - | v
    · simp only [give, hclock, hformat, hset, hpolicy, hfailed, raising, writeThrough_behind]
    · simp only [give, hclock, hformat, hset, hpolicy, endProcess_behind]
    · simp only [give, hclock, hformat, hset, hpolicy, raising, Scene.meet_behind]
  · simp only [give, hclock, hformat, hset, raising, writeThrough_behind]

/-- A record is delivered behind what was told before as it is without that. -/
theorem deliver_behind (platform : Platform) (logger : Logger) (sinks : List Sink)
    (scene : Scene) :
    deliver platform logger record sinks (scene.behind told) =
      ((deliver platform logger record sinks scene).1.behind told,
        (deliver platform logger record sinks scene).2) := by
  induction sinks generalizing scene with
  | nil => rfl
  | cons sink sinks ih =>
      rw [deliver, deliver, Sink.give_behind]
      rcases sink.give platform logger record scene with ⟨next, - | ending⟩
      · exact ih next
      · rfl

end

/-- **A logging call** does the same behind all that was told. -/
theorem Logger.call_behind (platform : Platform) (logger : Logger) (call : Call)
    (site : CallSite) (told : Told) (scene : Scene) :
    logger.call platform call site (scene.behind told) =
      let called := logger.call platform call site scene
      (called.1, called.2.1.behind told, called.2.2) := by
  rw [call_eq_draft, call_eq_draft]
  rcases logger.draft call site with ⟨taken, fault?⟩ | record
  · rfl
  · simp only [deliver_behind]

/-! ### Records of the host -/

namespace HostLogger

variable (reports : List Reported) (record : HostRecord)

/-- A handler finds its stream behind other reports as it does without them. -/
theorem target_behind (handler : HostHandler) (outlets : Outlets) :
    target handler (outlets.behind reports) =
      (target handler outlets).map fun reached =>
        (reached.1, reached.2.1, reached.2.2.behind reports) := by
  rcases htarget : handler.target with - | handle
  · cases hkind : handler.kind with
    | file place path =>
        rcases hopen : outlets.openFile place with cause | ⟨handle, next⟩
        · simp only [target, htarget, hkind, Outlets.openFile_behind, hopen, Except.map]
        · simp only [target, htarget, hkind, Outlets.openFile_behind, hopen, Except.map]
    | _ =>
        simp only [target, htarget, hkind]
        rfl
  · simp only [target, htarget]
    rfl

/-- A handler of the host reports its fault behind the other reports. -/
theorem met_behind (fault : Fault) (outlets : Outlets) :
    met record fault (outlets.behind reports) =
      let met := met record fault outlets
      (met.1.behind reports, met.2.1, met.2.2) := by
  simp only [met, Outlets.meet_behind]

/-- A handler of the host does the same with a record behind other reports. -/
theorem handleOne_behind (handler : HostHandler) (outlets : Outlets) :
    handleOne record handler (outlets.behind reports) =
      let handled := handleOne record handler outlets
      (handled.1, handled.2.1.behind reports, handled.2.2) := by
  rcases htarget : target handler outlets with fault | ⟨- | handle, handler', next⟩
  · simp only [handleOne, target_behind, htarget, Except.map]
  · simp only [handleOne, target_behind, htarget, Except.map]
  · rcases hline : handler'.lineOf record with fault | line
    · simp only [handleOne, target_behind, htarget, Except.map, hline, met_behind]
    · rcases hwrite : next.writeText (line ++ "\n") handle with fault | written
      · simp only [handleOne, target_behind, htarget, Except.map, hline,
          Outlets.writeText_behind, hwrite, met_behind]
      · simp only [handleOne, target_behind, htarget, Except.map, hline,
          Outlets.writeText_behind, hwrite]

/-- So do all of them. -/
theorem handleAll_behind (handlers : List HostHandler) (outlets : Outlets) :
    handleAll record handlers (outlets.behind reports) =
      let handled := handleAll record handlers outlets
      (handled.1, handled.2.1.behind reports, handled.2.2) := by
  induction handlers generalizing outlets with
  | nil => rfl
  | cons handler handlers ih =>
      by_cases hlevel : record.level < handler.level
      · simp only [handleAll, hlevel, if_true, ih]
      · rcases hone : handleOne record handler outlets with ⟨handler', next, faults, - | fault⟩
        · simp only [handleAll, hlevel, if_false, handleOne_behind, hone, ih]
        · simp only [handleAll, hlevel, if_false, handleOne_behind, hone]

/-- **A record of the host** does the same behind all reports. -/
theorem log_behind (host : HostLogger) (level : Int) (message : String) (site : CallSite)
    (outlets : Outlets) :
    host.log level message site (outlets.behind reports) =
      { host.log level message site outlets with
        outlets := (host.log level message site outlets).outlets.behind reports } := by
  by_cases hlevel : level < host.effectiveLevel ∨ level ≤ 0
  · simp only [log, if_pos hlevel]
  rcases hname : Level.name level with fault | levelName
  · simp only [log, if_neg hlevel, hname]
  simp only [log, if_neg hlevel, hname, handleAll_behind]
  rcases handleAll _ host.handlers outlets with ⟨handlers, next, faults, - | fault⟩
  · rfl
  · rfl

end HostLogger

/-! ### Steps and runs -/

namespace Session

variable (told : Told) (session : Session)

/-- The session behind what was told before. -/
def behind (told : Told) (session : Session) : Session :=
  { session with scene := session.scene.behind told }

/-- The session apart from what is told of errors. -/
def untold (session : Session) : Session :=
  { session with scene := session.scene.untold }

/-- A session is what it is without anything told, behind what it has told. -/
theorem behind_told (session : Session) : session.untold.behind session.scene.told = session := by
  simp only [behind, untold, Scene.behind_told]

@[simp] theorem untold_behind : (session.behind told).untold = session.untold := rfl

/-- A logger is kept behind what was told before as it is without that. -/
theorem setLogger_behind (logger : Logger) :
    (session.behind told).setLogger logger = (session.setLogger logger).behind told := by
  rcases howner : session.first with - | - | -
  · simp only [setLogger, behind, howner]
  · simp only [setLogger, behind, howner]
  · simp only [setLogger, behind, howner]

/-- A configuration is finished behind what was told before as it is without that. -/
theorem finish_behind (owner : Owner) (raised : Option Fault) :
    (session.behind told).finish owner raised =
      ((session.finish owner raised).1.behind told, (session.finish owner raised).2) := by
  cases raised with
  | none => rfl
  | some fault => rfl

/-- A clock is moved behind what was told before as it is without that. -/
theorem moveClock_behind (name : String) (move : Clock → Except Fault Clock)
    (answer : Clock → Answer) :
    (session.behind told).moveClock name move answer =
      ((session.moveClock name move answer).1.behind told,
        (session.moveClock name move answer).2) := by
  have hclock : (session.behind told).scene.clock = session.scene.clock := rfl
  rcases hthere : session.scene.clock with - | clock
  · simp only [moveClock, hclock, hthere]
  · rcases hmove : move clock with fault | moved
    · simp only [moveClock, hclock, hthere, hmove]
    · simp only [moveClock, hclock, hthere, hmove]
      rfl

/-- A stream is made in a session behind what was told before as it is without that. -/
theorem ensure_behind (stream : String) (device : Device) :
    (session.behind told).ensure stream device = (session.ensure stream device).behind told := by
  have hensure : (session.behind told).scene.outlets.ensure stream device =
      (session.scene.outlets.ensure stream device).behind told.reports :=
    session.scene.outlets.ensure_behind told.reports stream device
  simp only [ensure, hensure]
  rfl

/-- A delivery of the host is taken into a session behind what was told before. -/
theorem afterHost_behind (delivery : HostDelivery) (notice : Option Notice) :
    (session.behind told).afterHost
        { delivery with outlets := delivery.outlets.behind told.reports } notice =
      ((session.afterHost delivery notice).1.behind told,
        (session.afterHost delivery notice).2) := by
  cases notice with
  | none => simp only [afterHost, behind, Scene.behind, Scene.noteFaults, Option.elim_none,
      List.append_assoc]
  | some notice => simp only [afterHost, behind, Scene.behind, Scene.noteFaults, Scene.notify,
      Option.elim_some, List.append_assoc]

/-- Configuring the host's gate. -/
theorem step_configure_behind (source : Option OptionSource) (named : Table String Value) :
    (session.behind told).step (.configure source named) =
      ((session.step (.configure source named)).1.behind told,
        (session.step (.configure source named)).2) := by
  rcases hload : Invocation.load source named with fault | call
  · simp only [Session.step, hload]
  · have hinvoke := session.gate.invoke_behind session.platform told session.scene call
    simp only [Session.step, hload]
    rw [← finish_behind]
    exact congrArg (fun attempt : Attempt =>
      ({ session with gate := attempt.gate, scene := attempt.scene } : Session).finish .host
        attempt.raised) hinvoke

/-- Configuring the process. -/
theorem step_configureProcess_behind (source : Option OptionSource) (named : Table String Value)
    (passClock passHost : Bool) :
    (session.behind told).step (.configureProcess source named passClock passHost) =
      ((session.step (.configureProcess source named passClock passHost)).1.behind told,
        (session.step (.configureProcess source named passClock passHost)).2) := by
  rcases hload : Invocation.load source named with fault | call
  · simp only [Session.step, hload]
  · have hinvoke := ProcessGate.invoke_behind session.platform session.processGate
      (session.passed passClock passHost) call told session.scene
    simp only [Session.step, hload]
    rw [← finish_behind]
    exact congrArg (fun attempt : Attempt =>
      ({ session with processGate := some attempt.gate, scene := attempt.scene } :
        Session).finish .process attempt.raised) hinvoke

/-- A logging call. -/
theorem step_log_behind (call : Logger.Call) (site : CallSite) :
    (session.behind told).step (.log call site) =
      ((session.step (.log call site)).1.behind told, (session.step (.log call site)).2) := by
  have hlogger : (session.behind told).logger = session.logger := rfl
  rcases hthere : session.logger with fault | logger
  · simp only [Session.step, hlogger, hthere]
  · have hcall : logger.call (session.behind told).platform call site
        (session.behind told).scene = _ :=
      logger.call_behind session.platform call site told session.scene
    simp only [Session.step, hlogger, hthere, hcall, ← setLogger_behind]
    rfl

/-- A record of the host. -/
theorem step_logHost_behind (level : Value) (message : String) (site : CallSite) :
    (session.behind told).step (.logHost level message site) =
      ((session.step (.logHost level message site)).1.behind told,
        (session.step (.logHost level message site)).2) := by
  have hhost : (session.behind told).scene.host = session.scene.host := rfl
  rcases hthere : session.scene.host with - | host
  · simp only [Session.step, hhost, hthere]
  · rcases hlevel : Level.ofRecord level with fault | n
    · simp only [Session.step, hhost, hthere, hlevel]
    · have hlog : host.log n message site (session.behind told).scene.outlets = _ :=
        host.log_behind told.reports n message site session.scene.outlets
      simp only [Session.step, hhost, hthere, hlevel, hlog, afterHost_behind]

/-- Redirecting the host's logger. -/
theorem step_redirectHost_behind (stream : String) (device : Device) :
    (session.behind told).step (.redirectHost stream device) =
      ((session.step (.redirectHost stream device)).1.behind told,
        (session.step (.redirectHost stream device)).2) := by
  have hensure := ensure_behind told session stream device
  have hhost : ((session.ensure stream device).behind told).scene.host = session.scene.host := rfl
  have hhost' : (session.ensure stream device).scene.host = session.scene.host := rfl
  rcases hthere : session.scene.host with - | host
  · simp only [Session.step, hensure, hhost, hhost', hthere]
  · have hset : host.setOutput (.named stream)
        ((session.ensure stream device).behind told).scene.outlets = _ :=
      host.setOutput_behind told.reports (.named stream)
        (session.ensure stream device).scene.outlets
    simp only [Session.step, hensure, hhost, hhost', hthere, hset, afterHost_behind]

/-- **A step does the same behind all that was told**, and adds the same to it. -/
theorem step_behind (step : Step) :
    (session.behind told).step step =
      ((session.step step).1.behind told, (session.step step).2) := by
  have hlogger : (session.behind told).logger = session.logger := rfl
  have hhost : (session.behind told).scene.host = session.scene.host := rfl
  cases step with
  | configure source named => exact step_configure_behind told session source named
  | configureProcess source named passClock passHost =>
      exact step_configureProcess_behind told session source named passClock passHost
  | inspect =>
      rcases hthere : session.logger with fault | logger
      · simp only [Session.step, hlogger, hthere]
      · simp only [Session.step, hlogger, hthere]
  | log call site => exact step_log_behind told session call site
  | attach stream device =>
      rcases hthere : session.logger with fault | logger
      · simp only [Session.step, hlogger, hthere]
      · simp only [Session.step, hlogger, hthere, ensure_behind, ← setLogger_behind]
        rfl
  | clockText =>
      rcases hthere : session.logger with fault | logger
      · simp only [Session.step, hlogger, hthere]
      · simp only [Session.step, hlogger, hthere, Logger.clockText]
        rcases logger.clock with - | v
        · rfl
        · rfl
  | setClock value => exact moveClock_behind told session _ _ _
  | advanceClock delta => exact moveClock_behind told session _ _ _
  | close stream =>
      have hclose := (session.ensure stream (.text "")).scene.outlets.close_behind told.reports
        (.named stream)
      simp only [Session.step, ensure_behind]
      exact congrArg (fun outlets => (({ session.ensure stream (.text "") with
        scene := { ((session.ensure stream (.text "")).behind told).scene with outlets } } :
          Session), StepEnd.answered .nothing)) hclose
  | logHost level message site => exact step_logHost_behind told session level message site
  | redirectHost stream device => exact step_redirectHost_behind told session stream device
  | inspectHost =>
      rcases hthere : session.scene.host with - | host
      · simp only [Session.step, hhost, hthere]
      · simp only [Session.step, hhost, hthere]
  | _ => rfl

/-- **A run does the same behind all that was told**, and adds the same to it. -/
theorem final_behind (steps : List Step) :
    (session.behind told).final steps = (session.final steps).behind told := by
  induction steps generalizing session with
  | nil => rfl
  | cons step steps ih =>
      have hstep := step_behind told session step
      have hends : ((session.behind told).step step).2 = (session.step step).2 := by
        rw [hstep]
      rcases hgoes : (session.step step).2.goesOn with - | -
      · rw [final_cons_of_aborted hgoes, final_cons_of_aborted (by rw [hends, hgoes]), hstep]
      · rw [final_cons hgoes, final_cons (by rw [hends, hgoes]), hstep]
        exact ih _

/-- What was told before a step is told behind it. -/
theorem within_step (step : Step) : session.scene.told.Within (session.step step).1.scene.told := by
  have hstep := step_behind session.scene.told session.untold step
  rw [behind_told] at hstep
  rw [hstep]
  exact Told.within_append session.scene.told (session.untold.step step).1.scene.told

/-- **Runs differ in what is told alone** when they start from sessions that do, and one that tells
less goes on telling less. -/
theorem final_of_untold {session session' : Session} (h : session'.untold = session.untold)
    (hwithin : session.scene.told.Within session'.scene.told) (steps : List Step) :
    (session'.final steps).untold = (session.final steps).untold ∧
      (session.final steps).scene.told.Within (session'.final steps).scene.told := by
  have hfinal := final_behind session.scene.told session.untold steps
  have hfinal' := final_behind session'.scene.told session'.untold steps
  rw [behind_told] at hfinal hfinal'
  rw [hfinal, hfinal', h]
  exact ⟨rfl, hwithin.append (session.untold.final steps).scene.told⟩

end Session

end TraceLog
