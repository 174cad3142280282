import TraceLog.HostLogger
import TraceLog.Layout
import TraceLog.Options
import TraceLog.Report

/-!
# Loggers

A configured logger: a threshold, a layout of lines, and sinks in the order in which they
were attached. A logging call resolves its level, and is dropped below the threshold; a
record that passes takes the next sequence number and is given to every sink in turn. Each
sink formats the record for itself, so that the clock is read once for each sink.

A sink whose stream fails does not disturb the others: its fault is noted and reported on standard
error, and the call goes on. Only a stream's fault of recursion ends the call, or the fault with
which standard error refuses a report. A record that cannot be formatted either is noted and
written as nothing, or ends the whole process with a report of its own, as the failure policy says.

## Main definitions

* `Sink`, `Logger`: what a logger is made of.
* `Scene`: what logging calls read and change beside the logger.
* `Sink.give`, `deliver`: a record given to one sink, and to sinks in order.
* `Logger.call`: a logging call.
-/

namespace TraceLog

/-! ### Sinks -/

/-- How a sink hands lines to its stream. -/
inductive SinkKind where
  /-- As text. -/
  | line
  /-- As bytes in UTF-8, with line ends as the platform has them. -/
  | byteStream
  /-- As text of a file that the sink has opened. -/
  | file
  deriving DecidableEq, Repr

/-- The name of a kind of sink. -/
def SinkKind.title : SinkKind → String
  | .line => "LineHandler"
  | .byteStream => "ByteStreamHandler"
  | .file => "FileHandler"

/-- A sink and its stream. -/
structure Sink where
  kind : SinkKind
  handle : Handle
  deriving DecidableEq, Repr

namespace Sink

/-- The sink for a caller's stream: bytes for a stream of bytes, text for any other. -/
def forStream (outlets : Outlets) (handle : Handle) : Sink :=
  match outlets.find? handle with
  | some stream => ⟨if stream.device.isBinary then .byteStream else .line, handle⟩
  | none => ⟨.line, handle⟩

/-- The outlets after a line was written through a sink; `lineEnd` ends lines on the
platform. -/
def write (lineEnd : List Char) (line : String) (sink : Sink) (outlets : Outlets) :
    Except StreamFault Outlets :=
  match sink.kind with
  | .byteStream =>
    outlets.writeBytes (Text.encode (Text.endLinesWith lineEnd line.toList)) sink.handle
  | .line | .file => outlets.writeText line sink.handle

end Sink

/-! ### The scene -/

/-- What is done with a record that cannot be formatted. -/
inductive FailurePolicy where
  /-- The fault is noted, and the record is written as nothing. -/
  | record
  /-- The fault ends the process. -/
  | abort
  /-- A value, which is no policy, stands in its place: the sink fails when it is called. -/
  | value (v : Value)
  deriving Repr

/-- What is given in the place of something that belongs to the host, its clock or its logger:
the host's own one, or a value, which can do nothing that is asked of it. Null stands for
none. -/
inductive Collaborator where
  | own
  | value (v : Value)
  deriving Repr

namespace Collaborator

/-- No collaborator. -/
def absent : Collaborator := .value .null

/-- The host's own collaborator, if there is one. -/
def ofHost (present : Bool) : Collaborator :=
  if present then .own else absent

/-- Whether something is given. -/
def isGiven : Collaborator → Bool
  | .value .null => false
  | _ => true

end Collaborator

/-- What calls read and change beside the logger: the clock and the host's logger, if there
are any, the streams and files, and, each in the order in which they came, the records that
could not be formatted, the faults of single sinks and handlers, and the notices. -/
structure Scene where
  clock : Option Clock := none
  host : Option HostLogger := none
  outlets : Outlets := {}
  failures : List FormattingFault := []
  sinkFaults : List Fault := []
  notices : List Notice := []

/-- What does not change during a run: how lines end on the platform, and the directory that
file paths start from. -/
structure Platform where
  lineEnd : List Char := ['\n']
  directory : FilePath := ⟨"/", []⟩
  deriving Repr

/-- How a call ended. -/
inductive CallEnd where
  | returned
  | raised (fault : Fault)
  /-- The process ends because a record could not be formatted. -/
  | aborted (fault : FormattingFault)
  deriving Repr

namespace Scene

/-- The scene with one more failure. -/
def noteFailure (scene : Scene) (fault : FormattingFault) : Scene :=
  { scene with failures := scene.failures ++ [fault] }

/-- The scene with more faults of sinks. -/
def noteFaults (scene : Scene) (faults : List Fault) : Scene :=
  { scene with sinkFaults := scene.sinkFaults ++ faults }

/-- The scene with other outlets. -/
def setOutlets (scene : Scene) (outlets : Outlets) : Scene :=
  { scene with outlets }

/-- The scene with one more notice. -/
def notify (scene : Scene) (notice : Notice) : Scene :=
  { scene with notices := scene.notices ++ [notice] }

/-- The clock of a logger, from what it was given as its clock. -/
def clockFor (scene : Scene) : Collaborator → Option Clock
  | .own => scene.clock
  | .value v => some (.ofValue v)

/-- The scene after a logger's clock was read. -/
def setClockFor (scene : Scene) (given : Collaborator) (clock : Option Clock) : Scene :=
  match given with
  | .own => { scene with clock }
  | .value _ => scene

end Scene

/-! ### Faults of handlers -/

namespace Record

/-- The report on a fault that a handler meets with a record. -/
def report (record : Record) : Fault → Report :=
  .ofFault record.frames record.message record.arguments

end Record

/-- A fault that a sink meets with a record: it is noted and reported on standard error. One of
recursion is raised, and so is what standard error refuses the report with. -/
def Scene.meet (record : Record) (fault : Fault) (scene : Scene) : Scene × Option Fault :=
  let (outlets, raised) := scene.outlets.meet record.report fault
  ((if fault.passesOn then scene else scene.noteFaults [fault]).setOutlets outlets, raised)

/-- The report on a record that cannot be formatted, with which the process ends, and what keeps the
process from ending, if anything does. -/
def Scene.reportEnd (record : Record) (fault : FormattingFault) (scene : Scene) :
    Scene × Option Fault :=
  let (outlets, hindrance) := scene.outlets.reportEnd (Report.ofEnd record.frames fault)
  (scene.setOutlets outlets, hindrance)

/-! ### Loggers -/

/-- A configured logger. -/
structure Logger where
  options : Options := {}
  name : String := "simlog.trace"
  threshold : Int
  layout : Layout
  /-- What the logger was given as its clock. -/
  clock : Collaborator := .absent
  policy : FailurePolicy := .abort
  sinks : List Sink := []
  /-- The sequence number of the next record. -/
  nextSequence : Nat := 0

/-- A line written through one sink, and the fault that ends the call if one does. -/
def writeThrough (lineEnd : List Char) (record : Record) (line : String) (sink : Sink)
    (scene : Scene) : Scene × Option Fault :=
  match sink.write lineEnd line scene.outlets with
  | .ok outlets => (scene.setOutlets outlets, none)
  | .error fault => scene.meet record (.stream fault)

/-- A fault that gets out of a sink ends the call. -/
def raising (outcome : Scene × Option Fault) : Scene × Option CallEnd :=
  (outcome.1, outcome.2.map .raised)

/-- A record that cannot be formatted, where that ends the process. A process that cannot end goes
on with the fault that keeps it from ending, as with one of the sink. -/
def endProcess (record : Record) (fault : FormattingFault) (scene : Scene) :
    Scene × Option CallEnd :=
  match scene.reportEnd record fault with
  | (scene, none) => (scene, some (.aborted fault))
  | (scene, some hindrance) => raising (scene.meet record hindrance)

/-- A record given to one sink, and the ending of the call if that ends it. -/
def Sink.give (platform : Platform) (logger : Logger) (record : Record) (sink : Sink)
    (scene : Scene) : Scene × Option CallEnd :=
  let (line, clock) := logger.layout.format record (scene.clockFor logger.clock)
  let scene := scene.setClockFor logger.clock clock
  match line, logger.policy with
  | .ok line, _ => raising (writeThrough platform.lineEnd record line sink scene)
  | .error fault, .record =>
    raising (writeThrough platform.lineEnd record "" sink (scene.noteFailure fault))
  | .error fault, .abort => endProcess record fault scene
  | .error _, .value v => raising (scene.meet record (.notCallable v.kindName))

/-- A record given to sinks in order. -/
def deliver (platform : Platform) (logger : Logger) (record : Record) :
    List Sink → Scene → Scene × CallEnd
  | [], scene => (scene, .returned)
  | sink :: sinks, scene =>
    match sink.give platform logger record scene with
    | (scene, some ending) => (scene, ending)
    | (scene, none) => deliver platform logger record sinks scene

namespace Logger

/-- Whether the logger is disabled for all levels. -/
def isDisabled (logger : Logger) : Bool :=
  logger.threshold == Level.off

/-- Whether records of a level pass. -/
def admits (logger : Logger) (level : Int) : Bool :=
  !logger.isDisabled && decide (logger.threshold ≤ level)

/-- The level that a call asks for; null asks for the standard one. -/
def resolveLevel : Value → Except Fault Int
  | .null => .ok Level.standard
  | v => Level.parse v

/-- The logger with one more sink. -/
def attach (logger : Logger) (sink : Sink) : Logger :=
  { logger with sinks := logger.sinks ++ [sink] }

/-- The record of a call. -/
def recordFor (logger : Logger) (levelName : String) (message : Value) (site : CallSite) :
    Record where
  name := .text logger.name
  levelName := .text levelName
  file := .text site.file
  line := site.line
  message
  function := site.function
  created := .real site.moment.created
  thread := .int site.moment.threadNumber
  threadName := .text site.moment.threadName
  process := .int site.moment.processNumber
  sequence := some (.int logger.nextSequence)
  frames := site.moment.frames

/-- Emits a message that passes: it takes the next sequence number and goes to all sinks. -/
def emit (platform : Platform) (logger : Logger) (level : Int) (message : Value)
    (site : CallSite) (scene : Scene) : Logger × Scene × CallEnd :=
  if logger.admits level then
    let next := { logger with nextSequence := logger.nextSequence + 1 }
    match Level.name level with
    | .error fault => (next, scene, .raised fault)
    | .ok levelName =>
      let (scene, ending) :=
        deliver platform logger (logger.recordFor levelName message site) logger.sinks scene
      (next, scene, ending)
  else (logger, scene, .returned)

/-- A logging call. -/
inductive Call where
  /-- Logs the text of a value. -/
  | print (message level : Value)
  /-- Logs one line of text. -/
  | printLine (message level : Value)
  /-- Logs a template filled from arguments. -/
  | printf (level template : Value) (args : List Value)
  deriving Repr

/-- Logs the text of a value. -/
def print (platform : Platform) (logger : Logger) (message level : Value) (site : CallSite)
    (scene : Scene) : Logger × Scene × CallEnd :=
  match (do
    let n ← resolveLevel level
    let text ← message.plainText
    return (n, text) : Except Fault (Int × String)) with
  | .error fault => (logger, scene, .raised fault)
  | .ok (n, text) => logger.emit platform n (.text text) site scene

/-- Logs a template filled from arguments. Nothing is filled in for a record that is
dropped. -/
def printf (platform : Platform) (logger : Logger) (level template : Value) (args : List Value)
    (site : CallSite) (scene : Scene) : Logger × Scene × CallEnd :=
  match resolveLevel level with
  | .error fault => (logger, scene, .raised fault)
  | .ok n =>
    if logger.admits n then
      match template.remainder (.tuple args) with
      | .error fault => (logger, scene, .raised fault)
      | .ok message => logger.emit platform n message site scene
    else (logger, scene, .returned)

/-- A logging call: the logger and the scene afterwards, and how the call ended. -/
def call (platform : Platform) (logger : Logger) (call : Call) (site : CallSite)
    (scene : Scene) : Logger × Scene × CallEnd :=
  match call with
  | .print message level | .printLine message level =>
    logger.print platform message level site scene
  | .printf level template args => logger.printf platform level template args site scene

/-- The current time as the logger's lines show it. -/
def clockText (logger : Logger) (scene : Scene) : Except Fault String × Scene :=
  let (time, clock) := logger.layout.clockText (scene.clockFor logger.clock)
  (time.mapError .formatting, scene.setClockFor logger.clock clock)

/-- A call below the threshold changes nothing. -/
theorem emit_of_not_admits (platform : Platform) {logger : Logger} {level : Int}
    (h : logger.admits level = false) (message : Value) (site : CallSite) (scene : Scene) :
    logger.emit platform level message site scene = (logger, scene, .returned) := by
  simp [emit, h]

end Logger

end TraceLog
