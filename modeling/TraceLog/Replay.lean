import TraceLog.CommandLine
import TraceLog.Gate
import TraceLog.Trace

/-!
# Replaying Traces

The command: a recorded trace is logged again, with a manual clock that is set to the time of
each record in turn. The logger is configured first and the trace read after that. A faulty
line, or a time before the one of the record in front, stops the run with a complaint; what
was logged until then stays.

## Main definitions

* `Replay.options`: the options of a request.
* `Replay.logRecords`: the records of a trace, logged.
* `Replay.run`: the command.
-/

namespace TraceLog

namespace Replay

/-- The source of the command's own notices. -/
def noticeSource : String := "simlog.cli.main"

/-- The place in the program that records are logged from, at a moment. -/
def site (moment : Moment) : CallSite where
  file := "main.py"
  function := .text "replay"
  line := .int 106
  moment

/-- The options of a request. -/
def options (request : Request) : Options where
  level := .text request.level
  clockPrefix := .bool request.clockPrefix
  format := .text request.format
  filePath := request.file.map FilePath.ofText

/-- How the command ended. -/
inductive End where
  | completed
  /-- Help was asked for, and nothing else was done. -/
  | helped
  | complained (fault : UsageFault)
  | failed (fault : Fault)
  /-- A record could not be formatted. -/
  | aborted (fault : FormattingFault)
  deriving Repr

/-- The result of the command: the scene it leaves, the diagnostics it was run with, and how
it ended. -/
structure Result where
  scene : Scene
  diagnostics : Diagnostics := {}
  ending : End

/-- The end of a run that is stopped. -/
def endOfStop : Stop → End
  | .complaint text => .complained (.complaint text)
  | .fault fault => .failed fault

/-- Logs records one after the other, each at its own time, up to the first one that stops
the run; gives the number of records logged. Each call has a moment of its own. -/
def logRecords (platform : Platform) (moments : Nat → Moment) :
    List TraceRecord → Logger → Clock → Scene → Nat → Scene × Except End Nat
  | [], _, _, scene, count => (scene, .ok count)
  | record :: records, logger, clock, scene, count =>
    match clock.set (.real record.time) with
    | .error fault =>
      (scene, .error (.complained (.complaint s!"line {record.line}: {fault.message}")))
    | .ok clock =>
      let scene := { scene with clock := some clock }
      match logger.call platform (.printLine (.text record.message) (.int record.level))
          (site (moments count)) scene with
      | (logger, scene, .returned) =>
        logRecords platform moments records logger (scene.clock.getD clock) scene (count + 1)
      | (_, scene, .raised fault) => (scene, .error (.failed fault))
      | (_, scene, .aborted fault) => (scene, .error (.aborted fault))

/-- The bytes of a trace. -/
def traceBytes (standardInput : List UInt8) (files : FileTree) : TraceSource → List UInt8
  | .standardInput => standardInput
  | .file place => (files.content? place).getD []

/-- The end of a configuration that raised a fault: the library's own errors are complaints. -/
def endOfConfiguration : Fault → End
  | .configuration option value refusal =>
    .complained (.complaint (Fault.configuration option value refusal).message)
  | .sinkOpen path cause => .complained (.complaint (Fault.sinkOpen path cause).message)
  | fault => .failed fault

/-- Logs a trace with a logger. -/
def replayTrace (platform : Platform) (moments : Nat → Moment) (logger : Logger) (clock : Clock)
    (bytes : List UInt8) (scene : Scene) : Scene × End :=
  let (records, stop?) := Trace.readBytes bytes
  match logRecords platform moments records logger clock scene 0, stop? with
  | (scene, .error ending), _ => (scene, ending)
  | (scene, .ok _), some stop => (scene, endOfStop stop)
  | (scene, .ok count), none =>
    (scene.notify (.info noticeSource s!"Replayed {count} record(s)"), .completed)

/-- Carries out a request. -/
def perform (platform : Platform) (moments : Nat → Moment) (request : Request)
    (standardInput : List UInt8) (files : FileTree) : Result :=
  let clock := Clock.manual Number.Binary64.zero
  let scene : Scene := { clock := some clock, outlets := { files } }
  match Diagnostics.configure (.text request.logLevel) {} with
  | .error fault => { scene, ending := .failed fault }
  | .ok diagnostics =>
    let attempt := Gate.configure platform { clock := .own } (options request) [] scene
    match attempt.raised, attempt.gate.committed with
    | some fault, _ => { scene := attempt.scene, diagnostics, ending := endOfConfiguration fault }
    | none, none => { scene := attempt.scene, diagnostics, ending := .failed .notConfigured }
    | none, some logger =>
      let bytes := traceBytes standardInput attempt.scene.outlets.files request.trace
      let (scene, ending) := replayTrace platform moments logger clock bytes attempt.scene
      { scene, diagnostics, ending }

/-- The command: arguments, variables, standard input and files give a result. -/
def run (reader : OptionReader) (platform : Platform) (moments : Nat → Moment)
    (arguments : List String) (environment : Options.Variables) (standardInput : List UInt8)
    (files : FileTree) : Result :=
  let scene : Scene := { outlets := { files } }
  match reader.arguments arguments with
  | .error fault => { scene, ending := .complained fault }
  | .ok arguments =>
    if arguments.asksForHelp then { scene, ending := .helped } else
    match Request.ofArguments reader platform.directory files environment arguments with
    | .error (.usage fault) => { scene, ending := .complained fault }
    | .error (.fault fault) => { scene, ending := .failed fault }
    | .ok request => perform platform moments request standardInput files

/-! ### What the user sees -/

/-- The exit status. -/
def Result.status (result : Result) : Nat :=
  match result.ending with
  | .completed | .helped => 0
  | .complained _ => 2
  | .failed _ | .aborted _ => 1

/-- The standard output: the notices that the diagnostics let through, all at one time, or
the help that was asked for. -/
def Result.output (result : Result) (time : String) : String :=
  match result.ending with
  | .helped => helpText
  | _ => String.join (result.scene.notices.map fun notice =>
    match result.diagnostics.output [] time notice with
    | .ok s => s
    | .error _ => "")

/-- The standard error: the lines of the console with the reports among them, and a complaint behind
them. -/
def Result.errorOutput (result : Result) : String :=
  result.scene.outlets.errorText ++
    match result.ending with
    | .complained fault => fault.text
    | _ => ""

end Replay

end TraceLog
