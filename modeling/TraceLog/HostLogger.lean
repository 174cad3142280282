import TraceLog.Diagnostics
import TraceLog.Report
import TraceLog.Template.Filling
import TraceLog.Text.Word

/-!
# Host Loggers

The logger of the simulation's host, as far as this library touches it: a level, handlers
in order, and, while records propagate, a parent with one stream. A level of zero stands for the
level of the loggers above. A handler writes to a stream or to a file, or nowhere; a file may wait
to be opened for its first record. A handler that fails reports that on standard error.

Redirecting the logger ends propagation and moves every handler of a stream or a file to one
stream. A handler's old stream is flushed first, and closed when the handler was one of a
file. If flushing fails, redirecting stops where it is. A logger without such handlers is
given one.

## Main definitions

* `HostLogger`, `HostHandler`: the logger and its handlers.
* `HostRecord`: a record of the host.
* `checkTemplate`: the template of a handler's lines.
* `HostLogger.log`: a record of the host, delivered.
* `HostLogger.setOutput`: redirecting the logger.
-/

namespace TraceLog

/-! ### Handlers -/

/-- What a handler writes to. -/
inductive HandlerKind where
  | stream
  /-- A file at a place of the tree, and its absolute path. -/
  | file (place : Place) (path : FilePath)
  /-- Nothing at all. -/
  | null
  deriving DecidableEq, Repr

/-- The part of a directive behind its width or its precision, if there is one. -/
def afterSize : List Char → List Char
  | '*' :: rest => rest
  | s => s.dropWhile fun c => (Text.digitValue? c).isSome

/-- Whether a letter may stand for a conversion. Case does not count, so that the capital i with
a dot, the dotless i and the long s pass as well; that they stand for nothing is found out when
a record is written. -/
def isConversion (c : Char) : Bool :=
  "diouxefgcrsa%".toList.contains c.toLower || [0x130, 0x131, 0x17F].contains c.toNat

/-- Whether what stands behind a key completes a directive. -/
def endsDirective (s : List Char) : Bool :=
  let s := afterSize (s.dropWhile fun c => "#0+ -".toList.contains c)
  let s := match s with
    | '.' :: rest => if (afterSize rest).length < rest.length then afterSize rest else s
    | s => s
  s.head?.any isConversion

/-- Whether a template names a field anywhere: a key of letters, numbers and underscores, with
the rest of a directive behind it. -/
def namesField : List Char → Bool
  | [] => false
  | c :: s =>
    let here := match c, s with
      | '%', '(' :: more =>
        match more.takeWhile Text.isWord, more.dropWhile Text.isWord with
        | _ :: _, ')' :: rest => endsDirective rest
        | _, _ => false
      | _, _ => false
    here || namesField s

/-- The template that a handler is given. The empty one stands for the standard one, and one
that names no field is refused. -/
def checkTemplate (template : String) : Except Fault (Option String) :=
  if template = "" then .ok none
  else if namesField template.toList then .ok (some template)
  else .error (.uselessTemplate template)

/-- A handler: its kind, the least level it takes, the template of its lines, and its stream
unless that is still to be opened. -/
structure HostHandler where
  kind : HandlerKind
  level : Int := 0
  template : Option String := none
  target : Option Handle := none
  deriving DecidableEq, Repr

/-- The logger of a host. -/
structure HostLogger where
  name : String := "host.framework"
  level : Int := 10
  /-- The first level among the loggers above that is not zero. -/
  ancestorLevel : Int := 0
  handlers : List HostHandler := []
  parent : Option Handle := none
  propagate : Bool := true
  deriving DecidableEq, Repr

/-- How a call on the host's logger ended, with the outlets and the faults of single
handlers. -/
structure HostDelivery where
  host : HostLogger
  outlets : Outlets
  faults : List Fault := []
  raised : Option Fault := none

/-- A record of a host: the name of its logger, its level with the level's name, its message, and
where and when it was made. -/
structure HostRecord where
  name : String
  level : Int
  levelName : String
  message : String
  site : CallSite
  deriving Repr

namespace HostRecord

/-- The fields of a record that templates may name. The message is there before and after its
arguments, of which there are none; what a record tells of errors is null. The time of day is there
as a text when the template asks for it. -/
def fields (record : HostRecord) (withTime : Bool) : Value :=
  let site := record.site
  let moment := site.moment
  Value.dictOf ([(.text "name", .text record.name), (.text "msg", .text record.message),
    (.text "args", .tuple []), (.text "levelname", .text record.levelName),
    (.text "levelno", .int record.level), (.text "pathname", .text site.file),
    (.text "filename", .text (FilePath.lastPart site.file)),
    (.text "module", .text (FilePath.stem site.file)), (.text "exc_info", .null),
    (.text "exc_text", .null), (.text "stack_info", .null), (.text "lineno", site.line),
    (.text "funcName", site.function), (.text "created", .real moment.created),
    (.text "msecs", .real moment.msecs), (.text "relativeCreated", .real moment.relativeCreated),
    (.text "thread", .int moment.threadNumber), (.text "threadName", .text moment.threadName),
    (.text "processName", .text moment.processName), (.text "process", .int moment.processNumber),
    (.text "message", .text record.message)] ++
    if withTime then [(.text "asctime", .text moment.asctime)] else [])

/-- The report on a fault that a handler meets with a record. -/
def report (record : HostRecord) : Fault → Report :=
  .ofFault record.site.moment.frames (.text record.message) (.tuple [])

end HostRecord

/-- Whether a template asks for the time of day. -/
def namesTime : List Char → Bool
  | [] => false
  | c :: s => "%(asctime)".toList.isPrefixOf (c :: s) || namesTime s

namespace HostHandler

/-- The text of a record in the handler's own format. -/
def lineOf (handler : HostHandler) (record : HostRecord) : Except Fault String :=
  match handler.template with
  | none => .ok record.message
  | some template =>
    match Template.fill .text template.toList (record.fields (namesTime template.toList)) with
    | .ok line => .ok (String.ofList line)
    | .error (.template (.missingKey quoted)) => .error (.fieldNotFound quoted)
    | .error fault => .error fault

/-- Whether a handler has a stream or may get one. -/
def isStreamHandler (handler : HostHandler) : Bool :=
  handler.kind != .null

end HostHandler

namespace HostLogger

/-! ### Delivery -/

/-- The stream of a handler, which is opened now if the handler waited for its first
record. -/
def target (handler : HostHandler) (outlets : Outlets) :
    Except Fault (Option Handle × HostHandler × Outlets) :=
  match handler.kind, handler.target with
  | _, some handle => .ok (some handle, handler, outlets)
  | .file place path, none =>
    match outlets.openFile place with
    | .ok (handle, outlets) => .ok (some handle, { handler with target := some handle }, outlets)
    | .error cause => .error (.file path cause)
  | _, none => .ok (none, handler, outlets)

/-- A fault that a handler meets with a record: the outlets, the fault if it is noted, and what is
raised. -/
def met (record : HostRecord) (fault : Fault) (outlets : Outlets) :
    Outlets × List Fault × Option Fault :=
  let (outlets, raised) := outlets.meet record.report fault
  (outlets, if fault.passesOn then [] else [fault], raised)

/-- A record given to one handler: the handler afterwards, the outlets, the faults that are noted,
and the one that is raised. A file that does not open raises a fault at once. -/
def handleOne (record : HostRecord) (handler : HostHandler) (outlets : Outlets) :
    HostHandler × Outlets × List Fault × Option Fault :=
  match target handler outlets with
  | .error fault => (handler, outlets, [], some fault)
  | .ok (none, handler, outlets) => (handler, outlets, [], none)
  | .ok (some handle, handler, outlets) =>
    match handler.lineOf record with
    | .error fault => (handler, met record fault outlets)
    | .ok line =>
      match outlets.writeText (line ++ "\n") handle with
      | .ok outlets => (handler, outlets, [], none)
      | .error fault => (handler, met record (.stream fault) outlets)

/-- A record given to handlers in order, up to the first fault that is raised. -/
def handleAll (record : HostRecord) :
    List HostHandler → Outlets → List HostHandler × Outlets × List Fault × Option Fault
  | [], outlets => ([], outlets, [], none)
  | handler :: handlers, outlets =>
    if record.level < handler.level then
      let (rest, outlets, faults, raised) := handleAll record handlers outlets
      (handler :: rest, outlets, faults, raised)
    else
      match handleOne record handler outlets with
      | (handler, outlets, faults, some fault) =>
        (handler :: handlers, outlets, faults, some fault)
      | (handler, outlets, faults, none) =>
        let (rest, outlets, later, raised) := handleAll record handlers outlets
        (handler :: rest, outlets, faults ++ later, raised)

/-- The handler of the parent. -/
def parentHandler (handle : Handle) : HostHandler :=
  { kind := .stream, target := some handle }

/-- The handler of a record that no handler is there for: warnings go to the console. -/
def lastResort : HostHandler :=
  { kind := .stream, level := 30, target := some .console }

/-- The handlers that a record reaches after the logger's own ones. -/
def outerHandlers (host : HostLogger) : List HostHandler :=
  match host.propagate, host.parent with
  | true, some handle => [parentHandler handle]
  | _, _ => if host.handlers = [] then [lastResort] else []

/-- The level that records have to reach: that of the loggers above where the own one is zero. -/
def effectiveLevel (host : HostLogger) : Int :=
  if host.level = 0 then host.ancestorLevel else host.level

/-- A record of the host. -/
def log (host : HostLogger) (level : Int) (message : String) (site : CallSite)
    (outlets : Outlets) : HostDelivery :=
  if level < host.effectiveLevel ∨ level ≤ 0 then { host, outlets }
  else
    match Level.name level with
    | .error fault => { host, outlets, raised := some fault }
    | .ok levelName =>
      let record : HostRecord := { name := host.name, level, levelName, message, site }
      let (handlers, outlets, faults, raised) := handleAll record host.handlers outlets
      let host' := { host with handlers }
      match raised with
      | some fault => { host := host', outlets, faults, raised := some fault }
      | none =>
        let (_, outlets, outer, raised) := handleAll record host.outerHandlers outlets
        { host := host', outlets, faults := faults ++ outer, raised }

/-! ### Redirecting -/

/-- One handler moved to a stream; a handler that is there already is left alone. -/
def redirectOne (handle : Handle) (handler : HostHandler) (outlets : Outlets) :
    Except Fault (HostHandler × Outlets) :=
  match handler.target with
  | none => .ok ({ handler with target := some handle }, outlets)
  | some old =>
    if old = handle then .ok (handler, outlets)
    else match outlets.flush? old with
      | some fault => .error (.stream fault)
      | none =>
        let moved := { handler with target := some handle }
        match handler.kind with
        | .file .. => .ok (moved, outlets.close old)
        | _ => .ok (moved, outlets)

/-- Handlers moved to a stream in order, up to the first fault. -/
def redirectAll (handle : Handle) :
    List HostHandler → Outlets → List HostHandler × Outlets × Option Fault
  | [], outlets => ([], outlets, none)
  | handler :: handlers, outlets =>
    if handler.isStreamHandler then
      match redirectOne handle handler outlets with
      | .error fault => (handler :: handlers, outlets, some fault)
      | .ok (handler, outlets) =>
        let (rest, outlets, raised) := redirectAll handle handlers outlets
        (handler :: rest, outlets, raised)
    else
      let (rest, outlets, raised) := redirectAll handle handlers outlets
      (handler :: rest, outlets, raised)

/-- The source of notices on host loggers. -/
def noticeSource : String := "simlog.host"

/-- The logger redirected to a stream, and the notice of that. -/
def setOutput (host : HostLogger) (handle : Handle) (outlets : Outlets) :
    HostDelivery × Option Notice :=
  let host := { host with propagate := false }
  let count := (host.handlers.filter HostHandler.isStreamHandler).length
  if count = 0 then
    let added : HostHandler := { kind := .stream, target := some handle }
    ({ host := { host with handlers := host.handlers ++ [added] }, outlets },
      some (.debug noticeSource
        s!"Host logger {Text.quoted host.name} had no stream handlers; attached one"))
  else
    let (handlers, outlets, raised) := redirectAll handle host.handlers outlets
    let host := { host with handlers }
    match raised with
    | some fault => ({ host, outlets, raised := some fault }, none)
    | none =>
      ({ host, outlets }, some (.debug noticeSource
        s!"Redirected {count} handler(s) of host logger {Text.quoted host.name}"))

end HostLogger

end TraceLog
