import TraceLog.Invocation

/-!
# Sessions

A run of a host against the library, one step after the other: configurations of a gate and
of the process, logging calls on the logger that was returned first, clock moves, and calls
on the host's own logger. Each step gives an answer, raises a fault, or ends the process;
what streams and files have received stands in the scene.

## Main definitions

* `Step`: the steps.
* `Session`, `Session.step`: the state of a run, and one step.
* `Session.run`: a run up to its end, with all states on the way.
-/

namespace TraceLog

/-- Which gate a logger came from. -/
inductive Owner where
  | host
  | process
  deriving DecidableEq, Repr

/-- The options of a configuration: fields or properties. -/
inductive OptionSource where
  | fields (entries : Table String Value)
  | properties (entries : Table String Value)
  deriving Repr

/-- The options that a source gives. -/
def OptionSource.load : OptionSource → Except Fault Options
  | .fields entries => Options.ofFields entries
  | .properties entries => Options.ofProperties entries

/-- An invocation with options from a source, if they are passed, and arguments by name. -/
def Invocation.load (source : Option OptionSource) (named : Table String Value) :
    Except Fault Invocation :=
  match source with
  | some source => source.load.map fun options => ⟨some options, named⟩
  | none => .ok ⟨none, named⟩

/-- A step of a session. -/
inductive Step where
  /-- Configures the host's gate with options, if they are passed, and arguments by name. -/
  | configure (source : Option OptionSource) (named : Table String Value)
  /-- Configures the process, with the host's clock and logger as far as they are passed, and
  with the host's failure policy unless it is the standard one. -/
  | configureProcess (source : Option OptionSource) (named : Table String Value)
      (passClock passHost : Bool)
  | current
  | currentOfProcess
  | isConfigured
  | inspect
  | log (call : Logger.Call) (site : CallSite)
  | attach (stream : String) (device : Device)
  | clockText
  | setClock (value : Value)
  | advanceClock (delta : Value)
  | close (stream : String)
  | discard (text : String)
  | logHost (level : Value) (message : String) (site : CallSite)
  | redirectHost (stream : String) (device : Device)
  | inspectHost
  deriving Repr

/-- What a step answers. -/
inductive Answer where
  | nothing
  /-- Whether the logger asked for is the one that was returned first. -/
  | isFirst (same : Bool)
  | flag (b : Bool)
  | text (s : String)
  | value (v : Value)
  | logger (logger : Logger)
  | sink (kind : SinkKind)
  /-- Whether the discarding stream may be written to, and the length it reports. -/
  | discarded (writable : Bool) (length : Nat)
  | hostLogger (host : HostLogger)

/-- How a step ended. -/
inductive StepEnd where
  | answered (answer : Answer)
  | raised (fault : Fault)
  | aborted (fault : FormattingFault)

/-- The status that the process ends with, if a step ends it. -/
def StepEnd.status? : StepEnd → Option Nat
  | .aborted _ => some 1
  | _ => none

/-- The state of a session: both gates, the owner of the logger that was returned first, and
the scene. -/
structure Session where
  platform : Platform := {}
  gate : Gate := {}
  processGate : Option Gate := none
  first : Option Owner := none
  scene : Scene := {}

namespace Session

/-- The logger of an owner. -/
def loggerOf (session : Session) : Owner → Except Fault Logger
  | .host => session.gate.current
  | .process => ProcessGate.current session.processGate

/-- The logger that was returned first. -/
def logger (session : Session) : Except Fault Logger :=
  match session.first with
  | some owner => session.loggerOf owner
  | none => .error .notConfigured

/-- The session with another state of the logger that was returned first. -/
def setLogger (session : Session) (logger : Logger) : Session :=
  match session.first with
  | some .host => { session with gate := { session.gate with committed := some logger } }
  | some .process =>
    { session with
      processGate := session.processGate.map fun gate => { gate with committed := some logger } }
  | none => session

/-- Answers that the logger of `owner` was returned. -/
def returned (session : Session) (owner : Owner) : Session × StepEnd :=
  let first := session.first.getD owner
  ({ session with first := some first }, .answered (.isFirst (first == owner)))

/-- The end of a configuration of the gate of `owner`. -/
def finish (session : Session) (owner : Owner) (raised : Option Fault) : Session × StepEnd :=
  match raised with
  | some fault => (session, .raised fault)
  | none => session.returned owner

/-- The answer to a request for the logger of `owner`. -/
def identify (session : Session) (owner : Owner) : StepEnd :=
  match session.loggerOf owner with
  | .ok _ => .answered (.isFirst (session.first == some owner))
  | .error fault => .raised fault

/-- The end of a step from the end of a logging call. -/
def endOfCall : CallEnd → StepEnd
  | .returned => .answered .nothing
  | .raised fault => .raised fault
  | .aborted fault => .aborted fault

/-- The session with a named stream, which is made unless it is there. -/
def ensure (session : Session) (stream : String) (device : Device) : Session :=
  { session with scene :=
      { session.scene with outlets := session.scene.outlets.ensure stream device } }

/-- Moves the clock by `move`, which is known by a name. -/
def moveClock (session : Session) (name : String) (move : Clock → Except Fault Clock)
    (answer : Clock → Answer) : Session × StepEnd :=
  match session.scene.clock with
  | none => (session, .raised (.noAttribute (Value.kindName .null) name))
  | some clock =>
    match move clock with
    | .error fault => (session, .raised fault)
    | .ok clock =>
      ({ session with scene := { session.scene with clock := some clock } },
        .answered (answer clock))

/-- The time that a manual clock shows. -/
def timeShown (clock : Clock) : Answer :=
  match clock.source with
  | .manual time => .value (.real time)
  | .scripted .. | .other _ => .nothing

/-- The session after a call on the host's logger. -/
def afterHost (session : Session) (delivery : HostDelivery) (notice : Option Notice) :
    Session × StepEnd :=
  let scene := { session.scene with host := some delivery.host, outlets := delivery.outlets }
  let scene := scene.noteFaults delivery.faults
  let scene := notice.elim scene scene.notify
  ({ session with scene },
    match delivery.raised with
    | some fault => .raised fault
    | none => .answered .nothing)

/-- What is passed to a configuration of the process. -/
def passed (session : Session) (passClock passHost : Bool) : Passed where
  clock := if passClock then some (.ofHost session.scene.clock.isSome) else none
  hostLogger := if passHost then some (.ofHost session.scene.host.isSome) else none
  policy := match session.gate.policy with
    | .abort => none
    | policy => some policy

/-- One step. -/
def step (session : Session) : Step → Session × StepEnd
  | .configure source named =>
    match Invocation.load source named with
    | .error fault => (session, .raised fault)
    | .ok call =>
      let attempt := session.gate.invoke session.platform call session.scene
      { session with gate := attempt.gate, scene := attempt.scene }.finish .host attempt.raised
  | .configureProcess source named passClock passHost =>
    match Invocation.load source named with
    | .error fault => (session, .raised fault)
    | .ok call =>
      let attempt := ProcessGate.invoke session.platform session.processGate
        (session.passed passClock passHost) call session.scene
      { session with processGate := some attempt.gate, scene := attempt.scene }.finish
        .process attempt.raised
  | .current => (session, session.identify .host)
  | .currentOfProcess => (session, session.identify .process)
  | .isConfigured => (session, .answered (.flag session.gate.committed.isSome))
  | .inspect =>
    match session.logger with
    | .ok logger => (session, .answered (.logger logger))
    | .error fault => (session, .raised fault)
  | .log call site =>
    match session.logger with
    | .error fault => (session, .raised fault)
    | .ok logger =>
      let (logger, scene, ending) := logger.call session.platform call site session.scene
      ({ session with scene }.setLogger logger, endOfCall ending)
  | .attach stream device =>
    match session.logger with
    | .error fault => (session, .raised fault)
    | .ok logger =>
      let session := session.ensure stream device
      let sink := Sink.forStream session.scene.outlets (.named stream)
      (session.setLogger (logger.attach sink), .answered (.sink sink.kind))
  | .clockText =>
    match session.logger with
    | .error fault => (session, .raised fault)
    | .ok logger =>
      let (time, scene) := logger.clockText session.scene
      ({ session with scene }, match time with
        | .ok s => .answered (.text s)
        | .error fault => .raised fault)
  | .setClock value => session.moveClock "set" (Clock.set · value) fun _ => .nothing
  | .advanceClock delta => session.moveClock "advance" (Clock.advance · delta) timeShown
  | .close stream =>
    let session := session.ensure stream (.text "")
    ({ session with scene :=
        { session.scene with outlets := session.scene.outlets.close (.named stream) } },
      .answered .nothing)
  | .discard text => (session, .answered (.discarded true text.length))
  | .logHost level message site =>
    match session.scene.host with
    | none => (session, .raised (.noAttribute (Value.kindName .null) "log"))
    | some host =>
      match Level.ofRecord level with
      | .error fault => (session, .raised fault)
      | .ok level => session.afterHost (host.log level message site session.scene.outlets) none
  | .redirectHost stream device =>
    let session := session.ensure stream device
    match session.scene.host with
    | none => (session, .raised (.noAttribute (Value.kindName .null) "set_output"))
    | some host =>
      let (delivery, notice) := host.setOutput (.named stream) session.scene.outlets
      session.afterHost delivery notice
  | .inspectHost =>
    match session.scene.host with
    | none => (session, .raised (.noAttribute (Value.kindName .null) "target"))
    | some host => (session, .answered (.hostLogger host))

/-- A run: the state and the ending of each step, up to the step that ends the process. -/
def run (session : Session) : List Step → List (Session × StepEnd)
  | [] => []
  | step :: steps =>
    let (next, ending) := session.step step
    match ending with
    | .aborted fault => [(next, .aborted fault)]
    | ending => (next, ending) :: next.run steps

end Session

end TraceLog
