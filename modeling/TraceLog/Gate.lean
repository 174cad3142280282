import TraceLog.Logger

/-!
# Configuration Gates

A gate builds its logger at the first configuration that succeeds, and gives the same logger
back from then on, whatever it is asked. A configuration validates the format, the level, and
that the host brings what the options ask for, in this order, before it opens the log file;
muting the host's logger comes last.

The process as a whole has a gate of its own, which is built anew by each configuration until
one succeeds.

## Main definitions

* `Gate`: the collaborators of a host, and the logger once there is one.
* `Gate.configure`: a configuration.
* `ProcessGate.configure`: a configuration of the gate of the process.
-/

namespace TraceLog

/-- A gate: what the host brings, and the committed logger. -/
structure Gate where
  clock : Collaborator := .absent
  hostLogger : Collaborator := .absent
  renderTime : TimeRenderer := formatTime
  policy : FailurePolicy := .abort
  name : String := "simlog.trace"
  committed : Option Logger := none

/-- A configuration's result: the gate and the scene afterwards, and the fault if it raised
one. -/
structure Attempt where
  gate : Gate
  scene : Scene
  raised : Option Fault := none

/-- Options that were found to be sound: what they select, and from where on. -/
structure Settings where
  options : Options
  spec : FormatSpec Accessor
  threshold : Int

namespace Gate

/-- The source of notices on configurations. -/
def noticeSource : String := "simlog.gate"

/-- The logger of a gate. -/
def current (gate : Gate) : Except Fault Logger :=
  match gate.committed with
  | some logger => .ok logger
  | none => .error .notConfigured

/-- Validates options, with overriding fields, against what the host brings. Nothing is
opened yet. -/
def validate (gate : Gate) (options : Options) (overrides : Table String Value) :
    Except Fault Settings := do
  let options ← options.override overrides
  let spec ← FormatSpec.parse standardFields options.format
  let threshold ← Level.parse options.level
  if options.clockPrefix.isTrue && !gate.clock.isGiven then
    throw (.refuse "clock_prefix" (.bool true) .noClock)
  if options.suppressHost.isTrue && !gate.hostLogger.isGiven then
    throw (.refuse "suppress_host_logger" (.bool true) .noHostLogger)
  return { options, spec, threshold }

/-- Opens the first sink: the log file, which is emptied, or the console. A zero character is
refused in the absolute path, which is the one that is opened, and then in the path as it was
given, when the file is there already. -/
def openSink (platform : Platform) (options : Options) (scene : Scene) :
    Scene × Except Fault Sink :=
  match options.filePath with
  | none => (scene, .ok ⟨.line, .console⟩)
  | some path =>
    let absolute := path.absolute platform.directory
    if absolute.holdsZero then (scene, .error .zeroCharacter)
    else
      match scene.outlets.openFile absolute.parts with
      | .error cause => (scene, .error (.sinkOpen path cause))
      | .ok (handle, outlets) =>
        let scene := { scene with outlets }
        if path.holdsZero then (scene, .error .zeroCharacter)
        else
          (scene.notify (.info noticeSource s!"Redirecting output to {absolute.toText}"),
            .ok ⟨.file, handle⟩)

/-- Mutes the host's logger, if that is asked for, by redirecting it to a stream that
discards everything. A value in its place cannot be redirected. -/
def muteHost (gate : Gate) (options : Options) (scene : Scene) : Scene × Option Fault :=
  match options.suppressHost.isTrue, gate.hostLogger, scene.host with
  | true, .value v, _ => (scene, some (.noAttribute v.kindName "set_output"))
  | true, .own, some host =>
    let (handle, outlets) := scene.outlets.openStream .discard
    let (delivery, notice) := host.setOutput handle outlets
    let scene := { scene with host := some delivery.host, outlets := delivery.outlets }
    let scene := notice.elim scene scene.notify
    match delivery.raised with
    | some fault => (scene, some fault)
    | none =>
      (scene.notify (.debug noticeSource "Host logger output redirected to a discard sink"), none)
  | _, _, _ => (scene, none)

/-- The logger that settings describe. -/
def build (gate : Gate) (settings : Settings) (sink : Sink) : Logger where
  options := settings.options
  name := gate.name
  threshold := settings.threshold
  layout :=
    { spec := settings.spec
      clockPrefix := settings.options.clockPrefix.isTrue
      renderTime := gate.renderTime }
  clock := gate.clock
  policy := gate.policy
  sinks := [sink]

/-- Reports a committed logger. The report fails when the threshold is too long to be
written. -/
def announce (settings : Settings) (scene : Scene) : Scene × Option Fault :=
  match Level.name settings.threshold with
  | .error fault => (scene, some fault)
  | .ok levelName =>
    let clockPrefix := settings.options.clockPrefix.text?.getD ""
    (scene.notify (.debug noticeSource ("Logger configured: level=" ++ levelName ++ " format=" ++
      settings.spec.toText ++ " clock_prefix=" ++ clockPrefix)), none)

/-- Configures a gate. -/
def configure (platform : Platform) (gate : Gate) (options : Options)
    (overrides : Table String Value) (scene : Scene) : Attempt :=
  match gate.committed with
  | some _ =>
    { gate
      scene := scene.notify
        (.debug noticeSource "Logger already configured; ignoring configure() call") }
  | none =>
    match gate.validate options overrides with
    | .error fault => { gate, scene, raised := some fault }
    | .ok settings =>
      match openSink platform settings.options scene with
      | (scene, .error fault) => { gate, scene, raised := some fault }
      | (scene, .ok sink) =>
        match gate.muteHost settings.options scene with
        | (scene, some fault) => { gate, scene, raised := some fault }
        | (scene, none) =>
          let (scene, raised) := announce settings scene
          { gate := { gate with committed := some (gate.build settings sink) }, scene, raised }

/-- A gate that has its logger keeps it: a later configuration only leaves a notice. -/
theorem configure_of_committed (platform : Platform) {gate : Gate} {logger : Logger}
    (h : gate.committed = some logger) (options : Options) (overrides : Table String Value)
    (scene : Scene) :
    (gate.configure platform options overrides scene).gate = gate ∧
      (gate.configure platform options overrides scene).raised = none := by
  simp [configure, h]

end Gate

namespace ProcessGate

/-- The gate that a configuration of the process goes to, where `gate` is the one until now, if
any. Before the first success each configuration builds the gate anew from its own
collaborators. -/
def gateFor (gate : Option Gate) (clock hostLogger : Collaborator) (policy : FailurePolicy) :
    Gate :=
  match gate with
  | some gate => if gate.committed.isSome then gate else { clock, hostLogger, policy }
  | none => { clock, hostLogger, policy }

/-- Configures the gate of the process. -/
def configure (platform : Platform) (gate : Option Gate) (clock hostLogger : Collaborator)
    (policy : FailurePolicy) (options : Options) (overrides : Table String Value)
    (scene : Scene) : Attempt :=
  (gateFor gate clock hostLogger policy).configure platform options overrides scene

/-- The logger of the process. -/
def current (gate : Option Gate) : Except Fault Logger :=
  match gate with
  | some gate => gate.current
  | none => .error .notConfigured

end ProcessGate

end TraceLog
