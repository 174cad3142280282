import TraceLog.Gate

/-!
# Invocations

Configurations as a host writes them. The options come first, unless they are left out; the
rest is given by name, and overrides fields of the options. But a name may be that of a
parameter of the call itself. If that parameter has its argument already, the call fails
before anything is done. If not, the value under the name is taken for the argument: a value
that is null or empty in the place of options stands for the defaults, and a value in the
place of the clock, the host's logger or the failure policy is found to be none when it is
used.

## Main definitions

* `Invocation`: the arguments of a configuration.
* `Gate.invoke`: an invocation on a gate.
* `ProcessGate.invoke`: an invocation on the gate of the process.
-/

namespace TraceLog

/-- The arguments of a configuration: the options, if they are passed, and arguments by
name. -/
structure Invocation where
  options : Option Options := none
  named : Table String Value := []

namespace Invocation

/-- The fault of naming a parameter that has its argument: the gate itself or, if they are
passed, the options. -/
def collision? (callee : String) (taken : List String) (call : Invocation) : Option Fault :=
  let taken := taken ++ if call.options.isSome then ["options"] else []
  (List.find? (fun argument => taken.contains argument.1) call.named).map fun argument =>
    .repeatedArgument callee argument.1

/-- The arguments that override fields: those under other names than the given ones. -/
def overrides (parameters : List String) (call : Invocation) : Table String Value :=
  List.filter (fun argument => !parameters.contains argument.1) call.named

/-- The options that a value in their place stands for, when fields are to be overridden. A
value that counts as true has none of the fields. -/
def optionsOf (value : Value) (overrides : Table String Value) : Except Fault Options :=
  if !value.isTrue then .ok {}
  else if overrides.isEmpty then .error (.noAttribute value.kindName "format")
  else .error .notOptions

end Invocation

/-- An invocation on a gate. A gate that has its logger does not look at the options. -/
def Gate.invoke (platform : Platform) (gate : Gate) (call : Invocation) (scene : Scene) :
    Attempt :=
  match call.collision? "ConfigurationGate.configure" ["self"] with
  | some fault => { gate, scene, raised := some fault }
  | none =>
    let overrides := call.overrides ["options"]
    let options : Except Fault Options :=
      match call.options, Table.find? "options" call.named with
      | some options, _ => .ok options
      | none, some value =>
        if gate.committed.isSome then .ok {} else Invocation.optionsOf value overrides
      | none, none => .ok {}
    match options with
    | .error fault => { gate, scene, raised := some fault }
    | .ok options => gate.configure platform options overrides scene

/-- What is passed along with an invocation on the gate of the process. -/
structure Passed where
  clock : Option Collaborator := none
  hostLogger : Option Collaborator := none
  policy : Option FailurePolicy := none

namespace Passed

/-- The names of what is passed. -/
def names (passed : Passed) : List String :=
  (if passed.clock.isSome then ["clock"] else []) ++
    (if passed.hostLogger.isSome then ["host_logger"] else []) ++
    (if passed.policy.isSome then ["failure_strategy"] else [])

/-- What is passed, together with the arguments by name. -/
def orNamed (passed : Passed) (named : Table String Value) : Passed where
  clock := passed.clock <|> (named.find? "clock").map .value
  hostLogger := passed.hostLogger <|> (named.find? "host_logger").map .value
  policy := passed.policy <|> (named.find? "failure_strategy").map .value

end Passed

namespace ProcessGate

/-- The parameters of a configuration of the process. -/
def parameters : List String :=
  ["options", "clock", "host_logger", "failure_strategy"]

/-- An invocation on the gate of the process, which until now is `gate`, if any. The gate is
built from what is passed, and then invoked with the rest. -/
def invoke (platform : Platform) (gate : Option Gate) (passed : Passed) (call : Invocation)
    (scene : Scene) : Attempt :=
  let stopped (fault : Fault) : Attempt :=
    { gate := gate.getD {}, scene, raised := some fault }
  match List.find? (fun argument => passed.names.contains argument.1) call.named with
  | some argument => stopped (.repeatedName "simlog.gate.configure" argument.1)
  | none =>
    match call.collision? "configure" [] with
    | some fault => stopped fault
    | none =>
      let passed := passed.orNamed call.named
      let named := call.overrides (parameters.drop 1)
      (ProcessGate.gateFor gate (passed.clock.getD .absent) (passed.hostLogger.getD .absent)
        (passed.policy.getD .abort)).invoke platform { call with named } scene

end ProcessGate

end TraceLog
