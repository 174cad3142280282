import TraceLog.Fault

/-!
# Errors as Values

The library's errors, built by a caller from values: a kind and its positional arguments give
a message and named attributes. An error of the general kind shows its one argument, or the
tuple of several.

## Main definitions

* `ErrorKind`: the five kinds of errors.
* `ErrorValue.make`: the error of a kind with some arguments.
-/

namespace TraceLog

/-- The kinds of the library's errors. -/
inductive ErrorKind where
  | general
  | configuration
  | sinkOpen
  | formatting
  | notConfigured
  deriving DecidableEq, Repr

namespace ErrorKind

/-- The name of a kind. -/
def title : ErrorKind → String
  | .general => "SimLogError"
  | .configuration => "ConfigurationError"
  | .sinkOpen => "SinkOpenError"
  | .formatting => "FormattingError"
  | .notConfigured => "NotConfiguredError"

/-- The names of the arguments; none for kinds that take any number. -/
def parameters? : ErrorKind → Option (List String)
  | .configuration => some ["option", "value", "detail"]
  | .sinkOpen => some ["path", "detail"]
  | .formatting => some ["selector", "detail"]
  | .general | .notConfigured => none

/-- Only a log file that does not open counts as an error of the system as well. -/
def isSystemError : ErrorKind → Bool
  | .sinkOpen => true
  | _ => false

end ErrorKind

/-- An attribute of an error. -/
inductive Attribute where
  | value (v : Value)
  | path (p : FilePath)
  deriving Repr

/-- An error with its message and attributes. -/
structure ErrorValue where
  kind : ErrorKind
  message : String
  attributes : List (String × Attribute)
  deriving Repr

namespace ErrorValue

/-- Names in an enumeration. -/
def enumerate : List String → String
  | [] => ""
  | [a] => s!"'{a}'"
  | [a, b] => s!"'{a}' and '{b}'"
  | names =>
    commaList (names.dropLast.map fun a => s!"'{a}'") ++ ", and '" ++
      names.getLast?.getD "" ++ "'"

/-- The fault of a call with a wrong number of arguments. -/
def wrongCount (kind : ErrorKind) (parameters : List String) (given : Nat) : Fault :=
  let missing := parameters.drop given
  .raised "TypeError" (s!"{kind.title}.__init__() " ++
    if missing = [] then
      s!"takes {parameters.length + 1} positional arguments but {given + 1} were given"
    else
      s!"missing {missing.length} required positional argument" ++
        (if missing.length = 1 then "" else "s") ++ s!": {enumerate missing}")

/-- The error of a kind with some arguments. -/
def make (kind : ErrorKind) (args : List Value) : Except Fault ErrorValue :=
  match kind, args with
  | .configuration, [option, value, detail] => do
    let message :=
      refusalMessage (← option.plainText) (← value.quotedText) (← detail.plainText)
    return ⟨kind, message,
      [("option", .value option), ("value", .value value), ("detail", .value detail)]⟩
  | .sinkOpen, [path, detail] => do
    let path ← FilePath.ofValue path
    return ⟨kind, sinkOpenMessage path.toText (← detail.plainText),
      [("path", .path path), ("detail", .value detail)]⟩
  | .formatting, [selector, detail] => do
    let message := FormattingFault.message ⟨← selector.plainText, ← detail.plainText⟩
    return ⟨kind, message, [("selector", .value selector), ("detail", .value detail)]⟩
  | kind, args =>
    match kind.parameters?, args with
    | some parameters, args => .error (wrongCount kind parameters args.length)
    | none, [] => .ok ⟨kind, "", []⟩
    | none, [v] => do return ⟨kind, ← v.plainText, []⟩
    | none, args => do return ⟨kind, ← (Value.tuple args).quotedText, []⟩

end ErrorValue

end TraceLog
