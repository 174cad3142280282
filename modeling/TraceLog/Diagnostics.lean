import TraceLog.Level
import TraceLog.Number.Radix

/-!
# Diagnostics

The library's reports on its own actions. They belong to one tree of loggers with a single
root, which is silent until it is configured; from then on it has exactly one handler, a
level, and no connection to loggers outside of the tree. The level is chosen by name; an
unknown name chooses the level of information, while a few names of the logging facility mean
something that is no level, and are refused.

The logger above another one is found by its name, which goes on with a point and the rest of
the name below. Of two points in a row the first one is passed over, unless a logger was asked
for by the name that ends there.

## Main definitions

* `Notice`: one report.
* `Diagnostics`, `Diagnostics.configure`: the root of the tree, and its configuration.
* `Diagnostics.RootLogger`, `Diagnostics.RootLogger.call`: the same with the handlers themselves and
  one update after the other, so that a call may fail between two of them.
* `Diagnostics.loggerName`, `Diagnostics.inTree`: the name of the logger for a module, and whether
  it belongs to the tree.
* `Diagnostics.output`: what a notice prints.
-/

namespace TraceLog

/-- A report of the library on its own actions. -/
structure Notice where
  level : Int
  source : String
  text : String
  deriving DecidableEq, Repr

namespace Notice

/-- A notice of the level for debugging. -/
def debug (source text : String) : Notice := ⟨10, source, text⟩

/-- A notice of the level for information. -/
def info (source text : String) : Notice := ⟨20, source, text⟩

end Notice

/-- The root of the library's loggers: its level, zero if none was chosen, the number of its
handlers, and whether records go on to loggers outside. -/
structure Diagnostics where
  level : Int := 0
  handlers : Nat := 0
  propagate : Bool := true
  deriving DecidableEq, Repr

namespace Diagnostics

/-- The name of the root. -/
def root : String := "simlog"

/-- What a name of the logging facility means. -/
inductive Named where
  | level (n : Int)
  | text (s : String)
  | other (shown : String)
  deriving DecidableEq, Repr

/-- The names in capitals of the logging facility. -/
def facility : Table String Named :=
  [("DEBUG", .level 10), ("INFO", .level 20), ("WARN", .level 30), ("WARNING", .level 30),
    ("ERROR", .level 40), ("CRITICAL", .level 50), ("FATAL", .level 50), ("NOTSET", .level 0),
    ("BASIC_FORMAT", .text "%(levelname)s:%(name)s:%(message)s"),
    ("_STYLES", .other ("\x7b'%': (<class 'logging.PercentStyle'>, " ++
      "'%(levelname)s:%(name)s:%(message)s'), '\x7b': (<class 'logging.StrFormatStyle'>, " ++
      "'\x7blevelname\x7d:\x7bname\x7d:\x7bmessage\x7d'), " ++
      "'$': (<class 'logging.StringTemplateStyle'>, " ++
      "'$\x7blevelname\x7d:$\x7bname\x7d:$\x7bmessage\x7d')\x7d"))]

/-- The level that a value chooses: a text, in any case. -/
def levelOf : Value → Except Fault Int
  | .text s =>
    match facility.find? (String.ofList (Text.capitals s.toList)) with
    | some (.level n) => .ok n
    | some (.text t) => .error (.unknownDiagnosticLevel t)
    | some (.other shown) => .error (.notDiagnosticLevel shown)
    | none => .ok Level.standard
  | .bytes bs => .error (.attributeNotText (Value.kindName (.bytes bs)))
  | v => .error (.noAttribute v.kindName "upper")

/-- The diagnostics configured with the level that a value chooses. All handlers give way to
a single one. -/
def configure (level : Value) (_ : Diagnostics) : Except Fault Diagnostics := do
  let n ← levelOf level
  return { level := n, handlers := 1, propagate := false }

/-! ### A configuration, update by update -/

/-- What a value names: a text, in any case, what the logging facility has under that name, and the
level of information where there is nothing. -/
def lookUp : Value → Except Fault Named
  | .text s =>
    .ok ((facility.find? (String.ofList (Text.capitals s.toList))).getD (.level Level.standard))
  | .bytes bs => .error (.attributeNotText (Value.kindName (.bytes bs)))
  | v => .error (.noAttribute v.kindName "upper")

/-- A level is taken as it is, and everything else is refused. -/
def Named.toLevel : Named → Except Fault Int
  | .level n => .ok n
  | .text t => .error (.unknownDiagnosticLevel t)
  | .other shown => .error (.notDiagnosticLevel shown)

/-- The logger at the root of the tree, with its handlers themselves. A handler bears the number of
the call that made it. -/
structure RootLogger where
  level : Int := 0
  handlers : List Nat := []
  propagate : Bool := true
  deriving DecidableEq, Repr

/-- One change to the logger at the root. -/
inductive Update where
  | setLevel (named : Named)
  | clearHandlers
  | addHandler (handler : Nat)
  | endPropagation
  deriving DecidableEq, Repr

namespace RootLogger

/-- The logger after an update. A handler that is there already is not added again. -/
def apply (logger : RootLogger) : Update → Except Fault RootLogger
  | .setLevel named => do
    let n ← named.toLevel
    return { logger with level := n }
  | .clearHandlers => return { logger with handlers := [] }
  | .addHandler handler =>
    if handler ∈ logger.handlers then return logger
    else return { logger with handlers := logger.handlers ++ [handler] }
  | .endPropagation => return { logger with propagate := false }

/-- Updates in order, up to the first fault. What was changed before it stays changed. -/
def applyAll (logger : RootLogger) : List Update → RootLogger × Option Fault
  | [] => (logger, none)
  | update :: updates =>
    match logger.apply update with
    | .error fault => (logger, some fault)
    | .ok next => next.applyAll updates

/-- The updates of a configuration, in their order. -/
def updates (handler : Nat) (named : Named) : List Update :=
  [.setLevel named, .clearHandlers, .addHandler handler, .endPropagation]

/-- A call to configure the logger, which makes a handler of its own. -/
def call (logger : RootLogger) (handler : Nat) (level : Value) : RootLogger × Option Fault :=
  match lookUp level with
  | .error fault => (logger, some fault)
  | .ok named => logger.applyAll (updates handler named)

/-- The logger with its handlers counted. -/
def counted (logger : RootLogger) : Diagnostics :=
  { level := logger.level, handlers := logger.handlers.length, propagate := logger.propagate }

end RootLogger

/-! ### Loggers of the tree -/

/-- The name of the logger for a module: the name of the root with a point and that of the module
behind it, unless the latter starts with the name of the root by itself. -/
def loggerName (name : String) : String :=
  if root.toList.isPrefixOf name.toList then name else root ++ "." ++ name

/-- Whether the loggers above one lead up to the root, for names that are read from the back. The
logger above is looked for at the points of the name, from the last one on, among the loggers that
were `made`. Where there is none, the character in front of the point is passed over, also when it
is a point itself. -/
def leadsUp (made : List (List Char)) : List Char → Bool
  | c :: d :: front =>
    if c = '.' then
      if d :: front = root.toList.reverse then true
      else if made.contains (d :: front) then leadsUp made (d :: front)
      else leadsUp made front
    else leadsUp made (d :: front)
  | _ => false

/-- Whether the logger of a name belongs to the tree of the root, when loggers of the names `made`
are there besides. -/
def inTree (made : List String) (name : String) : Bool :=
  name == root || leadsUp (made.map fun other => other.toList.reverse) name.toList.reverse

/-- The level that records of the tree must reach: that of the root or, when it has none, the
level of warnings. -/
def effectiveLevel (diagnostics : Diagnostics) : Int :=
  if diagnostics.level = 0 then 30 else diagnostics.level

/-- The line of a notice. -/
def line (time : String) (notice : Notice) (levelName : String) : String :=
  time ++ " | " ++ String.ofList (Number.padRight 8 ' ' levelName.toList) ++ " | " ++
    notice.source ++ " | " ++ notice.text ++ "\n"

/-- What a notice prints when loggers of the names `made` are there: its line, once for each
handler, if its logger is in the tree and its level is reached. -/
def output (diagnostics : Diagnostics) (made : List String) (time : String) (notice : Notice) :
    Except Fault String :=
  if 0 < notice.level ∧ diagnostics.effectiveLevel ≤ notice.level ∧
      inTree made notice.source then do
    let levelName ← Level.name notice.level
    return String.join (List.replicate diagnostics.handlers (line time notice levelName))
  else .ok ""

end Diagnostics

end TraceLog
