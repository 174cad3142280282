import TraceLog.CallSite
import TraceLog.FormatSpec
import TraceLog.Level
import TraceLog.Template.Filling

/-!
# Records

One logging call as it reaches the sinks, and the fields that can be selected from it. The
text of a record is its message or, when the record carries arguments, the message filled in
as a template. A record made elsewhere may lack a sequence number; selecting it then fails.

## Main definitions

* `Record`, `Record.text`: a record and its text.
* `Accessor`, `standardFields`: the selectable fields.
-/

namespace TraceLog

open Number

/-- A log record. -/
structure Record where
  name : Value := .text "sim.trace"
  /-- What is shown for the level. -/
  levelName : Value := .text "INFO"
  /-- The path of the file that the call stands in, if it is known. -/
  file : Value := .text "sim.py"
  line : Value := .int 1
  message : Value := .text "boot"
  arguments : Value := .tuple []
  function : Value := .null
  /-- The time of the call, in seconds. -/
  created : Value := .int 0
  thread : Value := .int 1
  threadName : Value := .text "MainThread"
  process : Value := .int 1
  sequence : Option Value := none
  /-- What reports on the record show of its call. -/
  frames : Frames := {}
  deriving Repr

/-- A field of a record. -/
abbrev Accessor : Type := Record → Except Fault Value

namespace Record

/-- A tuple or list of exactly one dictionary that is not empty stands for the dictionary. -/
def unwrapArguments : Value → Value
  | .tuple [.dict (entry :: entries)] => .dict (entry :: entries)
  | .list [.dict (entry :: entries)] => .dict (entry :: entries)
  | v => v

/-- The text of a record. -/
def text (record : Record) : Except Fault Value := do
  let s ← record.message.plainText
  if record.arguments.isTrue then Value.remainder (.text s) record.arguments
  else return .text s

/-- The module that the call stands in: the name of its file without the extension. -/
def moduleName (record : Record) : Value :=
  match record.file with
  | .text path => .text (FilePath.stem path)
  | .bytes path =>
    .bytes (Template.toBytes (FilePath.stem (String.ofList (Template.ofBytes path))).toList)
  | _ => .text "Unknown module"

/-- The time of the call in whole milliseconds. A text or a byte string is written down as
many times as a second has milliseconds, and then read as an integer. -/
def milliseconds (record : Record) : Except Fault Value :=
  let perSecond := 1000
  match record.created, record.created.integer? with
  | .real x, _ =>
    let scaled := x.mul (.finite false (perSecond * Binary64.unitsPerOne))
    match scaled.truncate?, scaled with
    | some n, _ => .ok (.int n)
    | none, .nan => .error (.number .nanToInteger)
    | none, _ => .error (.number .infinityToInteger)
  | _, some n => .ok (.int (n * perSecond))
  | .text s, none => number (Value.integerOfText (repeated perSecond s.toList))
  | .bytes bs, none => number (Value.integerOfBytes (repeated perSecond bs))
  | .list _, none | .tuple _, none => .error (.number (.notIntegerKind record.created.kindName))
  | v, none => .error (.number (.operands "*" v.kindName "int"))
where
  /-- A list written down `count` times. -/
  repeated {α : Type} (count : Nat) (items : List α) : List α :=
    (List.replicate count items).flatten
  /-- An integer as a value. -/
  number (outcome : Except NumberFault Int) : Except Fault Value :=
    match outcome with
    | .ok n => .ok (.int n)
    | .error fault => .error (.number fault)

end Record

/-- The fields that a format may select. -/
def standardFields : Table String Accessor :=
  [("level", fun record => .ok record.levelName),
    ("message", Record.text),
    ("logger", fun record => .ok record.name),
    ("millis", Record.milliseconds),
    ("sequence", fun record =>
      match record.sequence with
      | some v => .ok v
      | none => .error (.noAttribute "LogRecord" "sequence")),
    ("thread", fun record => .ok record.threadName),
    ("thread_id", fun record => .ok record.thread),
    ("process", fun record => .ok record.process),
    ("module", fun record => .ok record.moduleName),
    ("function", fun record => .ok record.function),
    ("line", fun record => .ok record.line)]

end TraceLog
