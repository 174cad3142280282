import TraceLog.Fault
import TraceLog.Text.Blank
import TraceLog.Text.Split

/-!
# Format Specifications

A format text selects the fields of a line: selector names, separated by semicolons. Blanks
around a name are dropped, and so are empty segments at the end; an empty segment elsewhere
is refused. Each name is looked up in a table of accessors, after older spellings have been
replaced by the current ones.

## Main definitions

* `FormatSpec`: names and accessors, in output order.
* `FormatSpec.parse`: reading a format text against a table.
* `FormatSpec.toText`: the names joined again.
-/

namespace TraceLog

/-- A selection of fields: their names and, in the same order, their accessors. -/
structure FormatSpec (α : Type) where
  names : List String
  accessors : List α
  deriving DecidableEq, Repr

namespace FormatSpec

/-- The separator of selectors. -/
def separator : Char := ';'

/-- Older spellings of selectors. -/
def aliases : Table String String :=
  [("getLevel", "level"), ("getMessage", "message"), ("getLoggerName", "logger"),
    ("getMillis", "millis"), ("getSequenceNumber", "sequence"), ("getThreadID", "thread_id"),
    ("getSourceClassName", "module"), ("getSourceMethodName", "function")]

/-- The current spelling of a selector. -/
def canonical (name : String) : String :=
  (aliases.find? name).getD name

/-- The segments of a format text: trimmed, without the empty ones at the end. -/
def segments (s : List Char) : List (List Char) :=
  (((Text.splitOn separator s).map Text.trim).reverse.dropWhile List.isEmpty).reverse

/-- The names of a table in alphabetical order. -/
def knownNames {α : Type} (table : Table String α) : List String :=
  (table.map (·.1)).mergeSort fun a b => decide (a ≤ b)

/-- The selectors that segments name, the first of them at `position`. -/
def resolve {α : Type} (table : Table String α) (position : Nat) :
    List (List Char) → Except Refusal (List (String × α))
  | [] => .ok []
  | segment :: rest =>
    if segment = [] then .error (.emptySelector position)
    else
      match table.find? (canonical (String.ofList segment)) with
      | none => .error (.unknownSelector (String.ofList segment) (knownNames table))
      | some accessor => do
        let more ← resolve table (position + 1) rest
        return (canonical (String.ofList segment), accessor) :: more

/-- The selectors that a format text names. -/
def parseText {α : Type} (table : Table String α) (s : List Char) :
    Except Refusal (FormatSpec α) :=
  match segments s with
  | [] => .error .noSelector
  | parts => do
    let selectors ← resolve table 1 parts
    return ⟨selectors.map (·.1), selectors.map (·.2)⟩

/-- The specification that a value means; it has to be a text. -/
def parse {α : Type} (table : Table String α) : Value → Except Fault (FormatSpec α)
  | .text s =>
    match parseText table s.toList with
    | .ok spec => .ok spec
    | .error refusal => .error (.refuse "format" (.text s) refusal)
  | v => .error (.refuse "format" v .notText)

/-- Names and accessors side by side. -/
def selectors {α : Type} (spec : FormatSpec α) : List (String × α) :=
  spec.names.zip spec.accessors

/-- The number of fields. -/
def size {α : Type} (spec : FormatSpec α) : Nat :=
  spec.names.length

/-- The format text in its shortest spelling. -/
def toText {α : Type} (spec : FormatSpec α) : String :=
  String.intercalate (String.singleton separator) spec.names

end FormatSpec

end TraceLog
