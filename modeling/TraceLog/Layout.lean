import TraceLog.Clock
import TraceLog.Record

/-!
# Line Layout

A record becomes one line: the selected fields in order, separated by tabs, with the virtual
time in front when it is asked for, and a line feed behind. The clock is read only once all
fields are known. Whatever fails, the fault names the selector being rendered, `clock` for
the time, and reports the cause.

## Main definitions

* `Layout`: the selected fields, whether the time stands in front, and how it is shown.
* `Layout.format`: the line of a record, and the clock afterwards.
* `Layout.formatReporting`: the same, where someone is told of a record that has no line.
* `Layout.clockText`: the current time as lines show it.
-/

namespace TraceLog

/-- The layout of lines. -/
structure Layout where
  spec : FormatSpec Accessor
  clockPrefix : Bool := false
  renderTime : TimeRenderer := formatTime

namespace Layout

/-- A layout for a host with or without a clock; the time can only be shown with one. -/
def make (spec : FormatSpec Accessor) (hasClock clockPrefix : Bool) (renderTime : TimeRenderer) :
    Except Fault Layout :=
  if clockPrefix && !hasClock then .error .clockRequired
  else .ok { spec, clockPrefix, renderTime }

/-- The text of one field. -/
def fieldText (record : Record) (name : String) (accessor : Accessor) :
    Except FormattingFault String :=
  match accessor record >>= Value.plainText with
  | .ok s => .ok s
  | .error fault => .error ⟨name, fault.report⟩

/-- The texts of the selected fields. -/
def fieldTexts (record : Record) : List (String × Accessor) → Except FormattingFault (List String)
  | [] => .ok []
  | (name, accessor) :: selectors => do
    let s ← fieldText record name accessor
    let rest ← fieldTexts record selectors
    return s :: rest

/-- The current time as lines show it, and the clock after it was read. -/
def clockText (layout : Layout) : Option Clock → Except FormattingFault String × Option Clock
  | none => (.error ⟨"clock", (Fault.noAttribute "NoneType" "now").report⟩, none)
  | some clock =>
    let (reading, clock) := clock.read
    match reading >>= layout.renderTime with
    | .ok s => (.ok s, some clock)
    | .error fault => (.error ⟨"clock", fault.report⟩, some clock)

/-- Fields as a line without its ending. -/
def joinFields (fields : List String) : String :=
  String.intercalate "\t" fields

/-- The line of a record, and the clock afterwards. -/
def format (layout : Layout) (record : Record) (clock : Option Clock) :
    Except FormattingFault String × Option Clock :=
  match fieldTexts record layout.spec.selectors with
  | .error fault => (.error fault, clock)
  | .ok fields =>
    if layout.clockPrefix then
      match layout.clockText clock with
      | (.error fault, clock) => (.error fault, clock)
      | (.ok time, clock) => (.ok (time ++ "\t" ++ joinFields fields ++ "\n"), clock)
    else (.ok (joinFields fields ++ "\n"), clock)

/-- The text of a record, the clock afterwards, and what becomes of `told`. A record that cannot be
formatted has an empty text, and `report` is called with the fault and the record. -/
def formatReporting {σ : Type} (layout : Layout) (report : FormattingFault → Record → σ → σ)
    (record : Record) (clock : Option Clock) (told : σ) : String × Option Clock × σ :=
  match layout.format record clock with
  | (.ok line, clock) => (line, clock, told)
  | (.error fault, clock) => ("", clock, report fault record told)

end Layout

end TraceLog
