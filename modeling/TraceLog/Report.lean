import TraceLog.CallSite
import TraceLog.Outlets

/-!
# Error Reports

A handler that fails on a record keeps its fault from the caller, and reports it on standard
error: with a traceback, the stack of the call, and the message of the record. A fault of recursion
is not kept back. Neither is the fault with which standard error itself refuses the report, unless
that is one of the system.

## Main definitions

* `Report`: a report, in the pieces that are written.
* `Outlets.report`, `Outlets.reportFault`: writing pieces, and a whole report.
* `Outlets.meet`: what a handler does with a fault.
-/

namespace TraceLog

/-- A report on a fault of a handler: the pieces that are written first, and the one with the
record's message, unless it has no text. -/
structure Report where
  opening : List String
  closing : Option String
  deriving DecidableEq, Repr

namespace Fault

/-- The class of a fault with the module that it is from, for classes of the library. -/
def qualifiedTitle (fault : Fault) : String :=
  match fault with
  | .configuration .. | .sinkOpen .. | .formatting _ | .notConfigured =>
    "simlog.exceptions." ++ fault.title
  | _ => fault.title

/-- The last line of a traceback. -/
def lastLine (fault : Fault) : String :=
  fault.qualifiedTitle ++ (if fault.message = "" then "" else ": " ++ fault.message) ++ "\n"

/-- Whether a handler passes a fault on to the caller. -/
def passesOn : Fault → Bool
  | .stream (.failed .recursion) => true
  | _ => false

end Fault

namespace Report

/-- The heading of a traceback. -/
def heading : String := "Traceback (most recent call last):\n"

/-- What is written for a message that has no text, or that standard error refuses. -/
def unprintable : String :=
  "Unable to print the message and arguments - possible formatting error.\n" ++
    "Use the traceback above to help locate the error.\n"

/-- The report on a fault of a handler. -/
def ofFault (frames : Frames) (message arguments : Value) (fault : Fault) : Report where
  opening := ["--- Logging error ---\n", heading] ++ frames.trace ++ [fault.lastLine] ++
    "Call stack:\n" :: frames.stack
  closing := match message.quoted?, arguments.text? with
    | some message, some arguments => some s!"Message: {message}\nArguments: {arguments}\n"
    | _, _ => none

/-- The pieces of the report on a record that cannot be formatted, with which the process ends. -/
def ofEnd (frames : Frames) (fault : FormattingFault) : List String :=
  ["Error in logging:", "\n", heading] ++ frames.trace ++ [(Fault.formatting fault).lastLine]

end Report

namespace Outlets

/-- Pieces of a report written in order, up to the first one that is refused. -/
def report : List String → Outlets → Outlets × Option StreamFault
  | [], outlets => (outlets, none)
  | piece :: pieces, outlets =>
    match outlets.reportPiece piece with
    | .error fault => (outlets, some fault)
    | .ok outlets => report pieces outlets

/-- A fault of standard error that a handler does not keep back: any but one of the system. -/
def escaping? : Option StreamFault → Option StreamFault
  | some (.failed .system) => none
  | fault? => fault?

/-- A report, and the fault of standard error that gets out. The message may be refused where the
rest is not; then something else is written in its place. -/
def reportFault (report : Report) (outlets : Outlets) : Outlets × Option StreamFault :=
  match outlets.report report.opening with
  | (outlets, some fault) => (outlets, escaping? (some fault))
  | (outlets, none) =>
    match report.closing.map outlets.reportPiece with
    | some (.ok outlets) => (outlets, none)
    | some (.error (.failed .recursion)) => (outlets, some (.failed .recursion))
    | some (.error _) | none =>
      let (outlets, fault?) := outlets.report [Report.unprintable]
      (outlets, escaping? fault?)

/-- A fault that a handler meets, and what it raises on that. -/
def meet (report : Fault → Report) (fault : Fault) (outlets : Outlets) :
    Outlets × Option Fault :=
  if fault.passesOn then (outlets, some fault)
  else
    let (outlets, fault?) := outlets.reportFault (report fault)
    (outlets, fault?.map .stream)

/-- What keeps standard error from being flushed, if anything does. -/
def consoleFlush? (outlets : Outlets) : Option Fault :=
  match outlets.find? .console with
  | none => some (.noAttribute (Value.kindName .null) "flush")
  | some stream =>
    match stream.device with
    | .bare _ => some (.noAttribute "object" "flush")
    | _ => stream.flush?.map .stream

/-- The report with which the process ends, and what keeps it from ending, if anything does. -/
def reportEnd (pieces : List String) (outlets : Outlets) : Outlets × Option Fault :=
  match outlets.report pieces with
  | (outlets, some fault) => (outlets, some (.stream fault))
  | (outlets, none) => (outlets, outlets.consoleFlush?)

end Outlets

end TraceLog
