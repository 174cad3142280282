import TraceLog.FilePath
import TraceLog.Value

/-!
# Call Sites

What a logging call is surrounded by, and its record shows: the place in a program that it stands
at, and the moment at which it is made, with the time of day, the thread and the process. Reports
on errors show the frames of the call as well.

The system's clock counts nanoseconds in 64 bits, so that every time of day is finite.

## Main definitions

* `Moment`: the time of day, the thread and the process of a call.
* `CallSite`: the place of a call in a program, and its moment.
-/

namespace TraceLog

open Number

/-- No time of day is further from the beginning of the clock's time, in seconds. -/
def clockRange : Nat := 9223372037

/-- The lines that reports on the errors of a call show beside the errors themselves. -/
structure Frames where
  /-- The traceback, below its heading and above the error. -/
  trace : List String := []
  /-- The stack of the call. -/
  stack : List String := []
  deriving DecidableEq, Repr

/-- The moment of a logging call. -/
structure Moment where
  /-- The time of day, in seconds. -/
  created : Binary64 := .zero
  inRange : created.isWithin clockRange = true := by exact TraceLog.Number.Binary64.isWithin_zero _
  /-- The milliseconds of the time of day. -/
  msecs : Binary64 := .zero
  /-- The time since logging began, in milliseconds. -/
  relativeCreated : Binary64 := .zero
  /-- The time of day as a text. -/
  asctime : String := ""
  thread : UInt64 := 1
  threadName : String := "MainThread"
  process : UInt32 := 1
  processName : String := "MainProcess"
  frames : Frames := {}
  deriving Repr

/-- The place in a program that a logging call stands at, and the moment of the call. -/
structure CallSite where
  file : String
  function : Value
  line : Value
  moment : Moment := {}
  deriving Repr

namespace Moment

/-- The thread as a number. -/
def threadNumber (moment : Moment) : Int := moment.thread.toNat

/-- The process as a number. -/
def processNumber (moment : Moment) : Int := moment.process.toNat

end Moment

end TraceLog
