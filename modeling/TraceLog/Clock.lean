import TraceLog.Value.Real

/-!
# Virtual Clocks

The simulation's time source. A manual clock stands still until its owner moves it, and is
never moved back. A scripted clock gives one listed reading after the other, each once and
the last one for ever; a reading may be a failure. A value that stands in the place of a clock
cannot be read at all. A clock counts how often it was read.

Times are shown with two places by `formatTime`; a host may bring a renderer of its own.

## Main definitions

* `Clock`, `Clock.read`: a clock and its reading.
* `Clock.set`, `Clock.advance`: moving a manual clock.
* `formatTime`: the standard renderer of times.
-/

namespace TraceLog

open Number

/-- What one reading of a scripted clock gives. -/
inductive Reading where
  | time (value : Value)
  | failure (text : String)
  deriving Repr

/-- Where a clock takes its time from. -/
inductive TimeSource where
  | manual (time : Binary64)
  /-- The next reading, and those after it. -/
  | scripted (next : Reading) (later : List Reading)
  /-- A value of this kind, which is no clock. -/
  | other (kind : String)
  deriving Repr

/-- A virtual clock: its source, and the number of readings so far. -/
structure Clock where
  source : TimeSource
  readings : Nat := 0
  deriving Repr

/-- A way of showing times. -/
abbrev TimeRenderer : Type := Value → Except Fault String

/-- Times are shown with two places. -/
def formatTime : TimeRenderer :=
  Value.fixedText 2

/-- The reading as a value or a fault. -/
def Reading.outcome : Reading → Except Fault Value
  | .time value => .ok value
  | .failure text => .error (.raised "RuntimeError" text)

/-- What a source shows now, and the source once that was read. -/
def TimeSource.next : TimeSource → Except Fault Value × TimeSource
  | .manual time => (.ok (.real time), .manual time)
  | .scripted next [] => (next.outcome, .scripted next [])
  | .scripted next (later :: rest) => (next.outcome, .scripted later rest)
  | .other kind => (.error (.noAttribute kind "now"), .other kind)

namespace Clock

/-- A manual clock that shows `time`. -/
def manual (time : Binary64) : Clock :=
  ⟨.manual time, 0⟩

/-- A value in the place of a clock. -/
def ofValue (v : Value) : Clock :=
  ⟨.other v.kindName, 0⟩

/-- A manual clock that starts at a given value. -/
def startingAt (start : Value) : Except Fault Clock :=
  start.toReal.map manual

/-- The current time, and the clock after it was read. -/
def read (clock : Clock) : Except Fault Value × Clock :=
  (clock.source.next.1, ⟨clock.source.next.2, clock.readings + 1⟩)

/-- The clock moved from `current` to `time`, which must not be below it. -/
def moveTo (clock : Clock) (current time : Binary64) : Except Fault Clock :=
  if time.lt current then .error (.timeBackwards time.shortText current.shortText)
  else .ok { clock with source := .manual time }

/-- The clock set to a time. Only a manual clock can be moved. -/
def set (clock : Clock) (value : Value) : Except Fault Clock :=
  match clock.source with
  | .manual current => do clock.moveTo current (← value.toReal)
  | .scripted .. => .error (.noAttribute "ScriptedClock" "set")
  | .other kind => .error (.noAttribute kind "set")

/-- The clock moved forward by an amount. -/
def advance (clock : Clock) (delta : Value) : Except Fault Clock :=
  match clock.source with
  | .manual current => do clock.moveTo current (← delta.addTo current)
  | .scripted .. => .error (.noAttribute "ScriptedClock" "advance")
  | .other kind => .error (.noAttribute kind "advance")

/-- Reading a manual clock gives its time and leaves the time as it is. -/
@[simp] theorem read_manual (time : Binary64) (n : Nat) :
    read ⟨.manual time, n⟩ = (.ok (.real time), ⟨.manual time, n + 1⟩) := rfl

/-- A move that is allowed ends at the time asked for. -/
theorem source_of_moveTo {clock clock' : Clock} {current time : Binary64}
    (h : clock.moveTo current time = .ok clock') : clock'.source = .manual time := by
  unfold moveTo at h
  split at h
  · simp at h
  · rw [← Except.ok.inj h]

end Clock

end TraceLog
