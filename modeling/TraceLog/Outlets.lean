import TraceLog.Stream

/-!
# Outlets

All streams and files of a run. A stream is known by its handle: the console, which is standard
error, a name that the caller gave it, or a number for a stream that was opened on the way.

What is reported on standard error about errors is kept apart from the lines that it has received,
each piece with its place among them. Where there is no standard error nothing is reported.

## Main definitions

* `Handle`, `Outlets`: handles, and what is behind them.
* `Outlets.openFile`: opening a file for writing.
* `Outlets.writeText`, `Outlets.writeBytes`, `Outlets.close`: the operations on a stream.
* `Outlets.reportPiece`, `Outlets.errorText`: reporting on standard error, and its text.

## Main results

* `Outlets.find?_writeText_of_ne`: writing to one stream leaves the others as they are.
-/

namespace TraceLog

/-- What a stream is known by. -/
inductive Handle where
  | console
  | named (name : String)
  | opened (number : Nat)
  deriving DecidableEq, Repr

/-- A piece of a report, and how much standard error had received in front of it. -/
structure Reported where
  place : Nat
  text : String
  deriving DecidableEq, Repr

/-- The streams and files of a run, the number of streams opened on the way, and what was
reported on standard error. -/
structure Outlets where
  streams : Table Handle Stream := [(.console, ⟨.text "", false⟩)]
  files : FileTree := {}
  opened : Nat := 0
  reports : List Reported := []
  deriving DecidableEq, Repr

namespace Outlets

/-- The stream behind a handle. -/
def find? (outlets : Outlets) (handle : Handle) : Option Stream :=
  Table.find? handle outlets.streams

/-- The outlets with a stream behind a handle. -/
def put (outlets : Outlets) (handle : Handle) (stream : Stream) : Outlets :=
  { outlets with streams := Table.put handle stream outlets.streams }

/-- The outlets with a new stream of this device, and its handle. -/
def openStream (outlets : Outlets) (device : Device) : Handle × Outlets :=
  let handle := .opened outlets.opened
  (handle, { outlets.put handle ⟨device, false⟩ with opened := outlets.opened + 1 })

/-- The outlets with a named stream, which is made with this device unless it is there. -/
def ensure (outlets : Outlets) (name : String) (device : Device) : Outlets :=
  match outlets.find? (.named name) with
  | some _ => outlets
  | none => outlets.put (.named name) ⟨device, false⟩

/-- The outlets with a file opened for writing, and its handle. -/
def openFile (outlets : Outlets) (place : Place) : Except FileFault (Handle × Outlets) := do
  let files ← outlets.files.openEmpty place
  return { outlets with files }.openStream (.file place 0)

/-- The outlets after a text was written to a stream. -/
def writeText (s : String) (handle : Handle) (outlets : Outlets) :
    Except StreamFault Outlets :=
  match outlets.find? handle with
  | none => .ok outlets
  | some stream => do
    let (stream, files) ← stream.writeText s outlets.files
    return { outlets with files }.put handle stream

/-- The outlets after bytes were written to a stream. -/
def writeBytes (bs : List UInt8) (handle : Handle) (outlets : Outlets) :
    Except StreamFault Outlets :=
  match outlets.find? handle with
  | none => .ok outlets
  | some stream => do return outlets.put handle (← stream.writeBytes bs)

/-- The outlets with a stream closed. -/
def close (handle : Handle) (outlets : Outlets) : Outlets :=
  match outlets.find? handle with
  | some stream =>
    match stream.device with
    | .bare _ => outlets
    | _ => outlets.put handle { stream with closed := true }
  | none => outlets

/-- The fault of flushing a stream, if there is one. -/
def flush? (handle : Handle) (outlets : Outlets) : Option StreamFault :=
  (outlets.find? handle).bind Stream.flush?

/-! ### Standard error -/

/-- The outlets with one more piece of a report on standard error, unless that refuses it. -/
def reportPiece (piece : String) (outlets : Outlets) : Except StreamFault Outlets :=
  match outlets.find? .console with
  | none => .ok outlets
  | some stream =>
    match stream.refusal? piece with
    | some fault => .error fault
    | none => .ok { outlets with
        reports := outlets.reports ++ [⟨stream.device.extent, piece⟩] }

/-- A text with reports at their places, the first `start` characters of it being done. -/
def weave (start : Nat) : List Reported → List Char → List Char
  | [], s => s
  | ⟨place, piece⟩ :: reports, s =>
    s.take (place - start) ++ piece.toList ++ weave place reports (s.drop (place - start))

/-- All that a standard error of text shows: its lines, and the reports between them. -/
def errorText (outlets : Outlets) : String :=
  match outlets.find? .console with
  | some ⟨.text content, _⟩ | some ⟨.bare content, _⟩ =>
    String.ofList (weave 0 outlets.reports content.toList)
  | _ => ""

/-! ### Laws -/

/-- A stored stream is found. -/
@[simp] theorem find?_put_self (outlets : Outlets) (handle : Handle) (stream : Stream) :
    (outlets.put handle stream).find? handle = some stream := by
  simp [find?, put]

/-- Storing a stream leaves the others as they are. -/
theorem find?_put_of_ne {handle other : Handle} (h : other ≠ handle) (outlets : Outlets)
    (stream : Stream) : (outlets.put handle stream).find? other = outlets.find? other := by
  simp [find?, put, Table.find?_put_of_ne h]

/-- Writing to one stream leaves the others as they are. -/
theorem find?_writeText_of_ne {s : String} {handle other : Handle} {outlets outlets' : Outlets}
    (h : writeText s handle outlets = .ok outlets') (hne : other ≠ handle) :
    outlets'.find? other = outlets.find? other := by
  unfold writeText at h
  split at h
  · rw [← Except.ok.inj h]
  · next stream _ =>
    match hw : stream.writeText s outlets.files with
    | .error fault => simp [hw, bind, Except.bind] at h
    | .ok (stream', files) =>
      simp only [hw, bind, Except.bind, pure, Except.pure, Except.ok.injEq] at h
      rw [← h, find?_put_of_ne hne]
      rfl

end Outlets

end TraceLog
