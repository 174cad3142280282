import TraceLog.Fault
import TraceLog.Text.Lines

/-!
# Streams

What lines are written to. A stream takes text or bytes and may be closed; each write is
carried through at once, so that a write either is complete or leaves no trace. Streams keep
what they received, except for files, which keep it in the file tree, and the discarding
stream, which drops it.

## Main definitions

* `Device`: the kinds of streams, with what they received.
* `Stream.writeText`, `Stream.writeBytes`: writing.
* `Stream.refusal?`: the fault that a text is refused with.
* `Stream.flush?`: the fault of flushing a stream.
-/

namespace TraceLog

/-- A kind of stream, and what a stream of this kind has received. -/
inductive Device where
  /-- Text in memory. -/
  | text (content : String)
  /-- Something that can be written text to, and nothing else. -/
  | bare (content : String)
  /-- Bytes in memory. -/
  | bytes (content : List UInt8)
  /-- Bytes in memory, without a buffer. -/
  | raw (content : List UInt8)
  /-- Text over bytes in UTF-8, where a line ends in carriage return and line feed. -/
  | crlf (content : List UInt8)
  /-- Text over bytes in ASCII. -/
  | ascii (content : List UInt8)
  /-- Text that is dropped. -/
  | discard
  /-- A stream, of bytes or of text, that fails on every write. -/
  | failing (binary : Bool) (failure : StreamFailure)
  /-- Text in a file in UTF-8, and the offset of the next write. -/
  | file (place : Place) (offset : Nat)
  deriving DecidableEq, Repr

/-- Whether lines for a device have to be turned into bytes. -/
def Device.isBinary : Device → Bool
  | .bytes _ | .raw _ => true
  | .failing binary _ => binary
  | _ => false

/-- How much a device has received: characters, bytes, or the offset of the next write. -/
def Device.extent : Device → Nat
  | .text content | .bare content => content.length
  | .bytes content | .raw content | .crlf content | .ascii content => content.length
  | .file _ offset => offset
  | .discard | .failing .. => 0

/-- A stream. -/
structure Stream where
  device : Device
  closed : Bool := false
  deriving DecidableEq, Repr

namespace Stream

/-- The fault of a closed stream. Text in memory words it without a stop. -/
def closedFault (stream : Stream) : StreamFault :=
  match stream.device with
  | .text _ => .closed false
  | _ => .closed true

/-- The fault of flushing a stream, if there is one. Text in memory has nothing to flush, even
when it is closed, and a stream that can only be written to is never flushed. -/
def flush? (stream : Stream) : Option StreamFault :=
  match stream.device with
  | .text _ | .bare _ => none
  | _ => if stream.closed then some stream.closedFault else none

/-- The stream, open as before, with another device. -/
def receive (stream : Stream) (device : Device) : Stream :=
  { stream with device }

/-- The stream and the file tree after `s` was written as text. -/
def writeText (s : String) (stream : Stream) (files : FileTree) :
    Except StreamFault (Stream × FileTree) :=
  match stream.device with
  | .failing _ failure => .error (.failed failure)
  | .bare content => .ok (stream.receive (.bare (content ++ s)), files)
  | device =>
    if stream.closed then .error stream.closedFault
    else match device with
      | .text content => .ok (stream.receive (.text (content ++ s)), files)
      | .crlf content =>
        let line := Text.encode (Text.endLinesWith ['\r', '\n'] s.toList)
        .ok (stream.receive (.crlf (content ++ line)), files)
      | .ascii content =>
        match Text.firstBeyondAscii? s.toList with
        | some (position, run) => .error (.notAscii position run)
        | none => .ok (stream.receive (.ascii (content ++ Text.encode s.toList)), files)
      | .discard => .ok (stream, files)
      | .file place offset =>
        let line := Text.encode s.toList
        .ok (stream.receive (.file place (offset + line.length)),
          files.writeAt place offset line)
      | _ => .error .bytesRequired

/-- The fault that a text is refused with, if it is. The files do not matter for that. -/
def refusal? (s : String) (stream : Stream) : Option StreamFault :=
  match stream.writeText s {} with
  | .error fault => some fault
  | .ok _ => none

/-- The stream after `bs` was written as bytes. -/
def writeBytes (bs : List UInt8) (stream : Stream) : Except StreamFault Stream :=
  match stream.device with
  | .failing _ failure => .error (.failed failure)
  | device =>
    if stream.closed then .error stream.closedFault
    else match device with
      | .bytes content => .ok (stream.receive (.bytes (content ++ bs)))
      | .raw content => .ok (stream.receive (.raw (content ++ bs)))
      | _ => .error .bytesRequired

end Stream

end TraceLog
