import TraceLog.Level
import TraceLog.Text.Lines

/-!
# Recorded Traces

A trace holds one record a line: a time, a level and a message, the first two separated by
blanks. The message is the rest of the line from its first character that is not blank, and
may be empty. Blank lines are skipped but counted.

## Main definitions

* `TraceRecord`: a record of a trace.
* `TraceFault`, `TraceFault.stop`: what is wrong with a line, and how that stops a run.
* `Trace.readLine`, `Trace.readLines`: reading lines up to the first fault.
* `Trace.readText`, `Trace.readBytes`: reading a whole text, and a file.
-/

namespace TraceLog

open Number

/-- A record of a trace, with the number of its line. -/
structure TraceRecord where
  line : Nat
  time : Binary64
  level : Int
  message : String
  deriving DecidableEq, Repr

/-- What is wrong with a line, the number of which is given. -/
inductive TraceFault where
  | tooFewWords (line : Nat)
  | badTime (line : Nat) (word : String)
  /-- The level is refused. -/
  | badLevel (line : Nat) (fault : Fault)
  /-- The level cannot even be judged. -/
  | unreadableLevel (line : Nat) (fault : Fault)
  deriving Repr

/-- How a run over a trace is stopped: by a complaint to the user, or by a fault that no one
expected. -/
inductive Stop where
  | complaint (text : String)
  | fault (fault : Fault)
  deriving Repr

/-- How a faulty line stops a run. A complaint starts with the number of the line. -/
def TraceFault.stop : TraceFault → Stop
  | .tooFewWords line => .complaint s!"line {line}: expected '<time> <level> <message>'"
  | .badTime line word => .complaint s!"line {line}: bad time {Text.quoted word}"
  | .badLevel line fault => .complaint s!"line {line}: {fault.message}"
  | .unreadableLevel _ fault => .fault fault

namespace Trace

/-- The record in a line; a blank line has none. -/
def readLine (number : Nat) (line : List Char) : Except TraceFault (Option TraceRecord) :=
  match Text.nextWord? line with
  | none => .ok none
  | some (time, rest) =>
    match Text.nextWord? rest with
    | none => .error (.tooFewWords number)
    | some (level, rest) =>
      match readReal? time with
      | none => .error (.badTime number (String.ofList time))
      | some t =>
        match Level.parse (.text (String.ofList level)) with
        | .ok n => .ok (some ⟨number, t, n, String.ofList (Text.trimStart rest)⟩)
        | .error (.configuration option value refusal) =>
          .error (.badLevel number (.configuration option value refusal))
        | .error fault => .error (.unreadableLevel number fault)

/-- The records of lines up to the first fault, the first line having number `number`. -/
def readLines (number : Nat) : List (List Char) → List TraceRecord × Option TraceFault
  | [] => ([], none)
  | line :: lines =>
    match readLine number line with
    | .error fault => ([], some fault)
    | .ok record? =>
      let (records, fault?) := readLines (number + 1) lines
      (record?.toList ++ records, fault?)

/-- The records of a text up to the first fault. -/
def readText (s : String) : List TraceRecord × Option TraceFault :=
  readLines 1 (Text.lines s.toList)

/-- The greatest number of bytes that are decoded at once. -/
def blockSize : Nat := 8192

/-- The records of a file up to the first fault, and how that stops the run. Bytes that are
no text are found when their block is reached; the lines that were complete before it count,
and an unfinished line in front of it does not. -/
def readBytes (bytes : List UInt8) : List TraceRecord × Option Stop :=
  match Text.decodeBlocks blockSize [] bytes with
  | (s, none) =>
    let (records, fault?) := readLines 1 (Text.lines s)
    (records, fault?.map TraceFault.stop)
  | (s, some error) =>
    let (records, fault?) := readLines 1 (Text.endedLines s)
    (records, some ((fault?.map TraceFault.stop).getD (.fault (.notUtf8 error))))

end Trace

end TraceLog
