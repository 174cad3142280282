import TraceLog.Proofs.Outlets
import TraceLog.Proofs.Rendering

/-!
# What Streams Receive

`Outlets.Receives` relates two states of the outlets by the text that each stream has received
in between: the streams have this text appended, each in its own way, and nothing else happened
to them; a file has the bytes of the text behind the ones it had, as long as no other stream of
the same file has received anything. The relation composes, and one write to a stream that takes
text is an instance of it.

A record given to sinks that take its line reaches each of them: a stream behind several sinks
receives the line once for each (`deliver_of_takes`), and the call returns.

## Main results

* `Outlets.Receives`, `Outlets.Receives.trans`: texts received one after the other.
* `Outlets.receives_writeText`: one write.
* `deliver_of_takes`: one record, given to all sinks of a logger.
-/

namespace TraceLog

open Number

/-! ### Streams -/

/-- The place of the file that a device writes to. -/
def Device.place? : Device → Option Place
  | .file place _ => some place
  | _ => none

namespace Stream

/-- A stream takes a text when it is open and writes text: text in memory, text over bytes in
UTF-8, the discarding stream or a file take every text, and text in ASCII takes a text without
other characters. Something that can only be written to is never closed. -/
def Takes (s : String) (stream : Stream) : Prop :=
  match stream.device with
  | .bare _ => True
  | .text _ | .crlf _ | .discard | .file .. => stream.closed = false
  | .ascii _ => stream.closed = false ∧ Text.firstBeyondAscii? s.toList = none
  | .bytes _ | .raw _ | .failing .. => False

/-- A stream after it has received a text. -/
def after (s : String) (stream : Stream) : Stream :=
  match stream.device with
  | .text content => stream.receive (.text (content ++ s))
  | .bare content => stream.receive (.bare (content ++ s))
  | .crlf content =>
    stream.receive (.crlf (content ++ Text.encode (Text.endLinesWith ['\r', '\n'] s.toList)))
  | .ascii content => stream.receive (.ascii (content ++ Text.encode s.toList))
  | .file place offset =>
    stream.receive (.file place (offset + (Text.encode s.toList).length))
  | _ => stream

variable {stream : Stream}

/-- No text changes nothing. -/
@[simp] theorem after_empty (stream : Stream) : stream.after "" = stream := by
  obtain ⟨device, closed⟩ := stream
  cases device with
  | text content => simp [after, receive]
  | bare content => simp [after, receive]
  | crlf content => simp [after, receive, Text.endLinesWith, Text.encode]
  | ascii content => simp [after, receive, Text.encode]
  | file place offset => simp [after, receive, Text.encode]
  | _ => rfl

/-- Texts are received one after the other. -/
theorem after_append (s t : String) (stream : Stream) :
    stream.after (s ++ t) = (stream.after s).after t := by
  obtain ⟨device, closed⟩ := stream
  cases device with
  | text content => simp [after, receive, String.append_assoc]
  | bare content => simp [after, receive, String.append_assoc]
  | crlf content => simp [after, receive]
  | ascii content => simp [after, receive]
  | file place offset => simp [after, receive, Nat.add_assoc]
  | _ => rfl

/-- A stream of a file stays one of that file. -/
@[simp] theorem place?_after (s : String) (stream : Stream) :
    (stream.after s).device.place? = stream.device.place? := by
  obtain ⟨device, closed⟩ := stream
  cases device with
  | _ => rfl

/-- What a stream has received does not matter for what it takes. -/
theorem Takes.after {s : String} (h : stream.Takes s) (t : String) :
    (stream.after t).Takes s := by
  obtain ⟨device, closed⟩ := stream
  cases device with
  | _ => exact h

/-- What a stream has received does not matter for whether it is one of bytes. -/
@[simp] theorem isBinary_after (s : String) (stream : Stream) :
    (stream.after s).device.isBinary = stream.device.isBinary := by
  obtain ⟨device, closed⟩ := stream
  cases device with
  | _ => rfl

/-- Writing a text to a stream that takes it succeeds. Only a stream of a file changes the
files. -/
theorem writeText_of_takes {s : String} (h : stream.Takes s) (files : FileTree) :
    stream.writeText s files = .ok (stream.after s,
      match stream.device with
      | .file place offset => files.writeAt place offset (Text.encode s.toList)
      | _ => files) := by
  obtain ⟨device, closed⟩ := stream
  cases device with
  | bare content => rfl
  | text content =>
      obtain rfl : closed = false := h
      rfl
  | crlf content =>
      obtain rfl : closed = false := h
      rfl
  | ascii content =>
      obtain ⟨hopen, hascii⟩ := h
      obtain rfl : closed = false := hopen
      simp [writeText, after, hascii]
  | discard =>
      obtain rfl : closed = false := h
      rfl
  | file place offset =>
      obtain rfl : closed = false := h
      rfl
  | bytes content => exact h.elim
  | raw content => exact h.elim
  | failing binary failure => exact h.elim

end Stream

namespace FileTree

/-- The content of the files after one was written to at its end. -/
theorem content?_writeAt_end {tree : FileTree} {place : Place} {content : List UInt8}
    (h : tree.content? place = some content) (bytes : List UInt8) (other : Place) :
    (tree.writeAt place content.length bytes).content? other =
      if other = place then some (content ++ bytes) else tree.content? other := by
  rw [writeAt, h, Option.getD_some, overwrite_length]
  by_cases hother : other = place
  · rw [hother, if_pos rfl]
    exact Table.find?_put_self place _ tree.files
  · rw [if_neg hother]
    exact Table.find?_put_of_ne hother _ tree.files

/-- Writing to one file leaves the others as they are. -/
theorem content?_writeAt_of_ne {tree : FileTree} {place other : Place} (h : other ≠ place)
    (offset : Nat) (bytes : List UInt8) :
    (tree.writeAt place offset bytes).content? other = tree.content? other :=
  Table.find?_put_of_ne h _ tree.files

end FileTree

/-! ### Outlets -/

namespace Outlets

variable {outlets outlets' outlets'' : Outlets} {received received' : Handle → String}

/-- The streams have received these texts, and nothing else happened to them; nothing was reported
on standard error. A file is as it was when no stream of it has received anything. It has the bytes
of what one stream received behind the ones that it had, when that stream stood at its end and no
other stream of the file has received anything. -/
structure Receives (outlets : Outlets) (received : Handle → String) (outlets' : Outlets) :
    Prop where
  reports : outlets'.reports = outlets.reports
  streams : ∀ handle,
    outlets'.find? handle = (outlets.find? handle).map (Stream.after (received handle))
  kept : ∀ place,
    (∀ handle stream, outlets.find? handle = some stream →
      stream.device.place? = some place → received handle = "") →
    outlets'.files.content? place = outlets.files.content? place
  files : ∀ handle place content,
    outlets.find? handle = some ⟨.file place content.length, false⟩ →
    outlets.files.content? place = some content →
    (∀ other stream, other ≠ handle → outlets.find? other = some stream →
      stream.device.place? = some place → received other = "") →
    outlets'.files.content? place = some (content ++ Text.encode (received handle).toList)

/-- Nothing was received. -/
theorem Receives.refl (outlets : Outlets) : outlets.Receives (fun _ => "") outlets where
  reports := rfl
  streams handle := by
    rcases hfind : outlets.find? handle with - | stream
    · rfl
    · rw [Option.map_some, Stream.after_empty]
  kept _ _ := rfl
  files handle place content _ hcontent _ := by
    rw [hcontent, show Text.encode "".toList = [] from rfl, List.append_nil]

/-- Texts are received one after the other. -/
theorem Receives.trans (h : outlets.Receives received outlets')
    (h' : outlets'.Receives received' outlets'') :
    outlets.Receives (fun handle => received handle ++ received' handle) outlets'' where
  reports := h'.reports.trans h.reports
  streams handle := by
    rw [h'.streams, h.streams, Option.map_map]
    congr 1
    funext stream
    exact (Stream.after_append _ _ stream).symm
  kept place hnone := by
    have hfirst := h.kept place fun handle stream hfind hplace =>
      (String.append_eq_empty_iff.mp (hnone handle stream hfind hplace)).1
    refine (h'.kept place ?_).trans hfirst
    intro handle stream' hfind hplace
    rw [h.streams] at hfind
    obtain ⟨stream, hbefore, rfl⟩ := Option.map_eq_some_iff.mp hfind
    rw [Stream.place?_after] at hplace
    exact (String.append_eq_empty_iff.mp (hnone handle stream hbefore hplace)).2
  files handle place content hstream hcontent hothers := by
    have hempty : ∀ other stream, other ≠ handle → outlets.find? other = some stream →
        stream.device.place? = some place → received other = "" ∧ received' other = "" := by
      intro other stream hne hother hplace
      exact String.append_eq_empty_iff.mp (hothers other stream hne hother hplace)
    have hfirst := h.files handle place content hstream hcontent
      fun other stream hne hother hplace => (hempty other stream hne hother hplace).1
    have hthere : outlets'.find? handle =
        some ⟨.file place (content ++ Text.encode (received handle).toList).length, false⟩ := by
      rw [h.streams, hstream, List.length_append]
      rfl
    have hsecond := h'.files handle place _ hthere hfirst ?_
    · rw [hsecond, String.toList_append, Text.encode_append, List.append_assoc]
    · intro other stream' hne hother hplace
      rw [h.streams] at hother
      obtain ⟨stream, hbefore, rfl⟩ := Option.map_eq_some_iff.mp hother
      rw [Stream.place?_after] at hplace
      exact (hempty other stream hne hbefore hplace).2

/-- A text that is written to a stream which takes it is received by this stream, and by no
other. -/
theorem receives_writeText {handle : Handle} {stream : Stream} {s : String}
    (hfind : outlets.find? handle = some stream) (htakes : stream.Takes s) (hs : s ≠ "") :
    ∃ outlets', outlets.writeText s handle = .ok outlets' ∧
      outlets.Receives (fun other => if other = handle then s else "") outlets' := by
  have hwrite := Stream.writeText_of_takes htakes outlets.files
  generalize hfiles : (match stream.device with
    | .file place offset => outlets.files.writeAt place offset (Text.encode s.toList)
    | _ => outlets.files) = files at hwrite
  -- a file that the stream does not belong to stays as it is
  have hkept : ∀ place, stream.device.place? ≠ some place →
      files.content? place = outlets.files.content? place := by
    intro place hplace
    rw [← hfiles]
    split
    · next place' offset hdevice =>
      refine FileTree.content?_writeAt_of_ne ?_ _ _
      rintro rfl
      exact hplace (by rw [hdevice]; rfl)
    · rfl
  refine ⟨({ outlets with files } : Outlets).put handle (stream.after s), ?_, rfl, ?_, ?_, ?_⟩
  · simp only [writeText, hfind, hwrite]
    rfl
  · intro other
    by_cases hother : other = handle
    · subst hother
      rw [find?_put_self, hfind, if_pos rfl, Option.map_some]
    · rw [find?_put_of_ne hother, if_neg hother]
      exact (Receives.refl outlets).streams other
  · intro place hnone
    rw [files_put]
    refine hkept place fun hplace => hs ?_
    exact (if_pos rfl).symm.trans (hnone handle stream hfind hplace)
  · intro other place content hstream hcontent hothers
    rw [files_put]
    by_cases hother : other = handle
    · subst hother
      obtain rfl := Option.some.inj (hfind.symm.trans hstream)
      rw [if_pos rfl, ← hfiles]
      exact (FileTree.content?_writeAt_end hcontent _ place).trans (if_pos rfl)
    · rw [if_neg hother, show Text.encode "".toList = [] from rfl, List.append_nil, ← hcontent]
      refine hkept place fun hplace => hs ?_
      exact (if_pos rfl).symm.trans (hothers handle stream (Ne.symm hother) hfind hplace)

end Outlets

/-! ### Sinks -/

/-- A sink takes a text when it hands text to a stream that takes it. -/
structure Sink.Takes (s : String) (sink : Sink) (outlets : Outlets) : Prop where
  kind : sink.kind ≠ .byteStream
  stream : ∃ stream, outlets.find? sink.handle = some stream ∧ stream.Takes s

/-- What has been received does not matter for what a sink takes. -/
theorem Sink.Takes.received {s : String} {sink : Sink} {outlets outlets' : Outlets}
    {received : Handle → String} (h : sink.Takes s outlets)
    (hreceives : outlets.Receives received outlets') : sink.Takes s outlets' := by
  obtain ⟨hkind, stream, hfind, htakes⟩ := h
  refine ⟨hkind, stream.after (received sink.handle), ?_, htakes.after _⟩
  rw [hreceives.streams, hfind, Option.map_some]

/-- A line that is written through a sink which takes it is received by the sink's stream. -/
theorem writeThrough_of_takes {sink : Sink} {scene : Scene} {line : String}
    (h : sink.Takes line scene.outlets) (lineEnd : List Char) (record : Record)
    (hline : line ≠ "") :
    ∃ outlets, writeThrough lineEnd record line sink scene = ({ scene with outlets }, none) ∧
      scene.outlets.Receives (fun handle => if handle = sink.handle then line else "")
        outlets := by
  obtain ⟨hkind, stream, hfind, htakes⟩ := h
  obtain ⟨outlets, hwrite, hreceives⟩ := Outlets.receives_writeText hfind htakes hline
  refine ⟨outlets, ?_, hreceives⟩
  have hsink : sink.write lineEnd line scene.outlets = .ok outlets := by
    rcases hcases : sink.kind with - | - | -
    · simp only [Sink.write, hcases, hwrite]
    · exact absurd hcases hkind
    · simp only [Sink.write, hcases, hwrite]
  simp only [writeThrough, hsink]
  rfl

/-- A text a number of times. -/
def repeated (count : Nat) (s : String) : String :=
  String.join (List.replicate count s)

/-- The number of sinks that share a stream. -/
def Sink.behind (sinks : List Sink) (handle : Handle) : Nat :=
  (sinks.map Sink.handle).count handle

/-- Nothing is repeated no times. -/
@[simp] theorem repeated_zero (s : String) : repeated 0 s = "" := String.join_nil

/-- A text that is repeated once more. -/
theorem repeated_succ (count : Nat) (s : String) :
    repeated (count + 1) s = s ++ repeated count s := by
  rw [repeated, List.replicate_succ, String.join_cons]
  rfl

/-- The sinks behind a stream are counted list by list. -/
theorem Sink.behind_append (sinks more : List Sink) (handle : Handle) :
    Sink.behind (sinks ++ more) handle = Sink.behind sinks handle + Sink.behind more handle := by
  rw [Sink.behind, List.map_append, List.count_append]
  rfl

/-- A sink counts for its stream, and for no other. -/
theorem Sink.behind_cons (sink : Sink) (sinks : List Sink) (handle : Handle) :
    Sink.behind (sink :: sinks) handle =
      if sink.handle = handle then Sink.behind sinks handle + 1 else Sink.behind sinks handle := by
  rw [Sink.behind, List.map_cons, List.count_cons]
  by_cases hhandle : sink.handle = handle
  · simp [hhandle, Sink.behind]
  · simp [hhandle, Sink.behind]

/-- A stream has a line once more with one more sink. -/
theorem repeated_behind_cons (sink : Sink) (sinks : List Sink) (handle : Handle) (s : String) :
    repeated (Sink.behind (sink :: sinks) handle) s =
      (if handle = sink.handle then s else "") ++ repeated (Sink.behind sinks handle) s := by
  rw [Sink.behind_cons]
  by_cases hhandle : sink.handle = handle
  · rw [if_pos hhandle, if_pos hhandle.symm, repeated_succ]
  · rw [if_neg hhandle, if_neg (Ne.symm hhandle), String.empty_append]

/-! ### Records -/

/-- A logger with a manual clock makes this line out of a record, at any state of the outlets;
the clock shows the same time afterwards. -/
def Logger.Writes (logger : Logger) (record : Record) (line : String) (time : Binary64) : Prop :=
  ∀ (scene : Scene) (readings : Nat), scene.clock = some ⟨.manual time, readings⟩ →
    ∃ clock readings',
      logger.layout.format record (scene.clockFor logger.clock) = (.ok line, clock) ∧
      scene.setClockFor logger.clock clock =
        { scene with clock := some ⟨.manual time, readings'⟩ }

/-- Lines that start with the time start with that of the host's own clock, with two places. -/
def Logger.ShowsOwnClock (logger : Logger) : Prop :=
  logger.layout.clockPrefix = true → logger.clock = .own ∧ logger.layout.renderTime = formatTime

/-- The record of a call makes the line of the call. -/
theorem Logger.writes_recordFor {logger : Logger} {message : Value}
    {text function line : String} {site : CallSite} (hformat : logger.HasStandardFormat)
    (hshows : logger.ShowsOwnClock) (hmessage : message.plainText = .ok text)
    (hsequence : Value.IsShort (logger.nextSequence : Int)) (hsite : site.Shown function line)
    (level : Int) (time : Binary64) :
    logger.Writes (logger.recordFor (Level.shown level) message site)
      (logger.lineAt logger.nextSequence time level text site) time := by
  intro scene readings hclock
  rcases hstamp : logger.layout.clockPrefix with - | -
  · refine ⟨scene.clockFor logger.clock, readings,
      format_of_not_clockPrefix hformat hstamp hmessage hsequence hsite level time _, ?_⟩
    rcases hgiven : logger.clock with - | v
    · rw [← hclock]
      rfl
    · rw [← hclock]
      rfl
  · obtain ⟨hown, hrender⟩ := hshows hstamp
    refine ⟨some ⟨.manual time, readings + 1⟩, readings + 1, ?_, ?_⟩
    · rw [hown, Scene.clockFor, hclock]
      exact format_of_clockPrefix hformat hstamp hrender hmessage hsequence hsite level time
        readings
    · rw [hown]
      rfl

/-- **A record is received by every sink that takes its line**: each stream has the line as often
as there are sinks that share it, and the call returns. -/
theorem deliver_of_takes (platform : Platform) {logger : Logger} {record : Record}
    {line : String} {time : Binary64} (hwrites : logger.Writes record line time)
    (hline : line ≠ "") {sinks : List Sink} {scene : Scene} {readings : Nat}
    (hclock : scene.clock = some ⟨.manual time, readings⟩)
    (hsinks : ∀ sink ∈ sinks, sink.Takes line scene.outlets) :
    ∃ outlets readings',
      deliver platform logger record sinks scene =
        ({ scene with outlets, clock := some ⟨.manual time, readings'⟩ }, .returned) ∧
      scene.outlets.Receives (fun handle => repeated (Sink.behind sinks handle) line)
        outlets := by
  induction sinks generalizing scene readings with
  | nil =>
      refine ⟨scene.outlets, readings, ?_, .refl _⟩
      rw [← hclock]
      rfl
  | cons sink sinks ih =>
      obtain ⟨clock, readings₁, hformat, hset⟩ := hwrites scene readings hclock
      obtain ⟨hsink, hrest⟩ := List.forall_mem_cons.mp hsinks
      have hsink' : sink.Takes line
          ({ scene with clock := some ⟨.manual time, readings₁⟩ } : Scene).outlets := hsink
      obtain ⟨outlets₁, hthrough, hreceives₁⟩ :=
        writeThrough_of_takes hsink' platform.lineEnd record hline
      have hclock₁ : ({ scene with
          outlets := outlets₁
          clock := some ⟨.manual time, readings₁⟩ } : Scene).clock =
            some ⟨.manual time, readings₁⟩ := rfl
      obtain ⟨outlets, readings₂, hdeliver, hreceives₂⟩ :=
        ih hclock₁ fun other hmem => (hrest other hmem).received hreceives₁
      refine ⟨outlets, readings₂, ?_, ?_⟩
      · simp only [deliver, Sink.give, raising, hformat, hset, hthrough, Option.map_none, hdeliver]
      · have hall : (fun handle => repeated (Sink.behind (sink :: sinks) handle) line) =
            fun handle => (if handle = sink.handle then line else "") ++
              repeated (Sink.behind sinks handle) line :=
          funext fun handle => repeated_behind_cons sink sinks handle line
        rw [hall]
        exact hreceives₁.trans hreceives₂

end TraceLog
