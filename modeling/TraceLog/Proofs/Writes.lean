import TraceLog.Proofs.Delivery

/-!
# What a Write Changes

A sink writes to the stream behind its handle, and to the file of that stream if it has one.
`Sink.writeTo` is what the stream does with it. Whether it fails, and what becomes of the stream,
is settled by the stream alone; what becomes of the file, by its content beside. All other
streams and files stay as they are.

## Main results

* `Sink.writeTo_eq`: what becomes of a stream does not depend on the files.
* `Sink.outcome_write`: the endings of a write.
* `Sink.Feeds.write`: what is handed to a stream that takes it.
* `Sink.write_eq_recursion_iff`, `Sink.roles_write`: faults of recursion.
-/

namespace TraceLog

namespace Stream

/-- What becomes of the files when a stream takes a text. -/
def filesAfter (s : String) (stream : Stream) (files : FileTree) : FileTree :=
  match stream.device with
  | .file place offset => files.writeAt place offset (Text.encode s.toList)
  | _ => files

/-- Text is taken or refused, whatever the files are. -/
theorem writeText_eq (s : String) (stream : Stream) (files : FileTree) :
    stream.writeText s files =
      ((stream.writeText s {}).map Prod.fst).map (·, stream.filesAfter s files) := by
  obtain ⟨device, closed⟩ := stream
  cases device with
  | ascii content =>
      cases closed with
      | true => rfl
      | false =>
          rcases hascii : Text.firstBeyondAscii? s.toList with - | ⟨position, run⟩
          · simp only [writeText, hascii]
            rfl
          · simp only [writeText, hascii]
            rfl
  | bare content => rfl
  | failing binary failure => rfl
  | _ =>
      cases closed with
      | true => rfl
      | false => rfl

/-- A stream fails by design exactly with the failure that it is made for. -/
theorem writeText_eq_failed_iff (s : String) (stream : Stream) (files : FileTree)
    (failure : StreamFailure) :
    stream.writeText s files = .error (.failed failure) ↔
      ∃ binary, stream.device = .failing binary failure := by
  obtain ⟨device, closed⟩ := stream
  cases device with
  | bare content => simp [writeText]
  | failing binary failure' => simp [writeText]
  | ascii content =>
      cases closed with
      | true => simp [writeText, closedFault]
      | false =>
          rcases hascii : Text.firstBeyondAscii? s.toList with - | run
          · simp [writeText, hascii]
          · simp [writeText, hascii]
  | _ =>
      cases closed with
      | true => simp [writeText, closedFault]
      | false => simp [writeText]

/-- Bytes fail with a failure of the stream exactly at a stream that fails so. -/
theorem writeBytes_eq_failed_iff (bs : List UInt8) (stream : Stream) (failure : StreamFailure) :
    stream.writeBytes bs = .error (.failed failure) ↔
      ∃ binary, stream.device = .failing binary failure := by
  obtain ⟨device, closed⟩ := stream
  cases device with
  | failing binary failure' => simp [writeBytes]
  | _ =>
      cases closed with
      | true => simp [writeBytes, closedFault]
      | false => simp [writeBytes]

/-- A stream as it was before it received anything. -/
def blank (stream : Stream) : Stream :=
  match stream.device with
  | .text _ => stream.receive (.text "")
  | .bare _ => stream.receive (.bare "")
  | .bytes _ => stream.receive (.bytes [])
  | .raw _ => stream.receive (.raw [])
  | .crlf _ => stream.receive (.crlf [])
  | .ascii _ => stream.receive (.ascii [])
  | .file place _ => stream.receive (.file place 0)
  | .discard | .failing .. => stream

/-- A write adds to what a stream has received, and changes nothing else about it. -/
theorem blank_of_writeText {s : String} {stream stream' : Stream} {files files' : FileTree}
    (h : stream.writeText s files = .ok (stream', files')) : stream'.blank = stream.blank := by
  obtain ⟨device, closed⟩ := stream
  cases device with
  | bare content =>
      obtain ⟨rfl, -⟩ := Prod.mk.inj (Except.ok.inj h)
      rfl
  | failing binary failure => simp [writeText] at h
  | ascii content =>
      cases closed with
      | true => simp [writeText] at h
      | false =>
          rcases hascii : Text.firstBeyondAscii? s.toList with - | run
          · simp only [writeText, hascii] at h
            obtain ⟨rfl, -⟩ := Prod.mk.inj (Except.ok.inj h)
            rfl
          · simp [writeText, hascii] at h
  | bytes content =>
      cases closed with
      | true => simp [writeText] at h
      | false => simp [writeText] at h
  | raw content =>
      cases closed with
      | true => simp [writeText] at h
      | false => simp [writeText] at h
  | _ =>
      cases closed with
      | true => simp [writeText] at h
      | false =>
          obtain ⟨rfl, -⟩ := Prod.mk.inj (Except.ok.inj h)
          rfl

/-- Bytes that are written leave the stream what it was before it received anything. -/
theorem blank_of_writeBytes {bs : List UInt8} {stream stream' : Stream}
    (h : stream.writeBytes bs = .ok stream') : stream'.blank = stream.blank := by
  obtain ⟨device, closed⟩ := stream
  cases device with
  | failing binary failure => simp [writeBytes] at h
  | bytes content =>
      cases closed with
      | true => simp [writeBytes] at h
      | false =>
          obtain rfl := Except.ok.inj h
          rfl
  | raw content =>
      cases closed with
      | true => simp [writeBytes] at h
      | false =>
          obtain rfl := Except.ok.inj h
          rfl
  | _ =>
      cases closed with
      | true => simp [writeBytes] at h
      | false => simp [writeBytes] at h

/-- What never changes about a stream: whether it fails with a fault of recursion, and the place of
its file, if it has one. -/
def role (stream : Stream) : Bool × Option Place :=
  (match stream.device with
    | .failing _ .recursion => true
    | _ => false, stream.device.place?)

/-- What a stream has received does not count for its role. -/
@[simp] theorem role_blank (stream : Stream) : stream.blank.role = stream.role := by
  obtain ⟨device, closed⟩ := stream
  cases device with
  | _ => rfl

end Stream

namespace Sink

/-- A line that is written through a sink to its stream. -/
def writeTo (lineEnd : List Char) (line : String) (sink : Sink) (stream : Stream)
    (files : FileTree) : Except StreamFault (Stream × FileTree) :=
  match sink.kind with
  | .byteStream =>
    (stream.writeBytes (Text.encode (Text.endLinesWith lineEnd line.toList))).map (·, files)
  | .line | .file => stream.writeText line files

variable {lineEnd : List Char} {line : String} {sink : Sink} {stream stream' : Stream}
  {files files' : FileTree} {outlets outlets' : Outlets}

/-- A write through a sink goes to its stream, and to nothing when there is none. -/
theorem write_eq (lineEnd : List Char) (line : String) (sink : Sink) (outlets : Outlets) :
    sink.write lineEnd line outlets =
      match outlets.find? sink.handle with
      | none => .ok outlets
      | some stream => (sink.writeTo lineEnd line stream outlets.files).map fun written =>
          ({ outlets with files := written.2 } : Outlets).put sink.handle written.1 := by
  rcases hkind : sink.kind with - | - | -
  · simp only [write, writeTo, hkind, Outlets.writeText]
    rcases outlets.find? sink.handle with - | stream
    · rfl
    · rcases hwrite : stream.writeText line outlets.files with fault | ⟨stream', files⟩
      · simp only [hwrite]
        rfl
      · simp only [hwrite]
        rfl
  · simp only [write, writeTo, hkind, Outlets.writeBytes]
    rcases outlets.find? sink.handle with - | stream
    · rfl
    · simp only
      rcases stream.writeBytes (Text.encode (Text.endLinesWith lineEnd line.toList)) with
        fault | stream'
      · rfl
      · rfl
  · simp only [write, writeTo, hkind, Outlets.writeText]
    rcases outlets.find? sink.handle with - | stream
    · rfl
    · rcases hwrite : stream.writeText line outlets.files with fault | ⟨stream', files⟩
      · simp only [hwrite]
        rfl
      · simp only [hwrite]
        rfl

/-- What becomes of the stream. -/
def streamAfter (lineEnd : List Char) (line : String) (sink : Sink) (stream : Stream) :
    Except StreamFault Stream :=
  (sink.writeTo lineEnd line stream {}).map Prod.fst

/-- What becomes of the files when the stream takes the line. -/
def filesAfter (line : String) (sink : Sink) (stream : Stream) (files : FileTree) : FileTree :=
  match sink.kind with
  | .byteStream => files
  | .line | .file => stream.filesAfter line files

/-- **What becomes of the stream is settled by the stream alone.** -/
theorem writeTo_eq (lineEnd : List Char) (line : String) (sink : Sink) (stream : Stream)
    (files : FileTree) :
    sink.writeTo lineEnd line stream files =
      (sink.streamAfter lineEnd line stream).map (·, sink.filesAfter line stream files) := by
  obtain ⟨kind, handle⟩ := sink
  cases kind with
  | line => exact stream.writeText_eq line files
  | file => exact stream.writeText_eq line files
  | byteStream =>
      simp only [writeTo, streamAfter, filesAfter]
      rcases Stream.writeBytes _ _ with fault | stream'
      · rfl
      · rfl

/-- So does a line that is written through a sink. -/
theorem blank_of_streamAfter (h : sink.streamAfter lineEnd line stream = .ok stream') :
    stream'.blank = stream.blank := by
  obtain ⟨kind, handle⟩ := sink
  have htext : ((stream.writeText line {}).map Prod.fst) = .ok stream' →
      stream'.blank = stream.blank := by
    intro hwrite
    obtain ⟨⟨written, files⟩, hwritten, rfl⟩ := map_eq_ok.mp hwrite
    exact Stream.blank_of_writeText hwritten
  cases kind with
  | line => exact htext h
  | file => exact htext h
  | byteStream =>
      obtain ⟨⟨written, files⟩, hwritten, rfl⟩ := map_eq_ok.mp h
      obtain ⟨taken, htaken, hpair⟩ := map_eq_ok.mp hwritten
      obtain rfl := (Prod.mk.inj hpair).1
      exact Stream.blank_of_writeBytes htaken

/-- Files that a stream does not write to stay as they are. -/
theorem content?_filesAfter_of_ne {place : Place} (h : stream.device.place? ≠ some place)
    (line : String) (sink : Sink) (files : FileTree) :
    (sink.filesAfter line stream files).content? place = files.content? place := by
  have htext : (stream.filesAfter line files).content? place = files.content? place := by
    rw [Stream.filesAfter]
    split
    · next place' offset hdevice =>
      refine FileTree.content?_writeAt_of_ne ?_ _ _
      rintro rfl
      exact h (by rw [hdevice]; rfl)
    · rfl
  rw [filesAfter]
  split
  · rfl
  · exact htext
  · exact htext

/-- The endings of a write: there is no stream, or the stream takes the line or refuses it. -/
inductive WriteOutcome (lineEnd : List Char) (line : String) (sink : Sink) (outlets : Outlets) :
    Except StreamFault Outlets → Prop
  | nowhere : outlets.find? sink.handle = none →
      WriteOutcome lineEnd line sink outlets (.ok outlets)
  | taken {stream stream' : Stream} : outlets.find? sink.handle = some stream →
      sink.streamAfter lineEnd line stream = .ok stream' →
      WriteOutcome lineEnd line sink outlets
        (.ok (({ outlets with files := sink.filesAfter line stream outlets.files } : Outlets).put
          sink.handle stream'))
  | refused {stream : Stream} {fault : StreamFault} : outlets.find? sink.handle = some stream →
      sink.streamAfter lineEnd line stream = .error fault →
      WriteOutcome lineEnd line sink outlets (.error fault)

/-- Every write has one of the endings. -/
theorem outcome_write (lineEnd : List Char) (line : String) (sink : Sink) (outlets : Outlets) :
    WriteOutcome lineEnd line sink outlets (sink.write lineEnd line outlets) := by
  rw [write_eq]
  rcases hfind : outlets.find? sink.handle with - | stream
  · exact .nowhere hfind
  · simp only [writeTo_eq]
    rcases hafter : sink.streamAfter lineEnd line stream with fault | stream'
    · exact .refused hfind hafter
    · exact .taken hfind hafter

/-- A write leaves all other streams alone. -/
theorem find?_write_of_ne {handle : Handle} (h : sink.write lineEnd line outlets = .ok outlets')
    (hne : handle ≠ sink.handle) : outlets'.find? handle = outlets.find? handle := by
  have houtcome := outcome_write lineEnd line sink outlets
  rw [h] at houtcome
  cases houtcome with
  | nowhere => rfl
  | taken => exact Outlets.find?_put_of_ne hne _ _

end Sink

/-! ### Streams that take what they are handed -/

namespace Stream

/-- A stream after it was handed a text, as bytes if it is a stream of bytes. -/
def fed (lineEnd : List Char) (s : String) (stream : Stream) : Stream :=
  match stream.device with
  | .bytes content =>
    stream.receive (.bytes (content ++ Text.encode (Text.endLinesWith lineEnd s.toList)))
  | .raw content =>
    stream.receive (.raw (content ++ Text.encode (Text.endLinesWith lineEnd s.toList)))
  | _ => stream.after s

variable {stream : Stream}

/-- An empty text feeds nothing. -/
@[simp] theorem fed_empty (lineEnd : List Char) (stream : Stream) :
    stream.fed lineEnd "" = stream := by
  obtain ⟨device, closed⟩ := stream
  cases device with
  | bytes content => simp [fed, receive, Text.endLinesWith, Text.encode]
  | raw content => simp [fed, receive, Text.endLinesWith, Text.encode]
  | _ => simp [fed]

/-- Texts are handed over one after the other. -/
theorem fed_append (lineEnd : List Char) (s t : String) (stream : Stream) :
    stream.fed lineEnd (s ++ t) = (stream.fed lineEnd s).fed lineEnd t := by
  obtain ⟨device, closed⟩ := stream
  cases device with
  | bytes content => simp [fed, receive]
  | raw content => simp [fed, receive]
  | _ => simp [fed, after, receive, String.append_assoc, Nat.add_assoc]

/-- A stream of text is handed text as it is. -/
theorem fed_of_takes {s : String} (h : stream.Takes s) (lineEnd : List Char) (t : String) :
    stream.fed lineEnd t = stream.after t := by
  obtain ⟨device, closed⟩ := stream
  cases device with
  | bytes content => exact h.elim
  | raw content => exact h.elim
  | _ => rfl

end Stream

namespace Sink

variable {sink : Sink} {stream : Stream} {s : String}

/-- A stream takes what it is handed by the sink: text that it takes as text, or bytes when it is
an open stream of bytes. -/
def Feeds (s : String) (sink : Sink) (stream : Stream) : Prop :=
  match sink.kind with
  | .line | .file => stream.Takes s
  | .byteStream => stream.closed = false ∧
      ((∃ content, stream.device = .bytes content) ∨ ∃ content, stream.device = .raw content)

/-- What is handed to a stream that takes it is received. -/
theorem Feeds.streamAfter (h : sink.Feeds s stream) (lineEnd : List Char) :
    sink.streamAfter lineEnd s stream = .ok (stream.fed lineEnd s) := by
  obtain ⟨kind, handle⟩ := sink
  have htext : stream.Takes s →
      (stream.writeText s {}).map Prod.fst = .ok (stream.fed lineEnd s) := by
    intro htakes
    rw [Stream.writeText_of_takes htakes, Stream.fed_of_takes htakes]
    rfl
  cases kind with
  | line => exact htext h
  | file => exact htext h
  | byteStream =>
      obtain ⟨device, closed⟩ := stream
      obtain ⟨hopen, ⟨content, hdevice⟩ | ⟨content, hdevice⟩⟩ := h
      · obtain rfl : closed = false := hopen
        obtain rfl : device = .bytes content := hdevice
        rfl
      · obtain rfl : closed = false := hopen
        obtain rfl : device = .raw content := hdevice
        rfl

/-- What a stream was handed does not matter for what it takes. -/
theorem Feeds.fed (h : sink.Feeds s stream) (lineEnd : List Char) (t : String) :
    sink.Feeds s (stream.fed lineEnd t) := by
  obtain ⟨kind, handle⟩ := sink
  have htext : stream.Takes s → (stream.fed lineEnd t).Takes s := by
    intro htakes
    rw [Stream.fed_of_takes htakes]
    exact htakes.after t
  cases kind with
  | line => exact htext h
  | file => exact htext h
  | byteStream =>
      obtain ⟨device, closed⟩ := stream
      obtain ⟨hopen, ⟨content, hdevice⟩ | ⟨content, hdevice⟩⟩ := h
      · obtain rfl : device = .bytes content := hdevice
        exact ⟨hopen, .inl ⟨_, rfl⟩⟩
      · obtain rfl : device = .raw content := hdevice
        exact ⟨hopen, .inr ⟨_, rfl⟩⟩

/-- A sink whose stream takes what it is handed, and what is left behind. -/
theorem Feeds.write {outlets : Outlets} (hfind : outlets.find? sink.handle = some stream)
    (h : sink.Feeds s stream) (lineEnd : List Char) :
    ∃ outlets', sink.write lineEnd s outlets = .ok outlets' ∧
      outlets'.find? sink.handle = some (stream.fed lineEnd s) := by
  refine ⟨_, ?_, Outlets.find?_put_self
    { outlets with files := sink.filesAfter s stream outlets.files } _ _⟩
  rw [write_eq, hfind]
  simp only [writeTo_eq, h.streamAfter lineEnd]
  rfl

end Sink

/-! ### Faults of recursion -/

namespace Outlets

/-- The streams as they were before they received anything. -/
def blanks (outlets : Outlets) (handle : Handle) : Option Stream :=
  (outlets.find? handle).map Stream.blank

/-- What never changes about the streams. -/
def roles (outlets : Outlets) (handle : Handle) : Option (Bool × Option Place) :=
  (outlets.find? handle).map Stream.role

/-- The stream behind the handle fails with a fault of recursion. -/
def Recurses (outlets : Outlets) (handle : Handle) : Prop :=
  ∃ stream binary, outlets.find? handle = some stream ∧
    stream.device = .failing binary .recursion

/-- What streams have received does not count for their roles. -/
theorem roles_eq_of_blanks {outlets outlets' : Outlets} (h : outlets'.blanks = outlets.blanks) :
    outlets'.roles = outlets.roles := by
  have hroles : ∀ given : Outlets, given.roles =
      fun handle => (given.blanks handle).map Stream.role := by
    intro given
    funext handle
    rw [blanks, Option.map_map]
    exact congrArg (Option.map · _) (funext fun stream => stream.role_blank.symm)
  rw [hroles, hroles, h]

/-- Whether a stream fails with a fault of recursion is settled by its role. -/
theorem recurses_iff_roles {outlets : Outlets} {handle : Handle} :
    outlets.Recurses handle ↔ (outlets.roles handle).map Prod.fst = some true := by
  rcases hfind : outlets.find? handle with - | ⟨device, closed⟩
  · simp [Recurses, roles, hfind]
  · cases device with
    | failing binary failure =>
        cases failure with
        | _ => simp [Recurses, roles, hfind, Stream.role]
    | _ => simp [Recurses, roles, hfind, Stream.role]

instance (outlets : Outlets) (handle : Handle) : Decidable (outlets.Recurses handle) :=
  decidable_of_iff _ recurses_iff_roles.symm

/-- Streams of the same roles fail alike. -/
theorem recurses_congr {outlets outlets' : Outlets} (h : outlets'.roles = outlets.roles)
    (handle : Handle) : outlets'.Recurses handle ↔ outlets.Recurses handle := by
  rw [recurses_iff_roles, recurses_iff_roles, h]

end Outlets

namespace Sink

variable {lineEnd : List Char} {line : String} {sink : Sink} {stream stream' : Stream}
  {outlets outlets' : Outlets}

/-- A stream is stopped by recursion when that is what it fails with, whatever it is handed. -/
theorem streamAfter_eq_recursion_iff :
    sink.streamAfter lineEnd line stream = .error (.failed .recursion) ↔
      ∃ binary, stream.device = .failing binary .recursion := by
  obtain ⟨kind, handle⟩ := sink
  cases kind with
  | line => exact map_eq_error.trans (stream.writeText_eq_failed_iff line {} .recursion)
  | file => exact map_eq_error.trans (stream.writeText_eq_failed_iff line {} .recursion)
  | byteStream =>
      exact map_eq_error.trans (map_eq_error.trans (stream.writeBytes_eq_failed_iff _ .recursion))

/-- **A sink fails with a fault of recursion** exactly at a stream that does. -/
theorem write_eq_recursion_iff :
    sink.write lineEnd line outlets = .error (.failed .recursion) ↔
      outlets.Recurses sink.handle := by
  have houtcome := outcome_write lineEnd line sink outlets
  constructor
  · intro h
    rw [h] at houtcome
    cases houtcome with
    | refused hfind hafter =>
        obtain ⟨binary, hdevice⟩ := streamAfter_eq_recursion_iff.mp hafter
        exact ⟨_, binary, hfind, hdevice⟩
  · rintro ⟨stream, binary, hfind, hdevice⟩
    have hafter : sink.streamAfter lineEnd line stream = .error (.failed .recursion) :=
      streamAfter_eq_recursion_iff.mpr ⟨binary, hdevice⟩
    rw [write_eq, hfind]
    simp only [writeTo_eq, hafter]
    rfl

/-- A write adds to what streams have received, and changes nothing else about them. -/
theorem blanks_write (h : sink.write lineEnd line outlets = .ok outlets') :
    outlets'.blanks = outlets.blanks := by
  have houtcome := outcome_write lineEnd line sink outlets
  rw [h] at houtcome
  cases houtcome with
  | nowhere => rfl
  | @taken stream stream' hfind hafter =>
      funext handle
      by_cases hhandle : handle = sink.handle
      · rw [hhandle, Outlets.blanks, Outlets.blanks, Outlets.find?_put_self, hfind]
        exact congrArg some (blank_of_streamAfter hafter)
      · rw [Outlets.blanks, Outlets.find?_put_of_ne hhandle]
        rfl

/-- A write does not change what streams are. -/
theorem roles_write (h : sink.write lineEnd line outlets = .ok outlets') :
    outlets'.roles = outlets.roles :=
  Outlets.roles_eq_of_blanks (blanks_write h)

end Sink

end TraceLog
