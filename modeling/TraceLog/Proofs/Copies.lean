import TraceLog.Proofs.Blame
import TraceLog.Proofs.Entanglement
import TraceLog.Proofs.Suppression
import TraceLog.Proofs.Writes

/-!
# What a Redirected Logger Writes

A logger that was redirected hands all of its records to one stream. Each handler of a stream or a
file makes a copy of a record, in its own format, if the record reaches its level and its template
can be filled (`HostHandler.copy?`). A logger without such handlers was given one, which makes a
plain copy. `HostLogger.copies` lists these copies for the logger as it was before.

The stream receives them in this order, as far as it takes them: text in ASCII, for instance, takes
no other characters, and what it does not take is left out and keeps nothing else back
(`Stream.taken`), as long as standard error hears the report on that. There is no record for a level
of zero or less, even if the logger has such a level itself, and none below the level of the loggers
above where the own one is zero.

## Main results

* `HostLogger.copied_handleOne`, `HostLogger.copied_handleAll`: one record, given to handlers.
* `HostLogger.copied_log`, `HostLogger.copied_logEach`: one call, and a run of calls.
* `HostLogger.redirected_copies`: a redirection, and what becomes of the records after it.
* `HostLogger.not_every_record_copied`: records that are not copied.
-/

namespace TraceLog

/-! ### What a stream takes of several texts -/

namespace Stream

instance (s : String) (stream : Stream) : Decidable (stream.Takes s) :=
  match stream with
  | ⟨.bare _, _⟩ => inferInstanceAs (Decidable True)
  | ⟨.text _, closed⟩ | ⟨.crlf _, closed⟩ | ⟨.discard, closed⟩ | ⟨.file .., closed⟩ =>
    inferInstanceAs (Decidable (closed = false))
  | ⟨.ascii _, closed⟩ =>
    inferInstanceAs (Decidable (closed = false ∧ Text.firstBeyondAscii? s.toList = none))
  | ⟨.bytes _, _⟩ | ⟨.raw _, _⟩ | ⟨.failing .., _⟩ => inferInstanceAs (Decidable False)

variable {stream : Stream} {s : String}

/-- The texts that a stream takes, one behind the other. -/
def taken (stream : Stream) (texts : List String) : String :=
  String.join (texts.filter fun s => stream.Takes s)

/-- Nothing is taken of no texts. -/
@[simp] theorem taken_nil (stream : Stream) : stream.taken [] = "" :=
  String.join_nil

/-- What is taken of texts comes in front of what is taken of the later ones. -/
theorem taken_append (stream : Stream) (texts texts' : List String) :
    stream.taken (texts ++ texts') = stream.taken texts ++ stream.taken texts' := by
  rw [taken, List.filter_append, String.join_append]
  rfl

/-- A text is taken as a whole, or not at all. -/
theorem taken_singleton (stream : Stream) (s : String) :
    stream.taken [s] = if stream.Takes s then s else "" := by
  by_cases htakes : stream.Takes s
  · simp [taken, htakes]
  · simp [taken, htakes]

/-- A stream that takes no text at all. -/
theorem taken_of_none (h : ∀ s, ¬ stream.Takes s) (texts : List String) :
    stream.taken texts = "" := by
  rw [taken, List.filter_eq_nil_iff.mpr fun s _ => by simp [h s]]
  exact String.join_nil

/-- What a stream has received does not matter for whether it takes a text. -/
theorem takes_after_iff (stream : Stream) (t s : String) :
    (stream.after t).Takes s ↔ stream.Takes s := by
  obtain ⟨device, closed⟩ := stream
  cases device with
  | _ => exact .rfl

/-- What a stream has received does not matter for what it takes. -/
theorem taken_after (stream : Stream) (t : String) (texts : List String) :
    (stream.after t).taken texts = stream.taken texts := by
  simp only [taken, takes_after_iff]

/-- A text that a stream does not take is refused. -/
theorem exists_writeText_error (h : ¬ stream.Takes s) (files : FileTree) :
    ∃ fault, stream.writeText s files = .error fault := by
  obtain ⟨device, closed⟩ := stream
  cases device with
  | bare content => exact absurd trivial h
  | failing binary failure => exact ⟨_, rfl⟩
  | ascii content =>
      cases closed with
      | true => exact ⟨_, rfl⟩
      | false =>
          rcases hascii : Text.firstBeyondAscii? s.toList with - | ⟨position, run⟩
          · exact absurd ⟨rfl, hascii⟩ h
          · exact ⟨.notAscii position run, by simp [writeText, hascii]⟩
  | bytes content =>
      cases closed with
      | true => exact ⟨_, rfl⟩
      | false => exact ⟨_, rfl⟩
  | raw content =>
      cases closed with
      | true => exact ⟨_, rfl⟩
      | false => exact ⟨_, rfl⟩
  | _ =>
      cases closed with
      | true => exact ⟨_, rfl⟩
      | false => exact absurd rfl h

end Stream

namespace Outlets

variable {outlets outlets' : Outlets} {handle : Handle} {stream : Stream} {s : String}

/-- One stream receives a text, and no other one receives anything. -/
def only (handle : Handle) (text : String) (other : Handle) : String :=
  if other = handle then text else ""

/-- Nothing was received. -/
theorem receives_only_empty (handle : Handle) (outlets : Outlets) :
    outlets.Receives (only handle "") outlets := by
  have hnothing : only handle "" = fun _ => "" := funext fun _ => ite_self ""
  rw [hnothing]
  exact .refl outlets

/-- What one stream alone receives is received piece by piece. -/
theorem only_append (handle : Handle) (s t : String) :
    only handle (s ++ t) = fun other => only handle s other ++ only handle t other := by
  funext other
  by_cases hother : other = handle
  · simp only [only, hother, if_true]
  · simp only [only, hother, if_false, String.append_empty]

/-- A text that a stream does not take is refused. If that is a fault of recursion, the stream takes
no text at all. -/
theorem exists_writeText_error (hfind : outlets.find? handle = some stream)
    (h : ¬ stream.Takes s) :
    ∃ fault, outlets.writeText s handle = .error fault ∧
      (fault = .failed .recursion → ∀ t, ¬ stream.Takes t) := by
  obtain ⟨fault, hrefused⟩ := Stream.exists_writeText_error h outlets.files
  refine ⟨fault, ?_, ?_⟩
  · simp only [writeText, hfind, hrefused]
    rfl
  · rintro rfl t
    obtain ⟨binary, hdevice⟩ := (Stream.writeText_eq_failed_iff _ _ _ _).mp hrefused
    rw [Stream.Takes, hdevice]
    exact id

/-- What is received does not depend on what was reported before. -/
theorem Receives.withoutReports {received : Handle → String}
    (h : outlets.Receives received outlets') :
    outlets.withoutReports.Receives received outlets'.withoutReports :=
  ⟨rfl, h.streams, h.kept, h.files⟩

/-- Streams that receive texts stay what they were before they received anything. -/
theorem Receives.blanks {received : Handle → String} (h : outlets.Receives received outlets') :
    outlets'.blanks = outlets.blanks := by
  funext handle
  rw [Outlets.blanks, h.streams, Option.map_map, Outlets.blanks]
  congr 1
  funext stream
  obtain ⟨device, closed⟩ := stream
  cases device with
  | _ => rfl

end Outlets

/-! ### Copies of a record -/

/-- The copy of a record that a handler makes, with the end of its line. There is none if the record
does not reach the handler's level, nor if the handler's template cannot be filled. -/
def HostHandler.copy? (record : HostRecord) (handler : HostHandler) : Option String :=
  if record.level < handler.level then none
  else (handler.lineOf record).toOption.map (· ++ "\n")

/-- A handler hands its copies to this stream, or writes nowhere. -/
def HostHandler.IsAt (handle : Handle) (handler : HostHandler) : Prop :=
  handler.target = if handler.isStreamHandler then some handle else none

/-- A handler makes a copy of a record that reaches its level, and the stream takes that. -/
def HostHandler.Writes (record : HostRecord) (stream : Stream) (handler : HostHandler) : Prop :=
  handler.isStreamHandler = true → ¬ record.level < handler.level →
    ∃ line, handler.lineOf record = .ok line ∧ stream.Takes (line ++ "\n")

/-- Whether it is settled what a handler makes of a record: its template comes to no surrogate. -/
def HostHandler.isSettled (record : HostRecord) (handler : HostHandler) : Bool :=
  match handler.lineOf record with
  | .error (.template .surrogate) => false
  | _ => true

/-- Handlers keep the fault back with which a template cannot be filled. -/
theorem HostHandler.passesOn_of_lineOf {record : HostRecord} {handler : HostHandler}
    {fault : Fault} (h : handler.lineOf record = .error fault) : fault.passesOn = false := by
  rw [lineOf] at h
  split at h
  · simp at h
  · split at h
    · simp at h
    · obtain rfl := Except.error.inj h
      rfl
    · next unfilled hfill =>
      obtain rfl := Except.error.inj h
      exact (Template.blames_fillPieces _ _ _ _ hfill).passesOn

/-- A call on a host's logger. -/
structure HostCall where
  level : Int
  message : String
  site : CallSite

/-- What becomes of a record at one stream, of which these copies are made: reports on standard
error apart, the stream receives the copies that it takes. Nothing is reported where all goes well.
-/
structure Copied (handle : Handle) (stream : Stream) (copies : List String) (goesWell : Prop)
    (outlets outlets' : Outlets) : Prop where
  receives : outlets.withoutReports.Receives (Outlets.only handle (stream.taken copies))
    outlets'.withoutReports
  silent : goesWell → outlets'.reports = outlets.reports

namespace Copied

variable {handle : Handle} {stream : Stream} {copies copies' : List String}
  {goesWell goesWell' : Prop} {outlets outlets' outlets'' : Outlets}

/-- No copies. -/
theorem nothing (handle : Handle) (stream : Stream) (goesWell : Prop) (outlets : Outlets) :
    Copied handle stream [] goesWell outlets outlets := by
  refine ⟨?_, fun _ => rfl⟩
  rw [Stream.taken_nil]
  exact Outlets.receives_only_empty handle _

/-- A fault that leaves nothing but a report. -/
theorem reported (hsame : outlets'.withoutReports = outlets.withoutReports)
    (hnone : stream.taken copies = "") (hfails : ¬ goesWell) :
    Copied handle stream copies goesWell outlets outlets' := by
  refine ⟨?_, fun hwell => absurd hwell hfails⟩
  rw [hsame, hnone]
  exact Outlets.receives_only_empty handle _

/-- The stream is there afterwards. -/
theorem find? (h : Copied handle stream copies goesWell outlets outlets')
    (hfind : outlets.find? handle = some stream) :
    outlets'.find? handle = some (stream.after (stream.taken copies)) := by
  have hstreams := h.receives.streams handle
  rw [Outlets.find?_withoutReports, Outlets.find?_withoutReports, hfind,
    Option.map_some] at hstreams
  rw [hstreams, Outlets.only, if_pos rfl]

/-- Standard error hears what it heard. -/
theorem hears_iff (h : Copied handle stream copies goesWell outlets outlets') :
    outlets'.Hears ↔ outlets.Hears :=
  Outlets.hears_congr (congrFun h.receives.blanks .console)

/-- Copies of one record behind those of another. -/
theorem trans (h : Copied handle stream copies goesWell outlets outlets')
    (h' : Copied handle (stream.after (stream.taken copies)) copies' goesWell' outlets' outlets'') :
    Copied handle stream (copies ++ copies') (goesWell ∧ goesWell') outlets outlets'' := by
  have hreceives := h'.receives
  rw [Stream.taken_after] at hreceives
  refine ⟨?_, fun hwell => (h'.silent hwell.2).trans (h.silent hwell.1)⟩
  rw [Stream.taken_append, Outlets.only_append]
  exact h.receives.trans hreceives

/-- All goes well if it does under a condition that is met more often. -/
theorem imp (h : Copied handle stream copies goesWell outlets outlets')
    (himp : goesWell' → goesWell) : Copied handle stream copies goesWell' outlets outlets' :=
  ⟨h.receives, fun hwell => h.silent (himp hwell)⟩

/-- Nothing more is copied to a stream that takes no text. -/
theorem append_of_none (h : Copied handle stream copies goesWell outlets outlets')
    (hnone : ∀ s, ¬ stream.Takes s) (copies' : List String) :
    Copied handle stream (copies ++ copies') goesWell outlets outlets' := by
  refine ⟨?_, h.silent⟩
  rw [Stream.taken_append, Stream.taken_of_none hnone copies', String.append_empty]
  exact h.receives

end Copied

namespace HostLogger

open HostHandler

/-- The copies of a record that handlers make, those that write nowhere apart. -/
def copiesAmong (record : HostRecord) (handlers : List HostHandler) : List String :=
  (handlers.filter isStreamHandler).filterMap (copy? record)

/-- The record of a call. There is none below the logger's level, or below the one of the loggers
above if the own one is zero; none of a level that is not above zero, and none of a level without a
display name. -/
def recordOf? (host : HostLogger) (call : HostCall) : Option HostRecord :=
  if call.level < host.effectiveLevel ∨ call.level ≤ 0 then none
  else (Level.name call.level).toOption.map fun levelName =>
    { name := host.name, level := call.level, levelName, message := call.message
      site := call.site }

/-- The copies of the record of a call: those that the handlers make or, if none of them is one of a
stream or a file, a plain one. -/
def copies (host : HostLogger) (call : HostCall) : List String :=
  (host.recordOf? call).toList.flatMap fun record =>
    if host.handlers.filter isStreamHandler = [] then [record.message ++ "\n"]
    else copiesAmong record host.handlers

/-- All copies of the record of a call are made, and the stream takes them. -/
def Writes (stream : Stream) (host : HostLogger) (call : HostCall) : Prop :=
  ∀ record ∈ host.recordOf? call, ∀ handler ∈ host.handlers, handler.Writes record stream

/-- It is settled what the copies of a call's record are: none of them has a surrogate. -/
def Settled (host : HostLogger) (call : HostCall) : Prop :=
  ∀ record ∈ host.recordOf? call, ∀ handler ∈ host.handlers, handler.isSettled record = true

instance (host : HostLogger) (call : HostCall) : Decidable (host.Settled call) :=
  inferInstanceAs (Decidable (∀ record ∈ host.recordOf? call, ∀ handler ∈ host.handlers,
    handler.isSettled record = true))

/-- A logger after it was given records, and the outlets. A call that raises a fault does not keep
the later ones from being made. -/
def logEach (host : HostLogger) (outlets : Outlets) : List HostCall → HostLogger × Outlets
  | [] => (host, outlets)
  | call :: calls =>
    let next := host.log call.level call.message call.site outlets
    next.host.logEach next.outlets calls

/-- A logger hands the copies of its records to one stream, and to no other. -/
structure HandsTo (handle : Handle) (host : HostLogger) : Prop where
  apart : host.propagate = false
  some : host.handlers.filter isStreamHandler ≠ []
  handlers : ∀ handler ∈ host.handlers, handler.IsAt handle

variable {host : HostLogger} {handle : Handle} {handler : HostHandler}
  {handlers : List HostHandler} {outlets : Outlets} {stream : Stream}

/-- Copies of a record are made by one handler after the other. -/
theorem copiesAmong_cons (record : HostRecord) (handler : HostHandler)
    (handlers : List HostHandler) :
    copiesAmong record (handler :: handlers) =
      copiesAmong record [handler] ++ copiesAmong record handlers := by
  rw [copiesAmong, ← List.singleton_append, List.filter_append, List.filterMap_append]
  rfl

/-- A handler whose level is not reached makes no copy. -/
theorem copiesAmong_of_lt {record : HostRecord} (h : record.level < handler.level) :
    copiesAmong record [handler] = [] := by
  have hcopy : copy? record handler = none := if_pos h
  rcases hstream : handler.isStreamHandler with - | -
  · simp [copiesAmong, hstream]
  · simp [copiesAmong, hstream, hcopy]

/-- What a stream has received does not matter for what handlers write to it. -/
theorem writes_after_iff (record : HostRecord) (s : String) :
    handler.Writes record (stream.after s) ↔ handler.Writes record stream := by
  simp only [HostHandler.Writes, Stream.takes_after_iff]

/-! ### One record -/

/-- A fault that a handler keeps back is not raised where all reports are heard, and leaves nothing
but a report. -/
theorem met_of_hears {fault : Fault} (hhears : outlets.Hears) (hpasses : fault.passesOn = false)
    (record : HostRecord) :
    ∃ outlets', met record fault outlets = (outlets', [fault], none) ∧
      outlets'.withoutReports = outlets.withoutReports := by
  refine ⟨_, ?_, withoutReports_met record fault outlets⟩
  simp only [met, hhears.snd_meet hpasses, hpasses, Bool.false_eq_true, if_false]

/-- A record that is given to a handler at a stream: the stream receives the copy if it takes it. A
fault is raised only if the stream takes nothing at all. -/
theorem copied_handleOne {record : HostRecord} (hfind : outlets.find? handle = some stream)
    (hat : handler.IsAt handle) (hreached : ¬ record.level < handler.level)
    (hheard : outlets.Hears ∨ handler.Writes record stream) :
    ∃ outlets' faults raised, handleOne record handler outlets =
        (handler, outlets', faults, raised) ∧
      Copied handle stream (copiesAmong record [handler]) (handler.Writes record stream) outlets
        outlets' ∧
      (raised ≠ none → ∀ t, ¬ stream.Takes t) := by
  rcases hstream : handler.isStreamHandler with - | -
  · -- a handler that writes nowhere
    have hkind : handler.kind = .null := by simpa [isStreamHandler] using hstream
    have htarget : handler.target = none := by simpa [IsAt, hstream] using hat
    have hcopies : copiesAmong record [handler] = [] := by simp [copiesAmong, hstream]
    refine ⟨outlets, [], none, ?_, ?_, by simp⟩
    · simp only [handleOne, target, hkind, htarget]
    · rw [hcopies]
      exact .nothing handle stream _ outlets
  have htarget : handler.target = some handle := by simpa [IsAt, hstream] using hat
  have hthere : target handler outlets = .ok (some handle, handler, outlets) := by
    simp only [target, htarget]
  rcases hline : handler.lineOf record with fault | line
  · -- the template cannot be filled
    have hcopies : copiesAmong record [handler] = [] := by
      simp [copiesAmong, hstream, copy?, hreached, hline, Except.toOption]
    have hfails : ¬ handler.Writes record stream := by
      intro hwrites
      obtain ⟨line, hmade, -⟩ := hwrites hstream hreached
      simp [hline] at hmade
    obtain ⟨outlets', hmet, hsame⟩ :=
      met_of_hears (hheard.resolve_right hfails) (passesOn_of_lineOf hline) record
    refine ⟨outlets', [fault], none, ?_, ?_, by simp⟩
    · simp only [handleOne, hthere, hline, hmet]
    · rw [hcopies]
      exact .reported hsame (Stream.taken_nil stream) hfails
  have hcopies : copiesAmong record [handler] = [line ++ "\n"] := by
    simp [copiesAmong, hstream, copy?, hreached, hline, Except.toOption]
  have hne : line ++ "\n" ≠ "" := by simp
  rw [hcopies]
  by_cases htakes : stream.Takes (line ++ "\n")
  · obtain ⟨outlets', hwrite, hreceives⟩ := Outlets.receives_writeText hfind htakes hne
    refine ⟨outlets', [], none, ?_, ⟨?_, fun _ => hreceives.reports⟩, by simp⟩
    · simp only [handleOne, hthere, hline, hwrite]
    · rw [Stream.taken_singleton, if_pos htakes]
      exact hreceives.withoutReports
  · have hnone : stream.taken [line ++ "\n"] = "" := by
      rw [Stream.taken_singleton, if_neg htakes]
    have hfails : ¬ handler.Writes record stream := by
      intro hwrites
      obtain ⟨line', hmade, htakes'⟩ := hwrites hstream hreached
      obtain rfl : line = line' := Except.ok.inj (hline.symm.trans hmade)
      exact htakes htakes'
    obtain ⟨fault, hwrite, hall⟩ := Outlets.exists_writeText_error hfind htakes
    rcases hpasses : (Fault.stream fault).passesOn with - | -
    · obtain ⟨outlets', hmet, hsame⟩ := met_of_hears (hheard.resolve_right hfails) hpasses record
      refine ⟨outlets', [.stream fault], none, ?_, .reported hsame hnone hfails, by simp⟩
      simp only [handleOne, hthere, hline, hwrite, hmet]
    · refine ⟨outlets, [], some (.stream fault), ?_, .reported rfl hnone hfails, fun _ => ?_⟩
      · simp only [handleOne, hthere, hline, hwrite, met, Outlets.meet, hpasses, if_true]
      · exact hall (Fault.passesOn_stream_iff.mp hpasses)

/-- **A record that is given to handlers at one stream**: the stream receives the copies that it
takes, and the handlers stay as they are. -/
theorem copied_handleAll (record : HostRecord) (hfind : outlets.find? handle = some stream)
    (hat : ∀ handler ∈ handlers, handler.IsAt handle)
    (hheard : outlets.Hears ∨ ∀ handler ∈ handlers, handler.Writes record stream) :
    ∃ outlets' faults raised, handleAll record handlers outlets =
        (handlers, outlets', faults, raised) ∧
      Copied handle stream (copiesAmong record handlers)
        (∀ handler ∈ handlers, handler.Writes record stream) outlets outlets' := by
  induction handlers generalizing outlets stream with
  | nil => exact ⟨outlets, [], none, rfl, .nothing handle stream _ outlets⟩
  | cons handler handlers ih =>
      obtain ⟨hhandler, hrest⟩ := List.forall_mem_cons.mp hat
      simp only [List.forall_mem_cons] at hheard ⊢
      rw [copiesAmong_cons]
      by_cases hlevel : record.level < handler.level
      · obtain ⟨outlets', faults, raised, hall, hcopied⟩ :=
          ih hfind hrest (hheard.imp_right And.right)
        refine ⟨outlets', faults, raised, ?_, ?_⟩
        · simp only [handleAll, hlevel, if_true, hall]
        · rw [copiesAmong_of_lt hlevel, List.nil_append]
          exact hcopied.imp And.right
      obtain ⟨next, faults, raised, hone, hcopied, hraised⟩ :=
        copied_handleOne hfind hhandler hlevel (hheard.imp_right And.left)
      rcases raised with - | fault
      · have hheard' : next.Hears ∨ ∀ other ∈ handlers, other.Writes record
            (stream.after (stream.taken (copiesAmong record [handler]))) := by
          simp only [writes_after_iff]
          exact hheard.imp hcopied.hears_iff.mpr And.right
        obtain ⟨outlets', later, raised, hall, hcopied'⟩ :=
          ih (hcopied.find? hfind) hrest hheard'
        refine ⟨outlets', faults ++ later, raised, ?_, ?_⟩
        · simp only [handleAll, hlevel, if_false, hone, hall]
        · simp only [writes_after_iff] at hcopied'
          exact hcopied.trans hcopied'
      · -- the fault is raised: the stream takes nothing, from the later handlers neither
        refine ⟨next, faults, some fault, ?_, ?_⟩
        · simp only [handleAll, hlevel, if_false, hone]
        · exact (hcopied.append_of_none (hraised (by simp)) _).imp And.left

/-- **A record that is given to a logger at one stream**: the stream receives the copies that it
takes, and the logger stays as it is. -/
theorem copied_log (h : host.HandsTo handle) (hfind : outlets.find? handle = some stream)
    (call : HostCall) (hheard : outlets.Hears ∨ host.Writes stream call) :
    let delivered := host.log call.level call.message call.site outlets
    delivered.host = host ∧
      Copied handle stream (host.copies call) (host.Writes stream call) outlets
        delivered.outlets := by
  by_cases hlevel : call.level < host.effectiveLevel ∨ call.level ≤ 0
  · have hcopies : host.copies call = [] := by simp [copies, recordOf?, hlevel]
    rw [log, if_pos hlevel, hcopies]
    exact ⟨rfl, .nothing handle stream _ outlets⟩
  rcases hname : Level.name call.level with fault | levelName
  · have hcopies : host.copies call = [] := by
      simp [copies, recordOf?, hlevel, hname, Except.toOption]
    rw [log, if_neg hlevel, hname, hcopies]
    exact ⟨rfl, .nothing handle stream _ outlets⟩
  generalize hmade : ({ name := host.name, level := call.level, levelName
                        message := call.message, site := call.site } : HostRecord) = record
  have hrecord : host.recordOf? call = some record := by
    simp [recordOf?, hlevel, hname, Except.toOption, hmade]
  have hcopies : host.copies call = copiesAmong record host.handlers := by
    simp [copies, hrecord, h.some]
  have hwrites : host.Writes stream call ↔
      ∀ handler ∈ host.handlers, handler.Writes record stream := by
    simp [Writes, hrecord]
  have houter : host.outerHandlers = [] := by
    have hne : host.handlers ≠ [] := fun hnil => h.some (by rw [hnil, List.filter_nil])
    simp only [outerHandlers, h.apart, hne, if_false]
  obtain ⟨outlets', faults, raised, hall, hcopied⟩ :=
    copied_handleAll record hfind h.handlers (hheard.imp_right hwrites.mp)
  rw [hcopies]
  rcases raised with - | fault
  · simp only [log, hlevel, if_false, hname, hmade, hall, houter, handleAll]
    exact ⟨trivial, hcopied.imp hwrites.mp⟩
  · simp only [log, hlevel, if_false, hname, hmade, hall]
    exact ⟨trivial, hcopied.imp hwrites.mp⟩

/-- **A run of records** that are given to a logger at one stream. -/
theorem copied_logEach (h : host.HandsTo handle) (hfind : outlets.find? handle = some stream)
    (calls : List HostCall) (hheard : outlets.Hears ∨ ∀ call ∈ calls, host.Writes stream call) :
    (host.logEach outlets calls).1 = host ∧
      Copied handle stream (calls.flatMap host.copies) (∀ call ∈ calls, host.Writes stream call)
        outlets (host.logEach outlets calls).2 := by
  induction calls generalizing outlets stream with
  | nil => exact ⟨rfl, .nothing handle stream _ outlets⟩
  | cons call calls ih =>
      simp only [List.forall_mem_cons] at hheard ⊢
      obtain ⟨hsame, hcopied⟩ := copied_log h hfind call (hheard.imp_right And.left)
      have hafter : ∀ call, host.Writes (stream.after (stream.taken (host.copies call))) =
          host.Writes stream := by
        intro call
        funext other
        simp only [Writes, writes_after_iff]
      obtain ⟨hlast, hrest⟩ := ih (hcopied.find? hfind) (by
        rw [hafter]
        exact hheard.imp hcopied.hears_iff.mpr And.right)
      rw [hafter] at hrest
      rw [List.flatMap_cons]
      simp only [logEach, hsame]
      exact ⟨hlast, hcopied.trans hrest⟩

/-! ### Redirected loggers -/

/-- A handler that is moved makes the copies that it made before. -/
theorem copy?_movedTo (record : HostRecord) (handle : Handle) (handler : HostHandler) :
    copy? record (handler.movedTo handle) = copy? record handler := by
  rw [movedTo]
  split
  · rfl
  · rfl

/-- **A redirected logger** hands the copies of its records to the stream. -/
theorem handsTo_redirectedTo (handle : Handle)
    (hnull : ∀ handler ∈ host.handlers, handler.isStreamHandler = false → handler.target = none) :
    (host.redirectedTo handle).HandsTo handle where
  apart := rfl
  some := filter_redirectedTo_ne_nil handle host
  handlers := by
    intro handler hmem
    rcases hstream : handler.isStreamHandler with - | -
    · have htarget := hnull handler (mem_of_mem_redirectedTo hmem hstream) hstream
      simp [IsAt, hstream, htarget]
    · simp [IsAt, hstream, target_of_mem_redirectedTo hmem hstream]

/-- Records are of levels above zero. -/
theorem pos_of_recordOf? {call : HostCall} {record : HostRecord}
    (h : host.recordOf? call = some record) : 0 < record.level := by
  rw [recordOf?] at h
  split at h
  · simp at h
  · next hlevel =>
    obtain ⟨levelName, -, rfl⟩ := Option.map_eq_some_iff.mp h
    exact not_le.mp (not_or.mp hlevel).2

/-- A redirected logger makes the copies that it made before, or plain ones if it made none. -/
theorem copies_redirectedTo (host : HostLogger) (handle : Handle) (call : HostCall) :
    (host.redirectedTo handle).copies call = host.copies call := by
  have hrecord : (host.redirectedTo handle).recordOf? call = host.recordOf? call := rfl
  simp only [copies, hrecord]
  rcases hmade : host.recordOf? call with - | record
  · rfl
  simp only [Option.toList_some, List.flatMap_singleton]
  rw [if_neg (filter_redirectedTo_ne_nil handle host)]
  by_cases hnone : host.handlers.filter isStreamHandler = []
  · -- the handler that is added takes every level above zero
    have hpositive : ¬ record.level < 0 := (pos_of_recordOf? hmade).not_gt
    have hadded : (host.redirectedTo handle).handlers.filter isStreamHandler =
        [{ kind := .stream, target := some handle }] := by
      simp only [redirectedTo, hnone, if_true, List.filter_append, List.nil_append]
      rfl
    rw [if_pos hnone, copiesAmong, hadded]
    simp [copy?, hpositive, lineOf, Except.toOption]
  · rw [if_neg hnone]
    simp only [copiesAmong, redirectedTo, hnone, if_false, filter_isStreamHandler_movedTo,
      List.filterMap_map]
    congr 1
    funext handler
    exact copy?_movedTo record handle handler

/-- **A redirection that succeeds, and a run of records after it.** Let standard error hear all
reports, or let there be nothing to report: all copies are made, and the stream takes them.

* The stream receives, in order, the copies of each record that it takes. Reports on standard error
  apart, no other stream and no file receives anything, and the logger stays as it is. A copy that
  is not made or not taken is reported; where there is none such, nothing is reported either.
* What the host has set up is kept, apart from one handler that is added if there was none of a
  stream or a file. Propagation has ended.
* The redirection closes the other streams that handlers of files were at. It leaves all other
  streams and all files alone. -/
theorem redirected_copies (hfind : outlets.find? handle = some stream)
    (hnull : ∀ handler ∈ host.handlers, handler.isStreamHandler = false → handler.target = none)
    (hraised : (host.setOutput handle outlets).1.raised = none) (calls : List HostCall)
    (hheard : (host.setOutput handle outlets).1.outlets.Hears ∨
      ∀ call ∈ calls, (host.setOutput handle outlets).1.host.Writes stream call)
    (_hsettled : ∀ call ∈ calls, host.Settled call) :
    let moved := (host.setOutput handle outlets).1
    let run := moved.host.logEach moved.outlets calls
    moved.outlets.withoutReports.Receives
        (Outlets.only handle (stream.taken (calls.flatMap host.copies))) run.2.withoutReports ∧
    ((∀ call ∈ calls, moved.host.Writes stream call) → run.2.reports = moved.outlets.reports) ∧
    run.1 = moved.host ∧
    moved.host.setup = (host.setup.1, host.setup.2 ++ host.addedSetup) ∧
    moved.host.propagate = false ∧
    moved.outlets.files = outlets.files ∧
    ∀ other, moved.outlets.find? other =
      if ∃ handler ∈ host.handlers, handler.Closes other handle
      then (outlets.find? other).map Stream.closing else outlets.find? other := by
  intro moved run
  have hmoved : moved = { host := host.redirectedTo handle
                          outlets := host.handlers.foldl (leave handle) outlets } :=
    setOutput_of_ok hraised
  have hthere : moved.outlets.find? handle = some stream := by
    rw [hmoved, find?_foldl_leave, if_neg, hfind]
    rintro ⟨handler, -, -, -, hne⟩
    exact hne rfl
  have hhands : moved.host.HandsTo handle := by
    rw [hmoved]
    exact handsTo_redirectedTo handle hnull
  have hcopies : moved.host.copies = host.copies := by
    rw [hmoved]
    exact funext (copies_redirectedTo host handle)
  obtain ⟨hsame, hcopied⟩ := copied_logEach hhands hthere calls hheard
  rw [hcopies] at hcopied
  refine ⟨hcopied.receives, hcopied.silent, hsame, ?_, hhands.apart, ?_, fun other => ?_⟩
  · rw [hmoved, setup_redirectedTo]
  · rw [hmoved, files_foldl_leave]
  · rw [hmoved, find?_foldl_leave]

/-- A logger with a handler that writes nowhere, one of a stream with a level and a template of its
own, and one of a file. -/
def mixed : HostLogger :=
  { handlers :=
      [{ kind := .null },
        { kind := .stream, level := 30, template := some "%(levelname)s:%(message)s",
          target := some (.named "h") },
        { kind := .file ["a.log"] (.ofText "/a.log"), target := some (.opened 0) }]
    parent := some .console }

/-- Its streams, and one of text in ASCII. -/
def mixedOutlets : Outlets where
  streams :=
    [(.console, ⟨.text "", false⟩), (.named "h", ⟨.text "", false⟩),
      (.named "s", ⟨.ascii [], false⟩), (.opened 0, ⟨.file ["a.log"] 0, false⟩)]
  files := { files := [(["a.log"], [])] }
  opened := 1

/-- Calls at one place in a program. -/
def callsOf (records : List (Int × String)) : List HostCall :=
  records.map fun record =>
    ⟨record.1, record.2, { file := "d.py", function := .text "f", line := .int 1 }⟩

/-- Two copies of a record that reaches both handlers, one of a record that reaches one of them, and
none that the stream does not take. -/
theorem redirected_copies_mixed :
    let moved := (mixed.setOutput (.named "s") mixedOutlets).1
    let run := moved.host.logEach moved.outlets
      (callsOf [(20, "x"), (40, "y"), (20, "é"), (5, "z")])
    mixedOutlets.find? (.named "s") = some ⟨.ascii [], false⟩ ∧
    (∀ handler ∈ mixed.handlers, handler.isStreamHandler = false → handler.target = none) ∧
    moved.raised = none ∧ moved.outlets.Hears ∧
    run.2.find? (.named "s") =
      some ⟨.ascii (Text.encode "x\nERROR:y\ny\n".toList), false⟩ ∧
    run.2.find? (.opened 0) = some ⟨.file ["a.log"] 0, true⟩ ∧
    run.1.handlers.length = 3 := by
  intro moved run
  have hfind : mixedOutlets.find? (.named "s") = some ⟨.ascii [], false⟩ := rfl
  have hnull : ∀ handler ∈ mixed.handlers, handler.isStreamHandler = false →
      handler.target = none := by decide
  have hraised : moved.raised = none := rfl
  have hhears : moved.outlets.Hears := by decide
  have hsettled : ∀ call ∈ callsOf [(20, "x"), (40, "y"), (20, "é"), (5, "z")],
      mixed.Settled call := by
    decide +kernel
  obtain ⟨hreceives, -, hsame, -, -, -, hclosed⟩ :=
    redirected_copies hfind hnull hraised (callsOf [(20, "x"), (40, "y"), (20, "é"), (5, "z")])
      (.inl hhears) hsettled
  have htaken : (⟨.ascii [], false⟩ : Stream).taken
      ((callsOf [(20, "x"), (40, "y"), (20, "é"), (5, "z")]).flatMap mixed.copies) =
        "x\nERROR:y\ny\n" := by
    decide +kernel
  rw [htaken] at hreceives
  have hstream : moved.outlets.find? (.named "s") = some ⟨.ascii [], false⟩ := rfl
  have hfile : moved.outlets.find? (.opened 0) = some ⟨.file ["a.log"] 0, true⟩ := rfl
  refine ⟨hfind, hnull, hraised, hhears, ?_, ?_, congrArg (fun host => host.handlers.length) hsame⟩
  · rw [← Outlets.find?_withoutReports, hreceives.streams, Outlets.find?_withoutReports, hstream]
    rfl
  · rw [← Outlets.find?_withoutReports, hreceives.streams, Outlets.find?_withoutReports, hfile]
    exact congrArg some (Stream.after_empty _)

/-- A logger and a handler that take every level there is. -/
def openToAll : HostLogger :=
  { level := 0, handlers := [{ kind := .stream, target := some (.named "h") }] }

/-- Its stream, and another one. -/
def streamsWith (device : Device) : Outlets where
  streams :=
    [(.console, ⟨.text "", false⟩), (.named "h", ⟨.text "", false⟩),
      (.named "s", ⟨device, false⟩)]

/-- **Not every record that reaches all levels is copied.** There is no record of level zero, and
none below the level of the loggers above where the own one is zero. A stream of text in ASCII does
not take a record with another character, and that is reported on standard error. -/
theorem not_every_record_copied :
    (let moved := (openToAll.setOutput (.named "s") (streamsWith (.text ""))).1
      let run := moved.host.logEach moved.outlets (callsOf [(0, "z")])
      moved.raised = none ∧ openToAll.level ≤ 0 ∧ (∀ handler ∈ openToAll.handlers,
        handler.isStreamHandler = true ∧ handler.level ≤ 0 ∧ handler.template = none) ∧
      run.2.find? (.named "s") ≠ some ⟨.text "z\n", false⟩) ∧
    (let below := { openToAll with ancestorLevel := 30 }
      let moved := (below.setOutput (.named "s") (streamsWith (.text ""))).1
      let run := moved.host.logEach moved.outlets (callsOf [(20, "x")])
      moved.raised = none ∧ below.level ≤ 20 ∧
      run.2.find? (.named "s") ≠ some ⟨.text "x\n", false⟩) ∧
    (let moved := (openToAll.setOutput (.named "s") (streamsWith (.ascii []))).1
      let run := moved.host.logEach moved.outlets (callsOf [(20, "é")])
      moved.raised = none ∧
      run.2.find? (.named "s") ≠ some ⟨.ascii (Text.encode "é\n".toList), false⟩ ∧
      run.2.errorText ≠ moved.outlets.errorText) := by
  decide +kernel

end HostLogger

end TraceLog
