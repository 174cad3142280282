import TraceLog.Proofs.Attempt
import TraceLog.Proofs.Hearing
import TraceLog.Proofs.Redirect

/-!
# Handles Stay Known

Numbers for streams that are opened on the way are handed out once: a number that the counter
has not reached stands for nothing, no stream that was there is ever lost, and one that discards
everything goes on to do so. `Outlets.Later` says this of two states of the outlets. Each operation
on streams keeps it, and so does everything that is built from these operations: logging calls,
which leave the host's logger alone besides (`Scene.Later`), and calls on the host's logger, which
leave handlers that point to streams with streams (`HostHandler.AllKnown`).

## Main results

* `Outlets.Later`: what all operations on streams keep, with a lemma for each.
* `Logger.later_call`: logging calls.
* `HostLogger.later_log`, `HostLogger.later_setOutput`: calls on the host's logger.
-/

namespace TraceLog

namespace Stream

variable {stream stream' : Stream}

/-- A stream that discards everything is the same after a text was written to it. -/
theorem writeText_of_discard (h : stream.device = .discard) {s : String} {files files' : FileTree}
    (hwrite : stream.writeText s files = .ok (stream', files')) : stream' = stream := by
  obtain ⟨device, closed⟩ := stream
  obtain rfl : device = .discard := h
  cases closed with
  | true => simp [writeText] at hwrite
  | false => exact (Prod.mk.inj (Except.ok.inj hwrite)).1.symm

/-- A stream that discards everything takes no bytes. -/
theorem writeBytes_of_discard (h : stream.device = .discard) {bs : List UInt8} :
    stream.writeBytes bs ≠ .ok stream' := by
  obtain ⟨device, closed⟩ := stream
  obtain rfl : device = .discard := h
  cases closed with
  | true => simp [writeBytes]
  | false => simp [writeBytes]

end Stream

namespace Outlets

variable {outlets outlets' outlets'' : Outlets}

/-- The numbers that were not handed out yet stand for nothing. -/
def Fresh (outlets : Outlets) : Prop :=
  ∀ number, outlets.opened ≤ number → outlets.find? (.opened number) = none

/-- A number that was handed out stands for a stream that discards everything, whether it is closed
or not. -/
def Discards (outlets : Outlets) (number : Nat) : Prop :=
  number < outlets.opened ∧ ∃ closed, outlets.find? (.opened number) = some ⟨.discard, closed⟩

/-- What operations on streams keep: numbers that were not handed out stay free, no stream is lost,
and those that discard everything go on to do so. -/
structure Later (outlets outlets' : Outlets) : Prop where
  fresh : outlets.Fresh → outlets'.Fresh
  known : ∀ handle, (outlets.find? handle).isSome → (outlets'.find? handle).isSome
  discards : ∀ number, outlets.Discards number → outlets'.Discards number

/-- Outlets are later than themselves. -/
theorem Later.refl (outlets : Outlets) : Later outlets outlets :=
  ⟨id, fun _ => id, fun _ => id⟩

/-- What is later than something later is later. -/
theorem Later.trans (h : Later outlets outlets') (h' : Later outlets' outlets'') :
    Later outlets outlets'' :=
  ⟨fun hfresh => h'.fresh (h.fresh hfresh),
    fun handle hknown => h'.known handle (h.known handle hknown),
    fun number hdiscards => h'.discards number (h.discards number hdiscards)⟩

/-- Only the streams and the counter matter. -/
theorem later_files (outlets : Outlets) (files : FileTree) :
    Later outlets { outlets with files } :=
  ⟨id, fun _ => id, fun _ => id⟩

/-- Reports do not matter. -/
theorem later_of_withoutReports (h : outlets'.withoutReports = outlets.withoutReports) :
    Later outlets outlets' := by
  have hopened : outlets'.opened = outlets.opened := by
    change outlets'.withoutReports.opened = outlets.withoutReports.opened
    rw [h]
  refine ⟨fun hfresh number hnumber => ?_, fun handle hknown => ?_, fun number hdiscards => ?_⟩
  · rw [find?_congr h]
    exact hfresh number (hopened ▸ hnumber)
  · rwa [find?_congr h]
  · rwa [Discards, find?_congr h, hopened]

/-- A stored stream is there, and so is every other one. -/
theorem known_put (handle : Handle) (stream : Stream) (other : Handle)
    (h : (outlets.find? other).isSome) : ((outlets.put handle stream).find? other).isSome := by
  by_cases hother : other = handle
  · rw [hother, find?_put_self]
    rfl
  · rwa [find?_put_of_ne hother]

/-- A stream is replaced, one that discards everything by another one. -/
theorem later_put_of_known {handle : Handle} {stream stream' : Stream}
    (h : outlets.find? handle = some stream)
    (hdiscard : stream.device = .discard → stream'.device = .discard) :
    Later outlets (outlets.put handle stream') := by
  refine ⟨fun hfresh number hnumber => ?_, known_put handle stream', fun number hdiscards => ?_⟩
  · have hne : Handle.opened number ≠ handle := by
      rintro rfl
      rw [hfresh number hnumber] at h
      simp at h
    rw [find?_put_of_ne hne]
    exact hfresh number hnumber
  · obtain ⟨hlt, closed, hfind⟩ := hdiscards
    refine ⟨hlt, ?_⟩
    by_cases hhandle : Handle.opened number = handle
    · subst hhandle
      obtain rfl : stream = ⟨.discard, closed⟩ := Option.some.inj (h.symm.trans hfind)
      obtain ⟨device, closed'⟩ := stream'
      obtain rfl : device = .discard := hdiscard rfl
      exact ⟨closed', find?_put_self _ _ _⟩
    · refine ⟨closed, ?_⟩
      rw [find?_put_of_ne hhandle]
      exact hfind

/-- A stream is stored under a name. -/
theorem later_put_named (name : String) (stream : Stream) :
    Later outlets (outlets.put (.named name) stream) := by
  refine ⟨fun hfresh number hnumber => ?_, known_put _ stream, fun number hdiscards => ?_⟩
  · rw [find?_put_of_ne (by simp)]
    exact hfresh number hnumber
  · obtain ⟨hlt, closed, hfind⟩ := hdiscards
    refine ⟨hlt, closed, ?_⟩
    rw [find?_put_of_ne (by simp)]
    exact hfind

/-- A stream that is opened takes none away. -/
theorem later_openStream (outlets : Outlets) (device : Device) :
    Later outlets (outlets.openStream device).2 := by
  refine ⟨fun hfresh number hnumber => ?_, fun handle hknown => ?_, fun number hdiscards => ?_⟩
  · have hlt : outlets.opened < number := hnumber
    rw [find?_openStream, if_neg (by simp; omega)]
    exact hfresh number (Nat.le_of_lt hlt)
  · rw [find?_openStream]
    split
    · rfl
    · exact hknown
  · obtain ⟨hlt, closed, hfind⟩ := hdiscards
    refine ⟨Nat.lt_succ_of_lt hlt, closed, ?_⟩
    rw [find?_openStream, if_neg (by simp; omega)]
    exact hfind

/-- Nor does a file. -/
theorem later_openFile {place : Place} {handle : Handle}
    (h : outlets.openFile place = .ok (handle, outlets')) : Later outlets outlets' := by
  obtain ⟨files, -, hstream⟩ := openFile_eq_ok_iff.mp h
  obtain rfl : _ = outlets' := congrArg Prod.snd hstream
  exact (later_files outlets files).trans (later_openStream _ _)

/-- A named stream that is made takes none away. -/
theorem later_ensure (outlets : Outlets) (name : String) (device : Device) :
    Later outlets (outlets.ensure name device) := by
  rcases hfind : outlets.find? (.named name) with - | stream
  · rw [ensure, hfind]
    exact later_put_named name _
  · rw [ensure, hfind]
    exact .refl outlets

/-- A text that is written takes no stream away. -/
theorem later_writeText {s : String} {handle : Handle}
    (h : writeText s handle outlets = .ok outlets') : Later outlets outlets' := by
  rcases hfind : outlets.find? handle with - | stream
  · simp only [writeText, hfind] at h
    obtain rfl := Except.ok.inj h
    exact .refl outlets
  · simp only [writeText, hfind] at h
    obtain ⟨⟨stream', files⟩, hwrite, h⟩ := bind_eq_ok.mp h
    obtain rfl := Except.ok.inj h
    have hthere : ({ outlets with files } : Outlets).find? handle = some stream := hfind
    refine (later_files outlets files).trans (later_put_of_known hthere fun hdiscard => ?_)
    rw [Stream.writeText_of_discard hdiscard hwrite]
    exact hdiscard

/-- Nor do bytes. -/
theorem later_writeBytes {bs : List UInt8} {handle : Handle}
    (h : writeBytes bs handle outlets = .ok outlets') : Later outlets outlets' := by
  rcases hfind : outlets.find? handle with - | stream
  · simp only [writeBytes, hfind] at h
    obtain rfl := Except.ok.inj h
    exact .refl outlets
  · simp only [writeBytes, hfind] at h
    obtain ⟨stream', hwrite, h⟩ := bind_eq_ok.mp h
    obtain rfl := Except.ok.inj h
    exact later_put_of_known hfind fun hdiscard =>
      absurd hwrite (Stream.writeBytes_of_discard hdiscard)

/-- A stream that is closed is still there. -/
theorem later_close (handle : Handle) (outlets : Outlets) :
    Later outlets (outlets.close handle) := by
  rcases hfind : outlets.find? handle with - | stream
  · simp only [close, hfind]
    exact .refl outlets
  · simp only [close, hfind]
    split
    · exact .refl outlets
    · exact later_put_of_known hfind id

end Outlets

/-! ### Logging calls -/

/-- A sink that writes takes no stream away. -/
theorem Sink.later_write {lineEnd : List Char} {line : String} {sink : Sink}
    {outlets outlets' : Outlets} (h : sink.write lineEnd line outlets = .ok outlets') :
    outlets.Later outlets' := by
  rcases hkind : sink.kind with - | - | -
  · exact Outlets.later_writeText (by simpa only [write, hkind] using h)
  · exact Outlets.later_writeBytes (by simpa only [write, hkind] using h)
  · exact Outlets.later_writeText (by simpa only [write, hkind] using h)

/-! ### Logging calls -/

/-- A later state of a scene, with the host's logger as it was. -/
structure Scene.Later (scene scene' : Scene) : Prop where
  outlets : scene.outlets.Later scene'.outlets
  host : scene'.host = scene.host

/-- A scene is later than itself. -/
theorem Scene.Later.refl (scene : Scene) : scene.Later scene :=
  ⟨.refl _, rfl⟩

/-- What is later than a later scene is later. -/
theorem Scene.Later.trans {scene scene' scene'' : Scene} (h : scene.Later scene')
    (h' : scene'.Later scene'') : scene.Later scene'' :=
  ⟨h.outlets.trans h'.outlets, h'.host.trans h.host⟩

/-- Reading a logger's clock leaves everything else alone. -/
theorem Scene.later_setClockFor (scene : Scene) (given : Collaborator) (clock : Option Clock) :
    scene.Later (scene.setClockFor given clock) := by
  cases given with
  | own => exact ⟨.refl _, rfl⟩
  | value v => exact .refl scene

/-- A fault that is met leaves the host's logger alone. -/
theorem Scene.later_meet (record : Record) (fault : Fault) (scene : Scene) :
    scene.Later (scene.meet record fault).1 := by
  have hlater := Outlets.later_of_withoutReports
    (scene.outlets.withoutReports_meet record.report fault)
  refine ⟨hlater, ?_⟩
  simp only [meet, setOutlets]
  split
  · rfl
  · rfl

/-- A line written through a sink leaves the host's logger alone. -/
theorem later_writeThrough (lineEnd : List Char) (record : Record) (line : String) (sink : Sink)
    (scene : Scene) : scene.Later (writeThrough lineEnd record line sink scene).1 := by
  rcases hwrite : sink.write lineEnd line scene.outlets with fault | outlets
  · rw [writeThrough, hwrite]
    exact scene.later_meet record (.stream fault)
  · rw [writeThrough, hwrite]
    exact ⟨Sink.later_write hwrite, rfl⟩

/-- The end of the process leaves the host's logger alone. -/
theorem later_endProcess (record : Record) (fault : FormattingFault) (scene : Scene) :
    scene.Later (endProcess record fault scene).1 := by
  have hreport : scene.Later (scene.reportEnd record fault).1 :=
    ⟨Outlets.later_of_withoutReports (scene.outlets.withoutReports_reportEnd _), rfl⟩
  rw [endProcess]
  rcases hended : scene.reportEnd record fault with ⟨next, - | hindrance⟩
  · rwa [hended] at hreport
  · rw [hended] at hreport
    exact hreport.trans (next.later_meet record hindrance)

/-- A record given to a sink leaves the host's logger alone. -/
theorem later_give (platform : Platform) (logger : Logger) (record : Record) (sink : Sink)
    (scene : Scene) : scene.Later (sink.give platform logger record scene).1 := by
  rcases hformat : logger.layout.format record (scene.clockFor logger.clock) with
    ⟨fault | line, clock⟩
  · have hread := scene.later_setClockFor logger.clock clock
    rcases hpolicy : logger.policy with - | - | v
    · have hnoted : scene.Later ((scene.setClockFor logger.clock clock).noteFailure fault) :=
        hread.trans ⟨.refl _, rfl⟩
      simp only [Sink.give, hformat, hpolicy]
      exact hnoted.trans (later_writeThrough _ _ _ _ _)
    · simp only [Sink.give, hformat, hpolicy]
      exact hread.trans (later_endProcess _ _ _)
    · simp only [Sink.give, hformat, hpolicy]
      exact hread.trans (Scene.later_meet _ _ _)
  · simp only [Sink.give, hformat]
    exact (scene.later_setClockFor logger.clock clock).trans (later_writeThrough _ _ _ _ _)

/-- A record given to sinks leaves the host's logger alone. -/
theorem later_deliver (platform : Platform) (logger : Logger) (record : Record)
    (sinks : List Sink) (scene : Scene) :
    scene.Later (deliver platform logger record sinks scene).1 := by
  induction sinks generalizing scene with
  | nil => exact .refl scene
  | cons sink sinks ih =>
      have hgiven := later_give platform logger record sink scene
      rw [deliver]
      rcases hgive : sink.give platform logger record scene with ⟨next, - | ending⟩
      · rw [hgive] at hgiven
        exact hgiven.trans (ih next)
      · rwa [hgive] at hgiven

namespace Logger

variable (platform : Platform) (logger : Logger) (site : CallSite) (scene : Scene)

/-- A message that is emitted takes no stream away. -/
theorem later_emit (level : Int) (message : Value) :
    scene.Later (logger.emit platform level message site scene).2.1 := by
  rcases hadmits : logger.admits level with - | -
  · rw [emit_of_not_admits platform hadmits]
    exact .refl scene
  · rcases hname : Level.name level with fault | levelName
    · rw [emit, if_pos hadmits, hname]
      exact .refl scene
    · simp only [emit, hadmits, hname, if_true]
      exact later_deliver platform logger _ logger.sinks scene

/-- Nor does a value that is printed. -/
theorem later_print (message level : Value) :
    scene.Later (logger.print platform message level site scene).2.1 := by
  simp only [print]
  split
  · exact .refl scene
  · exact later_emit platform logger site scene _ _

/-- Nor does a template that is filled. -/
theorem later_printf (level template : Value) (args : List Value) :
    scene.Later (logger.printf platform level template args site scene).2.1 := by
  simp only [printf]
  split
  · exact .refl scene
  · split
    · split
      · exact .refl scene
      · exact later_emit platform logger site scene _ _
    · exact .refl scene

/-- A logging call leaves the host's logger alone. -/
theorem later_call (call : Call) :
    scene.Later (logger.call platform call site scene).2.1 := by
  cases call with
  | print message level => exact logger.later_print platform site scene message level
  | printLine message level => exact logger.later_print platform site scene message level
  | printf level template args =>
      exact logger.later_printf platform site scene level template args

end Logger

/-! ### The host's logger -/

/-- The stream of each handler that has one is there. -/
def HostHandler.AllKnown (handlers : List HostHandler) (outlets : Outlets) : Prop :=
  ∀ handler ∈ handlers, ∀ handle, handler.target = some handle → (outlets.find? handle).isSome

namespace HostHandler

variable {handler : HostHandler} {handlers : List HostHandler} {outlets outlets' : Outlets}

/-- Handlers whose streams are there have them later as well. -/
theorem AllKnown.later (h : AllKnown handlers outlets) (hlater : outlets.Later outlets') :
    AllKnown handlers outlets' :=
  fun handler hmem handle htarget => hlater.known handle (h handler hmem handle htarget)

/-- The streams of handlers are there when the first one's is and those of the others are. -/
theorem allKnown_cons :
    AllKnown (handler :: handlers) outlets ↔
      (∀ handle, handler.target = some handle → (outlets.find? handle).isSome) ∧
        AllKnown handlers outlets :=
  List.forall_mem_cons

end HostHandler

namespace HostLogger

open HostHandler

variable {handler : HostHandler} {handlers : List HostHandler} {outlets : Outlets}

/-- A handler that waits for its first record gets its stream. -/
theorem later_target {handler handler' : HostHandler} {outlets outlets' : Outlets}
    {handle? : Option Handle}
    (h : target handler outlets = .ok (handle?, handler', outlets')) :
    outlets.Later outlets' ∧ handler'.target = handle? ∧
      ((∀ handle, handler.target = some handle → (outlets.find? handle).isSome) →
        ∀ handle, handle? = some handle → (outlets'.find? handle).isSome) := by
  rw [target] at h
  split at h
  · next htarget =>
    obtain ⟨rfl, hrest⟩ := Prod.mk.inj (Except.ok.inj h)
    obtain ⟨rfl, rfl⟩ := Prod.mk.inj hrest
    exact ⟨.refl _, htarget, fun hknown handle hhandle => hknown handle (htarget.trans hhandle)⟩
  · split at h
    · next hopen =>
      obtain ⟨rfl, hrest⟩ := Prod.mk.inj (Except.ok.inj h)
      obtain ⟨rfl, rfl⟩ := Prod.mk.inj hrest
      refine ⟨Outlets.later_openFile hopen, rfl, fun _ handle hhandle => ?_⟩
      obtain rfl := Option.some.inj hhandle
      rw [Outlets.find?_openFile hopen, (Outlets.handle_openFile hopen).1, if_pos rfl]
      rfl
    · simp at h
  · next htarget _ =>
    obtain ⟨rfl, hrest⟩ := Prod.mk.inj (Except.ok.inj h)
    obtain ⟨rfl, rfl⟩ := Prod.mk.inj hrest
    exact ⟨.refl _, htarget, fun _ handle hhandle => by simp at hhandle⟩

/-- A fault that a handler meets leaves all streams alone. -/
theorem later_met (record : HostRecord) (fault : Fault) (outlets : Outlets) :
    outlets.Later (met record fault outlets).1 :=
  Outlets.later_of_withoutReports (outlets.withoutReports_meet record.report fault)

/-- A record given to a handler may open the handler's file. -/
theorem later_handleOne (record : HostRecord) (handler : HostHandler) (outlets : Outlets) :
    let outcome := handleOne record handler outlets
    outlets.Later outcome.2.1 ∧
      ((∀ handle, handler.target = some handle → (outlets.find? handle).isSome) →
        ∀ handle, outcome.1.target = some handle → (outcome.2.1.find? handle).isSome) := by
  rcases htarget : target handler outlets with fault | ⟨- | handle, handler', outlets'⟩
  · simp only [handleOne, htarget]
    exact ⟨.refl _, id⟩
  · obtain ⟨hlater, hsame, hknown⟩ := later_target htarget
    simp only [handleOne, htarget, hsame]
    exact ⟨hlater, hknown⟩
  · obtain ⟨hlater, hsame, hknown⟩ := later_target htarget
    have hmet : ∀ fault, outlets.Later (met record fault outlets').1 ∧
        ((∀ handle, handler.target = some handle → (outlets.find? handle).isSome) →
          ∀ other, some handle = some other →
            ((met record fault outlets').1.find? other).isSome) := by
      intro fault
      have hnext := later_met record fault outlets'
      exact ⟨hlater.trans hnext, fun h other hother => hnext.known other (hknown h other hother)⟩
    rcases hline : handler'.lineOf record with fault | line
    · simp only [handleOne, htarget, hline, hsame]
      exact hmet fault
    · rcases hwrite : outlets'.writeText (line ++ "\n") handle with fault | written
      · simp only [handleOne, htarget, hline, hwrite, hsame]
        exact hmet (.stream fault)
      · have hnext := Outlets.later_writeText hwrite
        simp only [handleOne, htarget, hline, hwrite, hsame]
        exact ⟨hlater.trans hnext, fun h other hother => hnext.known other (hknown h other hother)⟩

/-- A record given to handlers may open the files of some. -/
theorem later_handleAll (record : HostRecord) (handlers : List HostHandler) (outlets : Outlets) :
    let outcome := handleAll record handlers outlets
    outlets.Later outcome.2.1 ∧
      (AllKnown handlers outlets → AllKnown outcome.1 outcome.2.1) := by
  induction handlers generalizing outlets with
  | nil => exact ⟨.refl _, id⟩
  | cons handler handlers ih =>
      by_cases hlevel : record.level < handler.level
      · obtain ⟨hlater, hrest⟩ := ih outlets
        simp only [handleAll, hlevel, if_true]
        refine ⟨hlater, fun hknown => ?_⟩
        obtain ⟨hhandler, hhandlers⟩ := allKnown_cons.mp hknown
        exact allKnown_cons.mpr
          ⟨fun handle htarget => hlater.known handle (hhandler handle htarget), hrest hhandlers⟩
      · obtain ⟨hlater, hone⟩ := later_handleOne record handler outlets
        rcases houtcome : handleOne record handler outlets with
          ⟨handler', outlets', faults, - | fault⟩
        · rw [houtcome] at hlater hone
          obtain ⟨hnext, hrest⟩ := ih outlets'
          simp only [handleAll, hlevel, if_false, houtcome]
          refine ⟨hlater.trans hnext, fun hknown => ?_⟩
          obtain ⟨hhandler, hhandlers⟩ := allKnown_cons.mp hknown
          exact allKnown_cons.mpr
            ⟨fun handle htarget => hnext.known handle (hone hhandler handle htarget),
              hrest (hhandlers.later hlater)⟩
        · rw [houtcome] at hlater hone
          simp only [handleAll, hlevel, if_false, houtcome]
          refine ⟨hlater, fun hknown => ?_⟩
          obtain ⟨hhandler, hhandlers⟩ := allKnown_cons.mp hknown
          exact allKnown_cons.mpr ⟨hone hhandler, hhandlers.later hlater⟩

/-- A record of the host leaves its handlers with streams. -/
theorem later_log (host : HostLogger) (level : Int) (message : String) (site : CallSite)
    (outlets : Outlets) :
    let delivery := host.log level message site outlets
    outlets.Later delivery.outlets ∧
      (AllKnown host.handlers outlets → AllKnown delivery.host.handlers delivery.outlets) := by
  by_cases hlevel : level < host.effectiveLevel ∨ level ≤ 0
  · rw [log, if_pos hlevel]
    exact ⟨.refl _, id⟩
  rcases hname : Level.name level with fault | levelName
  · rw [log, if_neg hlevel, hname]
    exact ⟨.refl _, id⟩
  obtain ⟨hlater, hknown⟩ := later_handleAll
    { name := host.name, level, levelName, message, site } host.handlers outlets
  rcases hinner : handleAll { name := host.name, level, levelName, message, site } host.handlers
    outlets with ⟨handlers, outlets', faults, - | fault⟩
  · rw [hinner] at hlater hknown
    obtain ⟨hnext, -⟩ := later_handleAll { name := host.name, level, levelName, message, site }
      host.outerHandlers outlets'
    simp only [log, hlevel, if_false, hname, hinner]
    exact ⟨hlater.trans hnext, fun h => (hknown h).later hnext⟩
  · rw [hinner] at hlater hknown
    simp only [log, hlevel, if_false, hname, hinner]
    exact ⟨hlater, hknown⟩

/-- Leaving streams loses none. -/
theorem later_foldl_leave (handle : Handle) (handlers : List HostHandler) (outlets : Outlets) :
    outlets.Later (handlers.foldl (leave handle) outlets) := by
  induction handlers generalizing outlets with
  | nil => exact .refl _
  | cons handler handlers ih =>
      refine Outlets.Later.trans ?_ (ih _)
      rw [leave]
      split
      · split
        · exact .refl _
        · exact Outlets.later_close _ _
      · exact .refl _

/-- Handlers that are moved to a stream that is there have streams. -/
theorem allKnown_map_movedTo {handle : Handle} (hhandle : (outlets.find? handle).isSome)
    (h : AllKnown handlers outlets) : AllKnown (handlers.map (movedTo handle)) outlets := by
  intro moved hmoved other hother
  obtain ⟨handler, hmem, rfl⟩ := List.mem_map.mp hmoved
  rcases hstream : handler.isStreamHandler with - | -
  · rw [movedTo_of_null hstream] at hother
    exact h handler hmem other hother
  · rw [target_movedTo hstream] at hother
    obtain rfl := Option.some.inj hother
    exact hhandle

/-- A redirection to a stream that is there leaves the handlers with streams. -/
theorem later_setOutput {handle : Handle} (host : HostLogger)
    (hhandle : (outlets.find? handle).isSome) :
    let delivery := (host.setOutput handle outlets).1
    outlets.Later delivery.outlets ∧
      (AllKnown host.handlers outlets → AllKnown delivery.host.handlers delivery.outlets) := by
  intro delivery
  rcases hraised : (host.setOutput handle outlets).1.raised with - | fault
  · obtain ⟨-, ⟨-, hhandlers, houtlets⟩ | ⟨-, hhandlers, houtlets⟩⟩ := setOutput_ok hraised
    · rw [show delivery.outlets = outlets from houtlets,
        show delivery.host.handlers = _ from hhandlers]
      refine ⟨.refl _, fun hknown handler hmem other htarget => ?_⟩
      rcases List.mem_append.mp hmem with hmem | hmem
      · exact hknown handler hmem other htarget
      · obtain rfl := List.mem_singleton.mp hmem
        obtain rfl := Option.some.inj htarget
        exact hhandle
    · rw [show delivery.outlets = _ from houtlets,
        show delivery.host.handlers = _ from hhandlers]
      have hlater := later_foldl_leave handle host.handlers outlets
      exact ⟨hlater, fun hknown => (allKnown_map_movedTo hhandle hknown).later hlater⟩
  · obtain ⟨front, stuck, back, old, cause, hhandlers, -, -, -, -, -, hset⟩ :=
      setOutput_failed hraised
    have hlater := later_foldl_leave handle front outlets
    rw [show delivery = _ from congrArg Prod.fst hset]
    refine ⟨hlater, fun hknown => AllKnown.later ?_ hlater⟩
    rw [hhandlers] at hknown
    intro handler hmem other htarget
    rcases List.mem_append.mp hmem with hmem | hmem
    · have hfront : AllKnown front outlets := fun handler hmem =>
        hknown handler (List.mem_append_left _ hmem)
      exact allKnown_map_movedTo hhandle hfront handler hmem other htarget
    · exact hknown handler (List.mem_append_right _ hmem) other htarget

end HostLogger

end TraceLog
