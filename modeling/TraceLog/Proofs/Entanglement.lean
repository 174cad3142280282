import TraceLog.Proofs.Redirect

/-!
# When a Redirection Fails

A redirection closes the old stream of a handler of a file, whoever opened it. A handler behind
that is at the same stream has to flush it afterwards, which fails for a closed stream, unless
that is text in memory. `HostLogger.Entangled` says that a redirection comes to this. Where the
streams of all handlers are open, it is the only way for a redirection to fail.

Once a logger was redirected, all its handlers are at one stream (`HostLogger.redirectedTo`), so
that handlers behind one of a file are entangled from then on, and the next redirection closes
that stream.

## Main results

* `HostLogger.redirectedTo_redirectedTo`: of two redirections that succeed the last one wins.
* `HostLogger.raised_setOutput_iff`: when a redirection fails.
* `HostLogger.find?_setOutput_redirectedTo`, `HostLogger.entangled_redirectedTo_iff`: redirecting
  a logger that was redirected before.
-/

namespace TraceLog

/-! ### Streams that handlers close -/

/-- Closing a stream twice is closing it once. -/
@[simp] theorem Stream.closing_closing (stream : Stream) :
    stream.closing.closing = stream.closing := by
  obtain ⟨device, closed⟩ := stream
  cases device with
  | _ => rfl

/-- A stream is there and open. -/
def Outlets.IsOpen (outlets : Outlets) (handle : Handle) : Prop :=
  ∃ device, outlets.find? handle = some ⟨device, false⟩

/-- A stream that is there and open can be flushed. -/
theorem Outlets.IsOpen.flush? {outlets : Outlets} {handle : Handle} (h : outlets.IsOpen handle) :
    outlets.flush? handle = none := by
  obtain ⟨device, hfind⟩ := h
  rw [Outlets.flush?, hfind]
  cases device with
  | _ => rfl

namespace HostHandler

/-- Whether a handler is one of a file. -/
def isFileHandler (handler : HostHandler) : Bool :=
  match handler.kind with
  | .file .. => true
  | _ => false

/-- A handler of a file is at a stream, which it closes when it is moved to `handle`. -/
def Closes (old handle : Handle) (handler : HostHandler) : Prop :=
  handler.isFileHandler = true ∧ handler.target = some old ∧ old ≠ handle

instance (old handle : Handle) : DecidablePred (Closes old handle) :=
  fun _ => inferInstanceAs (Decidable (_ ∧ _))

/-- A handler of a file is one of a stream. -/
theorem isStreamHandler_of_isFileHandler {handler : HostHandler}
    (h : handler.isFileHandler = true) : handler.isStreamHandler = true := by
  cases hkind : handler.kind with
  | null => simp [isFileHandler, hkind] at h
  | _ => simp [isStreamHandler, hkind]

/-- A handler that leaves its stream closes it if it is one of a file, and leaves the others
alone. -/
theorem find?_leave (handle other : Handle) (outlets : Outlets) (handler : HostHandler) :
    (leave handle outlets handler).find? other =
      if handler.Closes other handle then (outlets.find? other).map Stream.closing
      else outlets.find? other := by
  rw [leave]
  split
  · next place path old hkind htarget =>
      have hfile : handler.isFileHandler = true := by
        rw [isFileHandler, hkind]
      by_cases hold : old = handle
      · have hnot : ¬ handler.Closes other handle := by
          rintro ⟨-, htarget', hne⟩
          rw [htarget] at htarget'
          exact hne ((Option.some.inj htarget').symm.trans hold)
        rw [if_pos hold, if_neg hnot]
      · rw [if_neg hold, Outlets.find?_close]
        have hiff : other = old ↔ handler.Closes other handle := by
          constructor
          · rintro rfl
            exact ⟨hfile, htarget, hold⟩
          · rintro ⟨-, htarget', -⟩
            exact Option.some.inj (htarget'.symm.trans htarget)
        simp only [hiff]
  · next hnone =>
      have hnot : ¬ handler.Closes other handle := by
        rintro ⟨hfile, htarget, -⟩
        cases hkind : handler.kind with
        | file place path => exact hnone place path other hkind htarget
        | stream => simp [isFileHandler, hkind] at hfile
        | null => simp [isFileHandler, hkind] at hfile
      rw [if_neg hnot]

/-- Handlers that leave their streams close those of files, and leave the others alone. -/
theorem find?_foldl_leave (handle other : Handle) (handlers : List HostHandler)
    (outlets : Outlets) :
    (handlers.foldl (leave handle) outlets).find? other =
      if ∃ handler ∈ handlers, handler.Closes other handle
      then (outlets.find? other).map Stream.closing
      else outlets.find? other := by
  induction handlers generalizing outlets with
  | nil => simp
  | cons handler handlers ih =>
      rw [List.foldl_cons, ih, find?_leave]
      by_cases hrest : ∃ handler ∈ handlers, handler.Closes other handle
      · have hsome : ∃ closer ∈ handler :: handlers, closer.Closes other handle := by
          obtain ⟨closer, hmem, hcloses⟩ := hrest
          exact ⟨closer, List.mem_cons_of_mem _ hmem, hcloses⟩
        rw [if_pos hrest, if_pos hsome]
        split
        · rw [Option.map_map]
          congr 1
          funext stream
          exact stream.closing_closing
        · rfl
      · have hiff : (∃ closer ∈ handler :: handlers, closer.Closes other handle) ↔
            handler.Closes other handle := by
          simp only [List.mem_cons, exists_eq_or_imp]
          exact or_iff_left hrest
        rw [if_neg hrest]
        simp only [hiff]

/-- Handlers that are not of files close nothing. -/
theorem foldl_leave_of_no_file {handlers : List HostHandler}
    (h : ∀ handler ∈ handlers, handler.isFileHandler = false) (handle : Handle)
    (outlets : Outlets) : handlers.foldl (leave handle) outlets = outlets := by
  induction handlers with
  | nil => rfl
  | cons handler handlers ih =>
      obtain ⟨hfile, hrest⟩ := List.forall_mem_cons.mp h
      have hsame : leave handle outlets handler = outlets := by
        cases hkind : handler.kind with
        | file place path => simp [isFileHandler, hkind] at hfile
        | _ => simp only [leave, hkind]
      rw [List.foldl_cons, hsame]
      exact ih hrest

/-- Handlers that are at the new stream already, or that write nowhere, close nothing. -/
theorem foldl_leave_of_there {handle : Handle} {handlers : List HostHandler}
    (h : ∀ handler ∈ handlers, handler.isStreamHandler = true → handler.target = some handle)
    (outlets : Outlets) : handlers.foldl (leave handle) outlets = outlets := by
  induction handlers with
  | nil => rfl
  | cons handler handlers ih =>
      obtain ⟨hthere, hrest⟩ := List.forall_mem_cons.mp h
      have hsame : leave handle outlets handler = outlets := by
        rcases hstream : handler.isStreamHandler with - | -
        · exact leave_of_null hstream handle outlets
        · rw [leave, hthere hstream]
          split
          · next hold => rw [if_pos (Option.some.inj hold).symm]
          · rfl
      rw [List.foldl_cons, hsame]
      exact ih hrest

/-- A handler that is moved is one of a file if it was. -/
@[simp] theorem isFileHandler_movedTo (handle : Handle) (handler : HostHandler) :
    (handler.movedTo handle).isFileHandler = handler.isFileHandler := by
  rw [isFileHandler, isFileHandler, kind_movedTo]

/-- Of two moves the last one counts. -/
theorem movedTo_movedTo (handle other : Handle) (handler : HostHandler) :
    (handler.movedTo handle).movedTo other = handler.movedTo other := by
  rcases hstream : handler.isStreamHandler with - | -
  · rw [movedTo_of_null hstream]
  · have hstream' : (handler.movedTo handle).isStreamHandler = true := by
      rw [isStreamHandler_movedTo, hstream]
    rw [movedTo, if_pos hstream', movedTo, if_pos hstream, movedTo, if_pos hstream]

end HostHandler

namespace HostLogger

open HostHandler

variable {handle other : Handle} {handlers handlers' : List HostHandler} {host : HostLogger}
  {outlets outlets' : Outlets}

/-- A logger with a handler of a stream or a file has some. -/
theorem filter_ne_nil {handler : HostHandler} (hmem : handler ∈ handlers)
    (hstream : handler.isStreamHandler = true) : handlers.filter isStreamHandler ≠ [] :=
  fun hnone => List.filter_eq_nil_iff.mp hnone handler hmem hstream

/-! ### One redirection -/

/-- **The last redirection wins**: of two the first one leaves no trace in the logger. -/
theorem redirectedTo_redirectedTo (handle other : Handle) (host : HostLogger) :
    (host.redirectedTo handle).redirectedTo other = host.redirectedTo other := by
  have hsome := filter_redirectedTo_ne_nil handle host
  by_cases hnone : host.handlers.filter isStreamHandler = []
  · have hnull : ∀ handler ∈ host.handlers, handler.isStreamHandler = false := by
      simpa using List.filter_eq_nil_iff.mp hnone
    have hsame : host.handlers.map (HostHandler.movedTo other) = host.handlers := by
      refine (List.map_congr_left fun handler hmem => ?_).trans (List.map_id _)
      exact movedTo_of_null (hnull handler hmem) other
    simp only [redirectedTo, hnone, if_true] at hsome ⊢
    simp only [hsome, if_false, List.map_append, hsame]
    rfl
  · have hlast : HostHandler.movedTo other ∘ HostHandler.movedTo handle =
        HostHandler.movedTo other :=
      funext fun handler => HostHandler.movedTo_movedTo handle other handler
    simp only [redirectedTo, hnone, if_false] at hsome ⊢
    simp only [hsome, if_false, List.map_map, hlast]

/-- Redirecting a logger to the stream that it is at changes nothing. -/
theorem setOutput_redirectedTo (handle : Handle) (host : HostLogger) (outlets : Outlets) :
    ((host.redirectedTo handle).setOutput handle outlets).1 =
      { host := host.redirectedTo handle, outlets } := by
  have hraised : ((host.redirectedTo handle).setOutput handle outlets).1.raised = none := by
    rcases hraised : ((host.redirectedTo handle).setOutput handle outlets).1.raised with - | fault
    · rfl
    · obtain ⟨front, stuck, back, old, cause, hhandlers, hstuck, htarget, hold, -, -, -⟩ :=
        setOutput_failed hraised
      have hmem : stuck ∈ (host.redirectedTo handle).handlers := by
        rw [hhandlers]
        exact List.mem_append_cons_self
      rw [target_of_mem_redirectedTo hmem hstuck] at htarget
      exact absurd (Option.some.inj htarget).symm hold
  rw [setOutput_of_ok hraised, redirectedTo_redirectedTo]
  congr 1
  exact foldl_leave_of_there
    (fun handler hmem hstream => target_of_mem_redirectedTo hmem hstream) outlets

/-- What handlers that leave their streams do to the flushing of one of these. -/
theorem flush?_foldl_leave (handle old : Handle) (handlers : List HostHandler) (outlets : Outlets) :
    (handlers.foldl (leave handle) outlets).flush? old =
      if ∃ handler ∈ handlers, handler.Closes old handle then (outlets.close old).flush? old
      else outlets.flush? old := by
  rw [Outlets.flush?, find?_foldl_leave]
  split
  · rw [Outlets.flush?, Outlets.find?_close, if_pos rfl]
  · rfl

/-- A walk that meets no fault could flush the old stream of each handler that it moved. -/
theorem flush?_of_redirectAll_ok {front back : List HostHandler} {handler : HostHandler}
    {old : Handle}
    (h : redirectAll handle (front ++ handler :: back) outlets = (handlers', outlets', none))
    (hstream : handler.isStreamHandler = true) (htarget : handler.target = some old)
    (hold : old ≠ handle) : (front.foldl (leave handle) outlets).flush? old = none := by
  induction front generalizing outlets handlers' with
  | nil =>
      rcases hflush : outlets.flush? old with - | cause
      · exact hflush
      · simp [redirectAll, hstream, redirectOne, htarget, hold, hflush] at h
  | cons first front ih =>
      rw [List.cons_append, redirectAll] at h
      rcases hfirst : first.isStreamHandler with - | -
      · rcases hwalk : redirectAll handle (front ++ handler :: back) outlets with
          ⟨rest, last, raised⟩
        simp only [hfirst, Bool.false_eq_true, if_false, hwalk] at h
        obtain ⟨-, hrest⟩ := Prod.mk.inj h
        obtain ⟨rfl, rfl⟩ := Prod.mk.inj hrest
        rw [List.foldl_cons, leave_of_null hfirst]
        exact ih hwalk
      · rcases hone : redirectOne handle first outlets with fault | ⟨moved, next⟩
        · simp [hfirst, hone] at h
        · rcases hwalk : redirectAll handle (front ++ handler :: back) next with
            ⟨rest, last, raised⟩
          simp only [hfirst, if_true, hone, hwalk] at h
          obtain ⟨-, hrest⟩ := Prod.mk.inj h
          obtain ⟨rfl, rfl⟩ := Prod.mk.inj hrest
          obtain ⟨-, rfl⟩ := redirectOne_ok hfirst hone
          exact ih hwalk

/-- The streams of the handlers are open. -/
def StreamsOpen (host : HostLogger) (outlets : Outlets) : Prop :=
  ∀ handler ∈ host.handlers, handler.isStreamHandler = true →
    ∀ old, handler.target = some old → outlets.IsOpen old

/-- A handler of a file closes a stream that a handler behind it has to flush, which then fails. -/
def Entangled (handle : Handle) (host : HostLogger) (outlets : Outlets) : Prop :=
  ∃ front stuck back old, host.handlers = front ++ stuck :: back ∧ stuck.isStreamHandler = true ∧
    stuck.target = some old ∧ (∃ handler ∈ front, handler.Closes old handle) ∧
    ((outlets.close old).flush? old).isSome

/-- **A redirection of a logger whose streams are open fails** exactly when one of its handlers
closes the stream of another one. -/
theorem raised_setOutput_iff (hopen : host.StreamsOpen outlets) :
    (host.setOutput handle outlets).1.raised.isSome ↔ host.Entangled handle outlets := by
  constructor
  · intro hsome
    obtain ⟨fault, hraised⟩ := Option.isSome_iff_exists.mp hsome
    obtain ⟨front, stuck, back, old, cause, hhandlers, hstuck, htarget, -, hflush, -, -⟩ :=
      setOutput_failed hraised
    refine ⟨front, stuck, back, old, hhandlers, hstuck, htarget, ?_⟩
    have hmem : stuck ∈ host.handlers := by
      rw [hhandlers]
      exact List.mem_append_cons_self
    rw [flush?_foldl_leave] at hflush
    split at hflush
    · next hcloses =>
        rw [hflush]
        exact ⟨hcloses, rfl⟩
    · rw [(hopen stuck hmem hstuck old htarget).flush?] at hflush
      simp at hflush
  · rintro ⟨front, stuck, back, old, hhandlers, hstuck, htarget, hcloses, hflush⟩
    rcases hraised : (host.setOutput handle outlets).1.raised with - | fault
    · have hmem : stuck ∈ host.handlers := by
        rw [hhandlers]
        exact List.mem_append_cons_self
      have hcount : (host.handlers.filter isStreamHandler).length ≠ 0 :=
        fun hzero => filter_ne_nil hmem hstuck (List.length_eq_zero_iff.mp hzero)
      rcases hwalk : redirectAll handle host.handlers outlets with ⟨moved, last, - | fault⟩
      · have hold : old ≠ handle := by
          obtain ⟨_, -, -, -, hold⟩ := hcloses
          exact hold
        rw [hhandlers] at hwalk
        have hnone := flush?_of_redirectAll_ok hwalk hstuck htarget hold
        rw [flush?_foldl_leave, if_pos hcloses] at hnone
        rw [hnone] at hflush
        simp at hflush
      · simp [setOutput, hcount, hwalk] at hraised
    · rfl

/-- A redirection that entangles no stream succeeds. -/
theorem raised_eq_none_of_not_entangled (hopen : host.StreamsOpen outlets)
    (h : ¬ host.Entangled handle outlets) : (host.setOutput handle outlets).1.raised = none :=
  Option.not_isSome_iff_eq_none.mp fun hsome => h ((raised_setOutput_iff hopen).mp hsome)

/-- The streams that a redirection closes are those of handlers in front. -/
theorem exists_outlets_setOutput (host : HostLogger) (handle : Handle) (outlets : Outlets) :
    ∃ front back, host.handlers = front ++ back ∧
      (host.setOutput handle outlets).1.outlets = front.foldl (leave handle) outlets := by
  rcases hraised : (host.setOutput handle outlets).1.raised with - | fault
  · refine ⟨host.handlers, [], (List.append_nil _).symm, ?_⟩
    rw [setOutput_of_ok hraised]
  · obtain ⟨front, stuck, back, old, cause, hhandlers, -, -, -, -, -, hset⟩ :=
      setOutput_failed hraised
    refine ⟨front, stuck :: back, hhandlers, ?_⟩
    rw [hset]

/-- A redirection opens no stream that is closed. -/
theorem find?_setOutput_of_closed {device : Device}
    (h : outlets.find? other = some ⟨device, true⟩) (host : HostLogger) (handle : Handle) :
    (host.setOutput handle outlets).1.outlets.find? other = some ⟨device, true⟩ := by
  obtain ⟨front, -, -, houtlets⟩ := exists_outlets_setOutput host handle outlets
  rw [houtlets, find?_foldl_leave, h]
  split
  · cases device with
    | _ => rfl
  · rfl

/-- **A logger with a handler of a file closes the stream that it is at** when it is redirected to
another one, whether that succeeds or not. -/
theorem find?_setOutput_redirectedTo
    (hfile : ∃ handler ∈ host.handlers, handler.isFileHandler = true)
    (hother : other ≠ handle) (hopen : outlets.IsOpen handle) :
    ((host.redirectedTo handle).setOutput other outlets).1.outlets.find? handle =
      (outlets.find? handle).map Stream.closing := by
  rcases hraised : ((host.redirectedTo handle).setOutput other outlets).1.raised with - | fault
  · obtain ⟨handler, hmem, hfile⟩ := hfile
    have hstream := isStreamHandler_of_isFileHandler hfile
    have hsome : host.handlers.filter isStreamHandler ≠ [] := filter_ne_nil hmem hstream
    have hmoved : handler.movedTo handle ∈ (host.redirectedTo handle).handlers := by
      simp only [redirectedTo, hsome, if_false]
      exact List.mem_map_of_mem hmem
    have hcloses : (handler.movedTo handle).Closes handle other := by
      refine ⟨?_, target_movedTo hstream handle, hother.symm⟩
      rw [isFileHandler_movedTo, hfile]
    rw [setOutput_of_ok hraised, find?_foldl_leave, if_pos ⟨_, hmoved, hcloses⟩]
  · obtain ⟨front, stuck, back, old, cause, hhandlers, hstuck, htarget, -, hflush, -, hset⟩ :=
      setOutput_failed hraised
    have hmem : stuck ∈ (host.redirectedTo handle).handlers := by
      rw [hhandlers]
      exact List.mem_append_cons_self
    rw [target_of_mem_redirectedTo hmem hstuck] at htarget
    obtain rfl := Option.some.inj htarget
    rw [hset, find?_foldl_leave]
    rw [flush?_foldl_leave] at hflush
    split at hflush
    · next hcloses => rw [if_pos hcloses]
    · rw [hopen.flush?] at hflush
      simp at hflush

/-- A logger that is redirected to an open stream has open streams. -/
theorem streamsOpen_redirectedTo (h : outlets.IsOpen handle) (host : HostLogger) :
    (host.redirectedTo handle).StreamsOpen outlets := by
  intro handler hmem hstream old htarget
  rw [target_of_mem_redirectedTo hmem hstream] at htarget
  obtain rfl := Option.some.inj htarget
  exact h

/-- A handler of a stream or a file stands behind one of a file. -/
def HasFileInFront (host : HostLogger) : Prop :=
  ∃ front stuck back, host.handlers = front ++ stuck :: back ∧ stuck.isStreamHandler = true ∧
    ∃ handler ∈ front, handler.isFileHandler = true

/-- The handlers of a redirected logger are entangled when one stands behind one of a file, unless
the stream that they are at can be flushed even when it is closed. -/
theorem entangled_redirectedTo_iff (hfile : ∃ handler ∈ host.handlers, handler.isFileHandler = true)
    (hother : other ≠ handle) :
    (host.redirectedTo handle).Entangled other outlets ↔
      ((outlets.close handle).flush? handle).isSome ∧ host.HasFileInFront := by
  have hhandlers : (host.redirectedTo handle).handlers =
      host.handlers.map (HostHandler.movedTo handle) := by
    obtain ⟨handler, hmem, hfile⟩ := hfile
    have hsome := filter_ne_nil hmem (isStreamHandler_of_isFileHandler hfile)
    simp only [redirectedTo, hsome, if_false]
  constructor
  · rintro ⟨front, stuck, back, old, hsplit, hstuck, htarget, ⟨closer, hmem, hcloses⟩, hflush⟩
    have hthere : stuck ∈ (host.redirectedTo handle).handlers := by
      rw [hsplit]
      exact List.mem_append_cons_self
    rw [target_of_mem_redirectedTo hthere hstuck] at htarget
    obtain rfl := Option.some.inj htarget
    rw [hhandlers] at hsplit
    obtain ⟨front, rest, hsame, rfl, hrest⟩ := List.map_eq_append_iff.mp hsplit
    obtain ⟨stuck, back, rfl, rfl, rfl⟩ := List.map_eq_cons_iff.mp hrest
    obtain ⟨closer, hfront, rfl⟩ := List.mem_map.mp hmem
    rw [isStreamHandler_movedTo] at hstuck
    have hcloser : closer.isFileHandler = true := by
      rw [← isFileHandler_movedTo handle]
      exact hcloses.1
    exact ⟨hflush, front, stuck, back, hsame, hstuck, closer, hfront, hcloser⟩
  · rintro ⟨hflush, front, stuck, back, hsame, hstuck, closer, hfront, hcloser⟩
    refine ⟨front.map (HostHandler.movedTo handle), stuck.movedTo handle,
      back.map (HostHandler.movedTo handle), handle, ?_, ?_, target_movedTo hstuck handle,
      ⟨closer.movedTo handle, List.mem_map_of_mem hfront, ?_⟩, hflush⟩
    · rw [hhandlers, hsame, List.map_append, List.map_cons]
    · rw [isStreamHandler_movedTo, hstuck]
    · refine ⟨?_, target_movedTo (isStreamHandler_of_isFileHandler hcloser) handle, hother.symm⟩
      rw [isFileHandler_movedTo, hcloser]

end HostLogger

end TraceLog
