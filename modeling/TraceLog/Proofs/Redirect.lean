import TraceLog.HostLogger
import TraceLog.Proofs.Outlets

/-!
# Redirecting a Host's Logger

Redirecting walks the handlers in order. A handler that is moved gets the new stream and leaves
its old one, which is closed if it was that of a file; the walk stops at the first handler whose
old stream cannot be flushed. `HostLogger.redirectAll_ok` and `HostLogger.redirectAll_failed`
say all that a walk can do: either every handler was moved, or those in front of one were, and
that one and those behind it were not.

## Main results

* `HostLogger.redirectAll_ok`, `HostLogger.redirectAll_failed`: the two endings of a walk.
* `HostLogger.setOutput_of_ok`, `HostLogger.setOutput_failed`: the endings of a redirection.
* `HostLogger.setOutput_of_first_stuck`: when a redirection that fails moves nothing.
-/

namespace TraceLog

namespace HostHandler

/-- A handler moved to a stream, unless it writes nowhere. -/
def movedTo (handle : Handle) (handler : HostHandler) : HostHandler :=
  if handler.isStreamHandler then { handler with target := some handle } else handler

/-- The outlets after a handler was moved to a stream: the old stream of a file handler is
closed, unless it is the same one. -/
def leave (handle : Handle) (outlets : Outlets) (handler : HostHandler) : Outlets :=
  match handler.kind, handler.target with
  | .file .., some old => if old = handle then outlets else outlets.close old
  | _, _ => outlets

/-- A handler that writes nowhere is not moved and leaves no stream. -/
theorem movedTo_of_null {handler : HostHandler} (h : handler.isStreamHandler = false)
    (handle : Handle) : handler.movedTo handle = handler := by
  rw [movedTo, h]
  rfl

/-- A handler of nothing leaves no stream. -/
theorem leave_of_null {handler : HostHandler} (h : handler.isStreamHandler = false)
    (handle : Handle) (outlets : Outlets) : leave handle outlets handler = outlets := by
  have hkind : handler.kind = .null := by simpa [isStreamHandler] using h
  simp only [leave, hkind]

/-- A handler that is moved is of the same kind. -/
theorem kind_movedTo (handle : Handle) (handler : HostHandler) :
    (handler.movedTo handle).kind = handler.kind := by
  rw [movedTo]
  split
  · rfl
  · rfl

/-- So it is one of a stream if it was. -/
@[simp] theorem isStreamHandler_movedTo (handle : Handle) (handler : HostHandler) :
    (handler.movedTo handle).isStreamHandler = handler.isStreamHandler := by
  rw [isStreamHandler, isStreamHandler, kind_movedTo]

/-- A moved handler is at the new stream. -/
theorem target_movedTo {handler : HostHandler} (h : handler.isStreamHandler = true)
    (handle : Handle) : (handler.movedTo handle).target = some handle := by
  rw [movedTo, if_pos h]

/-- Handlers that are moved to a stream that none of them had are unchanged only if they all
write nowhere. -/
theorem all_null_of_map_movedTo {handle : Handle} {handlers : List HostHandler}
    (hfresh : ∀ handler ∈ handlers, handler.target ≠ some handle)
    (h : handlers.map (movedTo handle) = handlers) :
    ∀ handler ∈ handlers, handler.isStreamHandler = false := by
  intro handler hmem
  rcases hstream : handler.isStreamHandler with - | -
  · rfl
  · have hmoved : handler.movedTo handle = handler :=
      List.map_inj_left.mp (h.trans (List.map_id handlers).symm) handler hmem
    have htarget := target_movedTo hstream handle
    rw [hmoved] at htarget
    exact absurd htarget (hfresh handler hmem)

end HostHandler

namespace HostLogger

open HostHandler

variable {handle : Handle} {handler : HostHandler} {handlers handlers' : List HostHandler}
  {outlets outlets' : Outlets} {fault : Fault}

/-- Leaving streams changes no file. -/
theorem files_foldl_leave (handle : Handle) (handlers : List HostHandler) (outlets : Outlets) :
    (handlers.foldl (leave handle) outlets).files = outlets.files := by
  induction handlers generalizing outlets with
  | nil => rfl
  | cons handler handlers ih =>
      rw [List.foldl_cons, ih, leave]
      split
      · split
        · rfl
        · exact Outlets.files_close _ outlets
      · rfl

/-- Handlers that write nowhere leave no streams. -/
theorem foldl_leave_of_null (hnull : ∀ handler ∈ handlers, handler.isStreamHandler = false)
    (handle : Handle) (outlets : Outlets) :
    handlers.foldl (leave handle) outlets = outlets := by
  induction handlers with
  | nil => rfl
  | cons handler handlers ih =>
      rw [List.foldl_cons, leave_of_null (hnull handler List.mem_cons_self)]
      exact ih fun other hmem => hnull other (List.mem_cons_of_mem _ hmem)

/-- A handler of a stream or a file is moved, and leaves its old stream. -/
theorem redirectOne_ok {handler' : HostHandler} (hstream : handler.isStreamHandler = true)
    (h : redirectOne handle handler outlets = .ok (handler', outlets')) :
    handler' = handler.movedTo handle ∧ outlets' = leave handle outlets handler := by
  rcases htarget : handler.target with - | old
  · simp only [redirectOne, htarget] at h
    obtain ⟨rfl, rfl⟩ := Prod.mk.inj (Except.ok.inj h)
    refine ⟨by rw [movedTo, if_pos hstream], ?_⟩
    rw [leave, htarget]
    split
    · next hnone => simp at hnone
    · rfl
  simp only [redirectOne, htarget] at h
  by_cases hold : old = handle
  · rw [if_pos hold] at h
    obtain ⟨rfl, rfl⟩ := Prod.mk.inj (Except.ok.inj h)
    subst hold
    constructor
    · rw [movedTo, if_pos hstream, ← htarget]
    · rw [leave, htarget]
      split
      · next hsome => rw [← Option.some.inj hsome, if_pos rfl]
      · rfl
  rw [if_neg hold] at h
  rcases hflush : outlets.flush? old with - | cause
  · simp only [hflush] at h
    rcases hkind : handler.kind with - | ⟨place, path⟩ | -
    · simp only [hkind] at h
      obtain ⟨rfl, rfl⟩ := Prod.mk.inj (Except.ok.inj h)
      exact ⟨by rw [movedTo, if_pos hstream, hkind], by simp only [leave, hkind]⟩
    · simp only [hkind] at h
      obtain ⟨rfl, rfl⟩ := Prod.mk.inj (Except.ok.inj h)
      exact ⟨by rw [movedTo, if_pos hstream, hkind],
        by simp only [leave, hkind, htarget, if_neg hold]⟩
    · simp [isStreamHandler, hkind] at hstream
  · simp [hflush] at h

/-- A handler that cannot be moved has an old stream that cannot be flushed. -/
theorem redirectOne_failed (h : redirectOne handle handler outlets = .error fault) :
    ∃ old cause, handler.target = some old ∧ old ≠ handle ∧ outlets.flush? old = some cause ∧
      fault = .stream cause := by
  rcases htarget : handler.target with - | old
  · simp [redirectOne, htarget] at h
  simp only [redirectOne, htarget] at h
  by_cases hold : old = handle
  · simp [hold] at h
  rw [if_neg hold] at h
  rcases hflush : outlets.flush? old with - | cause
  · simp only [hflush] at h
    split at h
    · simp at h
    · simp at h
  · simp only [hflush] at h
    exact ⟨old, cause, rfl, hold, hflush, (Except.error.inj h).symm⟩

/-- A walk that meets no fault moves every handler. -/
theorem redirectAll_ok (h : redirectAll handle handlers outlets = (handlers', outlets', none)) :
    handlers' = handlers.map (movedTo handle) ∧
      outlets' = handlers.foldl (leave handle) outlets := by
  induction handlers generalizing outlets handlers' with
  | nil =>
      obtain ⟨rfl, hrest⟩ := Prod.mk.inj h
      obtain ⟨rfl, -⟩ := Prod.mk.inj hrest
      exact ⟨rfl, rfl⟩
  | cons handler handlers ih =>
      rw [redirectAll] at h
      rcases hstream : handler.isStreamHandler with - | -
      · rcases hwalk : redirectAll handle handlers outlets with ⟨rest, last, raised⟩
        simp only [hstream, Bool.false_eq_true, if_false, hwalk] at h
        obtain ⟨rfl, hrest⟩ := Prod.mk.inj h
        obtain ⟨rfl, rfl⟩ := Prod.mk.inj hrest
        obtain ⟨rfl, rfl⟩ := ih hwalk
        rw [List.map_cons, List.foldl_cons, movedTo_of_null hstream, leave_of_null hstream]
        exact ⟨rfl, rfl⟩
      · rcases hone : redirectOne handle handler outlets with fault | ⟨handler', next⟩
        · simp [hstream, hone] at h
        · rcases hwalk : redirectAll handle handlers next with ⟨rest, last, raised⟩
          simp only [hstream, if_true, hone, hwalk] at h
          obtain ⟨rfl, hrest⟩ := Prod.mk.inj h
          obtain ⟨rfl, rfl⟩ := Prod.mk.inj hrest
          obtain ⟨rfl, rfl⟩ := redirectOne_ok hstream hone
          obtain ⟨rfl, rfl⟩ := ih hwalk
          exact ⟨rfl, rfl⟩

/-- A walk that meets a fault has moved the handlers in front of one whose stream cannot be
flushed, and no other. -/
theorem redirectAll_failed
    (h : redirectAll handle handlers outlets = (handlers', outlets', some fault)) :
    ∃ front stuck back old cause,
      handlers = front ++ stuck :: back ∧ stuck.isStreamHandler = true ∧
      stuck.target = some old ∧ old ≠ handle ∧ outlets'.flush? old = some cause ∧
      fault = .stream cause ∧ handlers' = front.map (movedTo handle) ++ stuck :: back ∧
      outlets' = front.foldl (leave handle) outlets := by
  induction handlers generalizing outlets handlers' with
  | nil => simp [redirectAll] at h
  | cons handler handlers ih =>
      rw [redirectAll] at h
      rcases hstream : handler.isStreamHandler with - | -
      · rcases hwalk : redirectAll handle handlers outlets with ⟨rest, last, raised⟩
        simp only [hstream, Bool.false_eq_true, if_false, hwalk] at h
        obtain ⟨rfl, hrest⟩ := Prod.mk.inj h
        obtain ⟨rfl, rfl⟩ := Prod.mk.inj hrest
        obtain ⟨front, stuck, back, old, cause, rfl, hstuck, htarget, hold, hflush, hfault, rfl,
          rfl⟩ := ih hwalk
        refine ⟨handler :: front, stuck, back, old, cause, rfl, hstuck, htarget, hold, ?_, hfault,
          ?_, ?_⟩
        · exact hflush
        · rw [List.map_cons, movedTo_of_null hstream]
          rfl
        · rw [List.foldl_cons, leave_of_null hstream]
      · rcases hone : redirectOne handle handler outlets with cause | ⟨handler', next⟩
        · simp only [hstream, if_true, hone] at h
          obtain ⟨rfl, hrest⟩ := Prod.mk.inj h
          obtain ⟨rfl, hraised⟩ := Prod.mk.inj hrest
          obtain rfl := Option.some.inj hraised
          obtain ⟨old, cause, htarget, hold, hflush, hfault⟩ := redirectOne_failed hone
          exact ⟨[], handler, handlers, old, cause, rfl, hstream, htarget, hold, hflush, hfault,
            rfl, rfl⟩
        · rcases hwalk : redirectAll handle handlers next with ⟨rest, last, raised⟩
          simp only [hstream, if_true, hone, hwalk] at h
          obtain ⟨rfl, hrest⟩ := Prod.mk.inj h
          obtain ⟨rfl, rfl⟩ := Prod.mk.inj hrest
          obtain ⟨rfl, rfl⟩ := redirectOne_ok hstream hone
          obtain ⟨front, stuck, back, old, cause, rfl, hstuck, htarget, hold, hflush, hfault, rfl,
            rfl⟩ := ih hwalk
          exact ⟨handler :: front, stuck, back, old, cause, rfl, hstuck, htarget, hold, hflush,
            hfault, rfl, rfl⟩

/-- A walk whose first handler of a stream or a file has a stream that cannot be flushed moves
nothing. -/
theorem redirectAll_of_first_stuck {stuck : HostHandler} {old : Handle} {cause : StreamFault}
    (hfirst : handlers.find? HostHandler.isStreamHandler = some stuck)
    (htarget : stuck.target = some old) (hold : old ≠ handle)
    (hflush : outlets.flush? old = some cause) :
    redirectAll handle handlers outlets = (handlers, outlets, some (.stream cause)) := by
  induction handlers with
  | nil => simp at hfirst
  | cons handler handlers ih =>
      rcases hstream : handler.isStreamHandler with - | -
      · rw [List.find?_cons_of_neg (by simp [hstream])] at hfirst
        simp only [redirectAll, hstream, Bool.false_eq_true, if_false, ih hfirst]
      · rw [List.find?_cons_of_pos hstream] at hfirst
        obtain rfl := Option.some.inj hfirst
        simp [redirectAll, hstream, redirectOne, htarget, hold, hflush]

/-- A redirection whose first handler of a stream or a file has a stream that cannot be flushed
ends propagation and moves nothing. -/
theorem setOutput_of_first_stuck {host : HostLogger} {stuck : HostHandler} {old : Handle}
    {cause : StreamFault}
    (hfirst : host.handlers.find? HostHandler.isStreamHandler = some stuck)
    (htarget : stuck.target = some old) (hold : old ≠ handle)
    (hflush : outlets.flush? old = some cause) :
    (host.setOutput handle outlets).1 =
      { host := { host with propagate := false }, outlets, raised := some (.stream cause) } := by
  have hcount : (host.handlers.filter HostHandler.isStreamHandler).length ≠ 0 := by
    intro hnone
    have hmem : stuck ∈ host.handlers.filter HostHandler.isStreamHandler :=
      List.mem_filter.mpr ⟨List.mem_of_find?_eq_some hfirst, List.find?_some hfirst⟩
    rw [List.length_eq_zero_iff.mp hnone] at hmem
    simp at hmem
  simp only [setOutput, hcount, if_false,
    redirectAll_of_first_stuck hfirst htarget hold hflush]

/-- A redirection that fails has moved the handlers in front of one whose stream cannot be
flushed, and has ended propagation. -/
theorem setOutput_failed {host : HostLogger}
    (h : (host.setOutput handle outlets).1.raised = some fault) :
    ∃ front stuck back old cause,
      host.handlers = front ++ stuck :: back ∧ stuck.isStreamHandler = true ∧
      stuck.target = some old ∧ old ≠ handle ∧
      (front.foldl (leave handle) outlets).flush? old = some cause ∧ fault = .stream cause ∧
      host.setOutput handle outlets =
        ({ host := { host with
             handlers := front.map (movedTo handle) ++ stuck :: back, propagate := false }
           outlets := front.foldl (leave handle) outlets
           raised := some fault }, none) := by
  by_cases hcount : (host.handlers.filter HostHandler.isStreamHandler).length = 0
  · simp [setOutput, hcount] at h
  rcases hwalk : redirectAll handle host.handlers outlets with ⟨handlers', outlets', - | fault'⟩
  · simp [setOutput, hcount, hwalk] at h
  · have hset : host.setOutput handle outlets =
        ({ host := { host with handlers := handlers', propagate := false }
           outlets := outlets'
           raised := some fault' }, none) := by
      simp only [setOutput, hcount, if_false, hwalk]
    rw [hset] at h ⊢
    obtain rfl : fault' = fault := Option.some.inj h
    obtain ⟨front, stuck, back, old, cause, hhandlers, hstuck, htarget, hold, hflush, hfault, rfl,
      rfl⟩ := redirectAll_failed hwalk
    exact ⟨front, stuck, back, old, cause, hhandlers, hstuck, htarget, hold, hflush, hfault, rfl⟩

/-- A logger redirected to a stream: propagation has ended, and its handlers of streams and files
are at the stream, or a new one is if there were none. -/
def redirectedTo (handle : Handle) (host : HostLogger) : HostLogger :=
  { host with
    handlers :=
      if host.handlers.filter isStreamHandler = [] then
        host.handlers ++ [{ kind := .stream, target := some handle }]
      else host.handlers.map (HostHandler.movedTo handle)
    propagate := false }

/-- The handlers of a redirected logger are at the stream. -/
theorem target_of_mem_redirectedTo {host : HostLogger}
    (hmem : handler ∈ (host.redirectedTo handle).handlers)
    (hstream : handler.isStreamHandler = true) : handler.target = some handle := by
  simp only [redirectedTo] at hmem
  split at hmem
  · next hnone =>
      rcases List.mem_append.mp hmem with hmem | hmem
      · have hnot := List.filter_eq_nil_iff.mp hnone handler hmem
        exact absurd hstream hnot
      · obtain rfl := List.mem_singleton.mp hmem
        rfl
  · obtain ⟨old, -, rfl⟩ := List.mem_map.mp hmem
    rw [isStreamHandler_movedTo] at hstream
    exact target_movedTo hstream handle

/-- The handlers of a redirected logger that write nowhere were there before. -/
theorem mem_of_mem_redirectedTo {host : HostLogger}
    (hmem : handler ∈ (host.redirectedTo handle).handlers)
    (hstream : handler.isStreamHandler = false) : handler ∈ host.handlers := by
  simp only [redirectedTo] at hmem
  split at hmem
  · rcases List.mem_append.mp hmem with hmem | hmem
    · exact hmem
    · obtain rfl := List.mem_singleton.mp hmem
      simp [isStreamHandler] at hstream
  · obtain ⟨old, hold, rfl⟩ := List.mem_map.mp hmem
    rw [isStreamHandler_movedTo] at hstream
    rwa [movedTo_of_null hstream]

/-- Moving handlers and leaving out those of nothing may change places. -/
theorem filter_isStreamHandler_movedTo (handle : Handle) (handlers : List HostHandler) :
    (handlers.map (HostHandler.movedTo handle)).filter isStreamHandler =
      (handlers.filter isStreamHandler).map (HostHandler.movedTo handle) := by
  rw [List.filter_map]
  congr 2
  funext handler
  exact isStreamHandler_movedTo handle handler

/-- A redirected logger has a handler of a stream or a file. -/
theorem filter_redirectedTo_ne_nil (handle : Handle) (host : HostLogger) :
    (host.redirectedTo handle).handlers.filter isStreamHandler ≠ [] := by
  by_cases hnone : host.handlers.filter isStreamHandler = []
  · simp [redirectedTo, hnone, isStreamHandler]
  · simp only [redirectedTo, hnone, if_false, filter_isStreamHandler_movedTo]
    exact fun hnil => hnone (List.map_eq_nil_iff.mp hnil)

/-- A redirected logger has handlers. -/
theorem handlers_redirectedTo_ne_nil (handle : Handle) (host : HostLogger) :
    (host.redirectedTo handle).handlers ≠ [] := by
  intro hnone
  refine filter_redirectedTo_ne_nil handle host ?_
  rw [hnone, List.filter_nil]

/-- A redirection that succeeds moves the logger, whose handlers leave their streams. -/
theorem setOutput_of_ok {host : HostLogger}
    (h : (host.setOutput handle outlets).1.raised = none) :
    (host.setOutput handle outlets).1 =
      { host := host.redirectedTo handle
        outlets := host.handlers.foldl (leave handle) outlets } := by
  by_cases hnone : host.handlers.filter isStreamHandler = []
  · have hnull : ∀ handler ∈ host.handlers, handler.isStreamHandler = false := by
      simpa using List.filter_eq_nil_iff.mp hnone
    simp only [setOutput, redirectedTo, hnone, List.length_nil, if_true, foldl_leave_of_null hnull]
  · have hcount : (host.handlers.filter isStreamHandler).length ≠ 0 :=
      fun hzero => hnone (List.length_eq_zero_iff.mp hzero)
    rcases hwalk : redirectAll handle host.handlers outlets with ⟨moved, last, - | fault⟩
    · obtain ⟨rfl, rfl⟩ := redirectAll_ok hwalk
      simp only [setOutput, redirectedTo, hcount, hnone, if_false, hwalk]
    · simp [setOutput, hcount, hwalk] at h

/-- A redirection that meets no fault has moved every handler, or has added one to a logger that
had none of a stream or a file. -/
theorem setOutput_ok {host : HostLogger}
    (h : (host.setOutput handle outlets).1.raised = none) :
    (host.setOutput handle outlets).1.host.propagate = false ∧
      ((host.handlers.filter HostHandler.isStreamHandler = [] ∧
          (host.setOutput handle outlets).1.host.handlers =
            host.handlers ++ [{ kind := .stream, target := some handle }] ∧
          (host.setOutput handle outlets).1.outlets = outlets) ∨
        (host.handlers.filter HostHandler.isStreamHandler ≠ [] ∧
          (host.setOutput handle outlets).1.host.handlers =
            host.handlers.map (movedTo handle) ∧
          (host.setOutput handle outlets).1.outlets =
            host.handlers.foldl (leave handle) outlets)) := by
  rw [setOutput_of_ok h]
  refine ⟨rfl, ?_⟩
  by_cases hnone : host.handlers.filter HostHandler.isStreamHandler = []
  · have hnull : ∀ handler ∈ host.handlers, handler.isStreamHandler = false := by
      simpa using List.filter_eq_nil_iff.mp hnone
    refine .inl ⟨hnone, ?_, foldl_leave_of_null hnull handle outlets⟩
    simp only [redirectedTo, hnone, if_true]
  · refine .inr ⟨hnone, ?_, rfl⟩
    simp only [redirectedTo, hnone, if_false]

end HostLogger

end TraceLog
