import TraceLog.Proofs.Entanglement

/-!
# Redirecting Again

The first redirection closes the file that a handler had opened. From then on the handler is at a
stream that a caller passed. The next redirection to another stream closes that one as well, and
fails when a handler stands behind which has to flush it. So a logger with a handler of a file is
redirected safely to one stream only.

`HostLogger.redirectEach` redirects a logger to streams one after the other, and
`HostLogger.RedirectsSafely` is what one expects of that: no call fails, no stream that was passed
is closed, and the last call wins. `HostLogger.redirectsSafely_iff` says when this is so, and what
is left of it otherwise.

## Main results

* `HostLogger.redirectEach_change`: the first call that names another stream.
* `HostLogger.redirectsSafely_iff`: redirections one after the other.
-/

namespace TraceLog

namespace HostLogger

open HostHandler

variable {handle other : Handle} {host : HostLogger} {outlets : Outlets}

/-! ### One redirection after the other -/

/-- A logger redirected to streams one after the other, and the first fault. A call that fails
does not keep the later ones from being made. -/
def redirectEach (host : HostLogger) (outlets : Outlets) : List Handle → HostDelivery
  | [] => { host, outlets }
  | handle :: handles =>
    let next := (host.setOutput handle outlets).1
    let rest := next.host.redirectEach next.outlets handles
    { rest with raised := next.raised.or rest.raised }

/-- Redirections are made one after the other. -/
theorem redirectEach_append (host : HostLogger) (outlets : Outlets)
    (handles handles' : List Handle) :
    host.redirectEach outlets (handles ++ handles') =
      let first := host.redirectEach outlets handles
      let rest := first.host.redirectEach first.outlets handles'
      { rest with raised := first.raised.or rest.raised } := by
  induction handles generalizing host outlets with
  | nil => rfl
  | cons handle handles ih =>
      simp only [List.cons_append, redirectEach, ih, Option.or_assoc]

/-- Redirections open no stream that is closed. -/
theorem find?_redirectEach_of_closed {device : Device} (handles : List Handle) (host : HostLogger)
    (h : outlets.find? other = some ⟨device, true⟩) :
    (host.redirectEach outlets handles).outlets.find? other = some ⟨device, true⟩ := by
  induction handles generalizing host outlets with
  | nil => exact h
  | cons handle handles ih => exact ih _ (find?_setOutput_of_closed h host handle)

/-- Further redirections to the same stream change nothing. -/
theorem redirectEach_of_same {handles : List Handle} (hsame : ∀ other ∈ handles, other = handle)
    (host : HostLogger) (outlets : Outlets) :
    (host.redirectedTo handle).redirectEach outlets handles =
      { host := host.redirectedTo handle, outlets } := by
  induction handles with
  | nil => rfl
  | cons other handles ih =>
      obtain ⟨rfl, hrest⟩ := List.forall_mem_cons.mp hsame
      simp only [redirectEach, setOutput_redirectedTo, ih hrest, Option.none_or]

/-- A redirection that succeeds, and further ones to the same stream. -/
theorem redirectEach_cons_of_same {handles : List Handle}
    (hraised : (host.setOutput handle outlets).1.raised = none)
    (hsame : ∀ other ∈ handles, other = handle) :
    host.redirectEach outlets (handle :: handles) =
      { host := host.redirectedTo handle
        outlets := host.handlers.foldl (leave handle) outlets } := by
  simp only [redirectEach, setOutput_of_ok hraised, redirectEach_of_same hsame, Option.none_or]

/-- A logger without handlers of files is redirected, and no stream is closed. -/
theorem setOutput_of_no_file (hopen : host.StreamsOpen outlets)
    (hfile : ∀ handler ∈ host.handlers, handler.isFileHandler = false) (handle : Handle) :
    (host.setOutput handle outlets).1 = { host := host.redirectedTo handle, outlets } := by
  have hraised : (host.setOutput handle outlets).1.raised = none := by
    refine raised_eq_none_of_not_entangled hopen ?_
    rintro ⟨front, stuck, back, old, hhandlers, -, -, ⟨handler, hmem, hcloses⟩, -⟩
    have hnot : handler.isFileHandler = false := by
      refine hfile handler ?_
      rw [hhandlers]
      exact List.mem_append_left _ hmem
    rw [hcloses.1] at hnot
    simp at hnot
  rw [setOutput_of_ok hraised, foldl_leave_of_no_file hfile]

/-- A logger without handlers of files has none when it was redirected. -/
theorem no_file_redirectedTo (hfile : ∀ handler ∈ host.handlers, handler.isFileHandler = false)
    (handle : Handle) :
    ∀ handler ∈ (host.redirectedTo handle).handlers, handler.isFileHandler = false := by
  intro handler hmem
  simp only [redirectedTo] at hmem
  split at hmem
  · rcases List.mem_append.mp hmem with hmem | hmem
    · exact hfile handler hmem
    · obtain rfl := List.mem_singleton.mp hmem
      rfl
  · obtain ⟨old, hold, rfl⟩ := List.mem_map.mp hmem
    rw [isFileHandler_movedTo]
    exact hfile old hold

/-- A logger without handlers of files, redirected to streams one after the other. -/
theorem redirectEach_of_no_file {first : Handle} {further : List Handle}
    (hopen : host.StreamsOpen outlets)
    (hpassed : ∀ handle ∈ first :: further, outlets.IsOpen handle)
    (hfile : ∀ handler ∈ host.handlers, handler.isFileHandler = false) :
    host.redirectEach outlets (first :: further) =
      { host := host.redirectedTo (further.getLastD first), outlets } := by
  induction further generalizing host first with
  | nil =>
      simp only [redirectEach, setOutput_of_no_file hopen hfile, Option.or_none, List.getLastD_nil]
  | cons second further ih =>
      obtain ⟨hfirst, hfurther⟩ := List.forall_mem_cons.mp hpassed
      have hrest := ih (streamsOpen_redirectedTo hfirst host) hfurther
        (no_file_redirectedTo hfile first)
      rw [redirectEach, setOutput_of_no_file hopen hfile]
      dsimp only
      rw [hrest, redirectedTo_redirectedTo, List.getLastD_cons, Option.none_or]

end HostLogger

/-- A stream is there and open, and is one that can be closed. -/
def Outlets.CanClose (outlets : Outlets) (handle : Handle) : Prop :=
  ∃ device, outlets.find? handle = some ⟨device, false⟩ ∧ ∀ content, device ≠ .bare content

/-- A stream that can be closed is open. -/
theorem Outlets.CanClose.isOpen {outlets : Outlets} {handle : Handle}
    (h : outlets.CanClose handle) : outlets.IsOpen handle := by
  obtain ⟨device, hfind, -⟩ := h
  exact ⟨device, hfind⟩

/-- A stream that can be closed is closed then. -/
theorem Outlets.CanClose.closing {outlets : Outlets} {handle : Handle}
    (h : outlets.CanClose handle) :
    ∃ device, outlets.find? handle = some ⟨device, false⟩ ∧
      (outlets.find? handle).map Stream.closing = some ⟨device, true⟩ := by
  obtain ⟨device, hfind, hbare⟩ := h
  refine ⟨device, hfind, ?_⟩
  rw [hfind]
  cases device with
  | bare content => exact absurd rfl (hbare content)
  | _ => rfl

namespace HostLogger

open HostHandler

variable {first other : Handle} {further same : List Handle} {host : HostLogger} {outlets : Outlets}

/-- A logger with a handler of a file is redirected to a stream, possibly more than once, and then
to another stream. -/
theorem redirectEach_change (hopen : host.StreamsOpen outlets) (hfirst : outlets.IsOpen first)
    (hfile : ∃ handler ∈ host.handlers, handler.isFileHandler = true)
    (hentangled : ¬ host.Entangled first outlets) (hsame : ∀ handle ∈ same, handle = first)
    (hother : other ≠ first) :
    let before := host.redirectEach outlets (first :: same)
    let next := (before.host.setOutput other before.outlets).1
    before.raised = none ∧
    before.outlets.find? first = outlets.find? first ∧
    next.outlets.find? first = (outlets.find? first).map Stream.closing ∧
    (next.raised.isSome ↔
      ((outlets.close first).flush? first).isSome ∧ host.HasFileInFront) := by
  have hraised := raised_eq_none_of_not_entangled hopen hentangled
  rw [redirectEach_cons_of_same hraised hsame]
  intro before next
  have hspared : before.outlets.find? first = outlets.find? first := by
    refine (find?_foldl_leave first first host.handlers outlets).trans (if_neg ?_)
    rintro ⟨handler, -, -, -, hne⟩
    exact hne rfl
  have hthere : before.outlets.IsOpen first := by
    obtain ⟨device, hfind⟩ := hfirst
    exact ⟨device, hspared.trans hfind⟩
  have hflush : (before.outlets.close first).flush? first = (outlets.close first).flush? first := by
    rw [Outlets.flush?, Outlets.flush?, Outlets.find?_close, Outlets.find?_close, hspared]
  refine ⟨rfl, hspared, ?_, ?_⟩
  · rw [← hspared]
    exact find?_setOutput_redirectedTo hfile hother hthere
  · rw [← hflush, ← entangled_redirectedTo_iff hfile hother]
    exact raised_setOutput_iff (streamsOpen_redirectedTo hthere host)

/-- **The last redirection wins** when none fails. -/
theorem host_redirectEach_of_ok (first : Handle) (host : HostLogger) (outlets : Outlets)
    (h : (host.redirectEach outlets (first :: further)).raised = none) :
    (host.redirectEach outlets (first :: further)).host =
      host.redirectedTo (further.getLastD first) := by
  induction further generalizing first host outlets with
  | nil =>
      obtain ⟨hraised, -⟩ := Option.or_eq_none_iff.mp h
      rw [redirectEach, setOutput_of_ok hraised]
      rfl
  | cons second further ih =>
      obtain ⟨hraised, hrest⟩ := Option.or_eq_none_iff.mp h
      have hlast := ih second _ _ hrest
      rw [setOutput_of_ok hraised, redirectedTo_redirectedTo] at hlast
      rw [redirectEach, setOutput_of_ok hraised, List.getLastD_cons]
      exact hlast

/-- Redirections to streams one after the other are safe: none fails, none closes one of the
streams, and only handlers of files close streams; and the last one wins. -/
structure RedirectsSafely (host : HostLogger) (outlets : Outlets) (first : Handle)
    (further : List Handle) : Prop where
  succeeds : (host.redirectEach outlets (first :: further)).raised = none
  spares : ∀ handle ∈ first :: further,
    (host.redirectEach outlets (first :: further)).outlets.find? handle = outlets.find? handle
  closes : ∀ handle,
    (host.redirectEach outlets (first :: further)).outlets.find? handle ≠ outlets.find? handle →
      ∃ handler ∈ host.handlers, handler.isFileHandler = true ∧ handler.target = some handle
  lastWins : host.redirectEach outlets (first :: further) =
    (host.setOutput (further.getLastD first) outlets).1

/-- A list with a change in it has a first one. -/
theorem exists_change (h : ¬ ∀ handle ∈ further, handle = first) :
    ∃ same other back, further = same ++ other :: back ∧ (∀ handle ∈ same, handle = first) ∧
      other ≠ first := by
  rcases hfind : further.find? (fun handle => handle != first) with - | other
  · refine absurd (fun handle hmem => ?_) h
    simpa using List.find?_eq_none.mp hfind handle hmem
  · obtain ⟨hother, same, back, hsplit, hsame⟩ := List.find?_eq_some_iff_append.mp hfind
    refine ⟨same, other, back, hsplit, fun handle hmem => ?_, by simpa using hother⟩
    simpa using hsame handle hmem

/-- Without handlers of files a logger is redirected safely to open streams. -/
theorem redirectsSafely_of_no_file (hopen : host.StreamsOpen outlets)
    (hpassed : ∀ handle ∈ first :: further, outlets.IsOpen handle)
    (hfile : ∀ handler ∈ host.handlers, handler.isFileHandler = false) :
    host.RedirectsSafely outlets first further := by
  have heach := redirectEach_of_no_file hopen hpassed hfile
  have hlast := setOutput_of_no_file hopen hfile (further.getLastD first)
  refine ⟨?_, fun handle _ => ?_, fun handle hchanged => absurd ?_ hchanged, heach.trans hlast.symm⟩
  · rw [heach]
  · rw [heach]
  · rw [heach]

/-- So it is to one stream again and again. -/
theorem redirectsSafely_of_same (hopen : host.StreamsOpen outlets)
    (hentangled : ¬ host.Entangled first outlets) (hsame : ∀ handle ∈ further, handle = first) :
    host.RedirectsSafely outlets first further := by
  have hraised := raised_eq_none_of_not_entangled hopen hentangled
  have heach := redirectEach_cons_of_same hraised hsame
  have hlast : further.getLastD first = first := by
    rcases hend : further.getLast? with - | handle
    · rw [List.getLastD_eq_getLast?, hend]
      rfl
    · rw [List.getLastD_eq_getLast?, hend]
      exact hsame handle (List.mem_of_getLast? hend)
  refine ⟨?_, fun handle hmem => ?_, fun handle hchanged => ?_, ?_⟩
  · rw [heach]
  · have hfirst : handle = first := by
      rcases List.mem_cons.mp hmem with hhead | hrest
      · exact hhead
      · exact hsame handle hrest
    rw [heach, find?_foldl_leave, if_neg]
    rintro ⟨handler, -, -, -, hne⟩
    exact hne hfirst
  · rw [heach, find?_foldl_leave] at hchanged
    split at hchanged
    · next hcloses =>
        obtain ⟨handler, hmem, hfile, htarget, -⟩ := hcloses
        exact ⟨handler, hmem, hfile, htarget⟩
    · exact absurd rfl hchanged
  · rw [heach, hlast, setOutput_of_ok hraised]

/-- A logger with a handler of a file that was redirected safely was redirected to one stream. -/
theorem eq_first_of_redirectsSafely (h : host.RedirectsSafely outlets first further)
    (hopen : host.StreamsOpen outlets) (hfirst : outlets.CanClose first)
    (hfile : ∃ handler ∈ host.handlers, handler.isFileHandler = true)
    (hentangled : ¬ host.Entangled first outlets) : ∀ handle ∈ further, handle = first := by
  refine Classical.byContradiction fun hchange => ?_
  obtain ⟨same, other, back, rfl, hsame, hother⟩ := exists_change hchange
  obtain ⟨-, -, hclosed, -⟩ :=
    redirectEach_change hopen hfirst.isOpen hfile hentangled hsame hother
  obtain ⟨device, hfind, hclosing⟩ := hfirst.closing
  have hspared := h.spares first List.mem_cons_self
  have hlast : (host.redirectEach outlets (first :: (same ++ other :: back))).outlets.find? first =
      some ⟨device, true⟩ := by
    rw [← List.cons_append, redirectEach_append]
    exact find?_redirectEach_of_closed back _ (hclosed.trans hclosing)
  rw [hlast, hfind] at hspared
  simp at hspared

/-- **A logger is redirected safely, one time after the other,** exactly when it has no handler of
a file, or when it is redirected to the same stream each time and the first call does not fail
because a handler closes the stream of another one. The last call wins whenever none fails.

For a logger with a handler of a file the first call that names another stream closes the one that
was passed before. It fails exactly when a handler stands behind that of the file, unless the
closed stream can be flushed. -/
theorem redirectsSafely_iff (hopen : host.StreamsOpen outlets)
    (hpassed : ∀ handle ∈ first :: further, outlets.CanClose handle) :
    (host.RedirectsSafely outlets first further ↔
      (∀ handler ∈ host.handlers, handler.isFileHandler = false) ∨
        (∀ handle ∈ further, handle = first) ∧ ¬ host.Entangled first outlets) ∧
    ((host.redirectEach outlets (first :: further)).raised = none →
      (host.redirectEach outlets (first :: further)).host =
        host.redirectedTo (further.getLastD first)) ∧
    ∀ same other, (∀ handle ∈ same, handle = first) → other ≠ first →
      (∃ handler ∈ host.handlers, handler.isFileHandler = true) →
      ¬ host.Entangled first outlets →
      let before := host.redirectEach outlets (first :: same)
      let next := (before.host.setOutput other before.outlets).1
      before.raised = none ∧
      before.outlets.find? first = outlets.find? first ∧
      next.outlets.find? first = (outlets.find? first).map Stream.closing ∧
      (next.raised.isSome ↔
        ((outlets.close first).flush? first).isSome ∧ host.HasFileInFront) := by
  have hfirst : outlets.CanClose first := hpassed first List.mem_cons_self
  refine ⟨⟨fun hsafe => ?_, ?_⟩, host_redirectEach_of_ok first host outlets, ?_⟩
  · by_cases hfile : ∀ handler ∈ host.handlers, handler.isFileHandler = false
    · exact .inl hfile
    · have hsome : ∃ handler ∈ host.handlers, handler.isFileHandler = true := by
        simpa using hfile
      have hraised := (Option.or_eq_none_iff.mp hsafe.succeeds).1
      have hentangled : ¬ host.Entangled first outlets := by
        rw [← raised_setOutput_iff hopen, hraised]
        simp
      exact .inr ⟨eq_first_of_redirectsSafely hsafe hopen hfirst hsome hentangled, hentangled⟩
  · rintro (hfile | ⟨hsame, hentangled⟩)
    · exact redirectsSafely_of_no_file hopen (fun handle hmem => (hpassed handle hmem).isOpen) hfile
    · exact redirectsSafely_of_same hopen hentangled hsame
  · intro same other hsame hother hfile hentangled
    exact redirectEach_change hopen hfirst.isOpen hfile hentangled hsame hother

/-- A logger with a handler of a file in front of one of a stream. -/
def filing : HostLogger :=
  { handlers :=
      [{ kind := .file ["a.log"] (.ofText "/a.log"), target := some (.opened 0) },
        { kind := .stream, target := some (.named "h") }] }

/-- Its streams, and two that are passed to redirections. -/
def filed : Outlets where
  streams :=
    [(.console, ⟨.text "", false⟩), (.named "h", ⟨.text "", false⟩),
      (.named "x", ⟨.crlf [], false⟩), (.named "y", ⟨.text "", false⟩),
      (.opened 0, ⟨.file ["a.log"] 0, false⟩)]
  files := { files := [(["a.log"], [])] }
  opened := 1

/-- The logger is redirected safely twice to one stream, and not to one and then to another. -/
theorem not_redirectsSafely_filing :
    filing.RedirectsSafely filed (.named "x") [.named "x"] ∧
      ¬ filing.RedirectsSafely filed (.named "x") [.named "y"] := by
  have hopen : filing.StreamsOpen filed := by
    intro handler hmem _ old htarget
    rcases List.mem_cons.mp hmem with rfl | hmem
    · obtain rfl := Option.some.inj htarget
      exact ⟨_, rfl⟩
    · obtain rfl := List.mem_singleton.mp hmem
      obtain rfl := Option.some.inj htarget
      exact ⟨_, rfl⟩
  have hx : filed.CanClose (.named "x") := ⟨_, rfl, by simp⟩
  have hy : filed.CanClose (.named "y") := ⟨_, rfl, by simp⟩
  have hentangled : ¬ filing.Entangled (.named "x") filed := by
    rw [← raised_setOutput_iff hopen]
    decide
  have honce : ∀ handle ∈ [Handle.named "x", .named "x"], filed.CanClose handle := by
    simp [hx]
  have htwice : ∀ handle ∈ [Handle.named "x", .named "y"], filed.CanClose handle := by
    simp [hx, hy]
  obtain ⟨hsafe, -⟩ := redirectsSafely_iff hopen honce
  obtain ⟨hagain, -⟩ := redirectsSafely_iff hopen htwice
  refine ⟨hsafe.mpr (.inr ⟨by simp, hentangled⟩), fun h => ?_⟩
  rcases hagain.mp h with hfile | ⟨hsame, -⟩
  · exact absurd (hfile _ List.mem_cons_self) (by decide)
  · exact absurd (hsame _ List.mem_cons_self) (by decide)

/-- The second call closes the stream that was passed to the first one, fails for that, and leaves
the handler behind at the closed stream. The second stream alone would have taken all records. -/
theorem passed_stream_closed :
    let each := filing.redirectEach filed [.named "x", .named "y"]
    let single := (filing.setOutput (.named "y") filed).1
    filed.find? (.named "x") = some ⟨.crlf [], false⟩ ∧
      each.outlets.find? (.named "x") = some ⟨.crlf [], true⟩ ∧
      each.raised = some (.stream (.closed true)) ∧
      each.host.handlers.map HostHandler.target = [some (.named "y"), some (.named "x")] ∧
      single.raised = none ∧
      single.host.handlers.map HostHandler.target = [some (.named "y"), some (.named "y")] :=
  ⟨rfl, rfl, rfl, rfl, rfl, rfl⟩

end HostLogger

end TraceLog
