import TraceLog.Proofs.Soundness
import TraceLog.Proofs.Telling

/-!
# Suppression Is Complete

A host's logger is silent when it does not propagate, has handlers, and each of them writes
nowhere or to a stream that discards everything (`HostLogger.Silent`). A record that is given to a
silent logger changes no stream and no file, and leaves the logger as it is; only faults of its
handlers may be noted and reported on standard error, since a template is filled before anything is
discarded.

A configuration that succeeds in muting the host's logger leaves it silent, and it stays so until
it is redirected. Hence runs without redirections do the same with and without the records of the
host, but for what is told of errors.

## Main results

* `HostLogger.log_of_silent`: a record that is given to a silent logger.
* `Scene.invariant_muted`: a silent logger stays so.
* `Session.final_filter_of_muted`: runs with and without records of the host.
* `Gate.silent_configure`: a configuration that mutes the host's logger leaves it silent.
* `Gate.suppression_complete`: what such a configuration comes to.
* `Gate.muted_record_is_reported`: what is told of a template that cannot be filled.
-/

namespace TraceLog

/-! ### Silent loggers -/

/-- A handler writes nowhere: it has no stream and gets none, or its stream discards everything. -/
def HostHandler.Silent (outlets : Outlets) (handler : HostHandler) : Prop :=
  (handler.kind = .null ∧ handler.target = none) ∨
    ∃ number, handler.target = some (.opened number) ∧ outlets.Discards number

/-- A logger hands its records to handlers that write nowhere, and to no others. -/
structure HostLogger.Silent (outlets : Outlets) (host : HostLogger) : Prop where
  apart : host.propagate = false
  nonempty : host.handlers ≠ []
  handlers : ∀ handler ∈ host.handlers, handler.Silent outlets

/-- A handler that is silent is so later. -/
theorem HostHandler.Silent.later {handler : HostHandler} {outlets outlets' : Outlets}
    (h : handler.Silent outlets) (hlater : outlets.Later outlets') : handler.Silent outlets' := by
  rcases h with hnull | ⟨number, htarget, hdiscards⟩
  · exact .inl hnull
  · exact .inr ⟨number, htarget, hlater.discards number hdiscards⟩

/-- So is a logger. -/
theorem HostLogger.Silent.later {host : HostLogger} {outlets outlets' : Outlets}
    (h : host.Silent outlets) (hlater : outlets.Later outlets') : host.Silent outlets' :=
  ⟨h.apart, h.nonempty, fun handler hmem => (h.handlers handler hmem).later hlater⟩

namespace HostLogger

variable {handler : HostHandler} {host : HostLogger} {outlets : Outlets}

/-- A text for a stream that discards everything changes nothing, whether it is taken or not. -/
theorem writeText_of_discards {number : Nat} (h : outlets.Discards number) (s : String) :
    outlets.writeText s (.opened number) = .ok outlets ∨
      outlets.writeText s (.opened number) = .error (.closed true) := by
  obtain ⟨-, closed, hfind⟩ := h
  cases closed with
  | false =>
      left
      have hput := Outlets.put_eq_self hfind
      simp only [Outlets.writeText, hfind]
      exact congrArg Except.ok hput
  | true =>
      right
      simp only [Outlets.writeText, hfind]
      rfl

/-- A fault that a handler meets leaves nothing but a report. -/
theorem withoutReports_met (record : HostRecord) (fault : Fault) (outlets : Outlets) :
    (met record fault outlets).1.withoutReports = outlets.withoutReports :=
  outlets.withoutReports_meet record.report fault

/-- A record that is given to a silent handler changes nothing, reports aside. -/
theorem handleOne_of_silent (h : handler.Silent outlets) (record : HostRecord) :
    ∃ outlets' told, handleOne record handler outlets = (handler, outlets', told) ∧
      outlets'.withoutReports = outlets.withoutReports := by
  rcases h with ⟨hkind, hnone⟩ | ⟨number, htarget, hdiscards⟩
  · refine ⟨outlets, ([], none), ?_, rfl⟩
    simp only [handleOne, target, hkind, hnone]
  · have hthere : target handler outlets = .ok (some (.opened number), handler, outlets) := by
      simp only [target, htarget]
    rcases hline : handler.lineOf record with fault | line
    · refine ⟨_, (met record fault outlets).2, ?_, withoutReports_met record fault outlets⟩
      simp only [handleOne, hthere, hline]
    · rcases writeText_of_discards hdiscards (line ++ "\n") with hwrite | hwrite
      · refine ⟨outlets, ([], none), ?_, rfl⟩
        simp only [handleOne, hthere, hline, hwrite]
      · refine ⟨_, (met record (.stream (.closed true)) outlets).2, ?_,
          withoutReports_met record (.stream (.closed true)) outlets⟩
        simp only [handleOne, hthere, hline, hwrite]

/-- A record that is given to silent handlers changes nothing, reports aside. -/
theorem handleAll_of_silent {handlers : List HostHandler}
    (h : ∀ handler ∈ handlers, handler.Silent outlets) (record : HostRecord) :
    ∃ outlets' told, handleAll record handlers outlets = (handlers, outlets', told) ∧
      outlets'.withoutReports = outlets.withoutReports := by
  induction handlers generalizing outlets with
  | nil => exact ⟨outlets, _, rfl, rfl⟩
  | cons handler handlers ih =>
      obtain ⟨hsilent, hrest⟩ := List.forall_mem_cons.mp h
      by_cases hlevel : record.level < handler.level
      · obtain ⟨outlets', told, hall, hsame⟩ := ih hrest
        refine ⟨outlets', told, ?_, hsame⟩
        simp only [handleAll, hlevel, if_true, hall]
      · obtain ⟨next, ⟨faults, raised⟩, hone, hnext⟩ := handleOne_of_silent hsilent record
        rcases raised with - | fault
        · obtain ⟨outlets', told, hall, hsame⟩ := ih fun handler hmem =>
            (hrest handler hmem).later (Outlets.later_of_withoutReports hnext)
          refine ⟨outlets', (faults ++ told.1, told.2), ?_, hsame.trans hnext⟩
          simp only [handleAll, hlevel, if_false, hone, hall]
        · refine ⟨next, (faults, some fault), ?_, hnext⟩
          simp only [handleAll, hlevel, if_false, hone]

/-- **A record that is given to a silent logger** changes no stream and no file, reports aside, and
leaves the logger as it is. -/
theorem log_of_silent (h : host.Silent outlets) (level : Int) (message : String)
    (site : CallSite) :
    (host.log level message site outlets).host = host ∧
      (host.log level message site outlets).outlets.withoutReports = outlets.withoutReports := by
  by_cases hlevel : level < host.effectiveLevel ∨ level ≤ 0
  · rw [log, if_pos hlevel]
    exact ⟨rfl, rfl⟩
  rcases hname : Level.name level with fault | levelName
  · rw [log, if_neg hlevel, hname]
    exact ⟨rfl, rfl⟩
  obtain ⟨outlets', ⟨faults, raised⟩, hall, hsame⟩ := handleAll_of_silent h.handlers
    { name := host.name, level, levelName, message, site }
  have houter : host.outerHandlers = [] := by
    simp only [outerHandlers, h.apart, h.nonempty, if_false]
  rcases raised with - | fault
  · simp only [log, hlevel, if_false, hname, hall, houter, handleAll, hsame, and_self]
  · simp only [log, hlevel, if_false, hname, hall, hsame, and_self]

/-! ### Redirecting to a stream that discards everything -/

/-- What a host has set up: the level of its logger, and the kind, the level and the template of
each handler. -/
def setup (host : HostLogger) : Int × List (HandlerKind × Int × Option String) :=
  (host.level, host.handlers.map fun handler => (handler.kind, handler.level, handler.template))

/-- Handlers that are moved are set up as before. -/
theorem map_setup_movedTo (handle : Handle) (handlers : List HostHandler) :
    (handlers.map (HostHandler.movedTo handle)).map
        (fun handler => (handler.kind, handler.level, handler.template)) =
      handlers.map fun handler => (handler.kind, handler.level, handler.template) := by
  rw [List.map_map]
  refine List.map_congr_left fun handler _ => ?_
  simp only [Function.comp_apply, HostHandler.movedTo]
  split
  · rfl
  · rfl

/-- The handler that a redirection adds, if there is none of a stream or a file: a plain one that
takes every level. -/
def addedSetup (host : HostLogger) : List (HandlerKind × Int × Option String) :=
  if host.handlers.filter HostHandler.isStreamHandler = [] then [(.stream, 0, none)] else []

/-- A logger that is redirected is set up as before, but for a handler that is added. -/
theorem setup_redirectedTo (handle : Handle) (host : HostLogger) :
    (host.redirectedTo handle).setup = (host.setup.1, host.setup.2 ++ host.addedSetup) := by
  by_cases hnone : host.handlers.filter HostHandler.isStreamHandler = []
  · simp only [setup, redirectedTo, addedSetup, hnone, if_true, List.map_append]
    rfl
  · simp only [setup, redirectedTo, addedSetup, hnone, if_false, map_setup_movedTo, List.append_nil]

/-- **A redirection leaves what a host has set up as it is**, and adds a handler at most. -/
theorem setup_setOutput (host : HostLogger) (handle : Handle) (outlets : Outlets) :
    ∃ added, (host.setOutput handle outlets).1.host.setup =
      (host.setup.1, host.setup.2 ++ added) := by
  rcases hraised : (host.setOutput handle outlets).1.raised with - | fault
  · rw [setOutput_of_ok hraised]
    exact ⟨host.addedSetup, setup_redirectedTo handle host⟩
  · obtain ⟨front, stuck, back, old, cause, hhandlers, -, -, -, -, -, hset⟩ :=
      setOutput_failed hraised
    refine ⟨[], ?_⟩
    rw [hset, setup, setup, List.append_nil]
    dsimp only
    rw [List.map_append, map_setup_movedTo, hhandlers, List.map_append]

/-- A handler that is moved to a stream that discards everything is silent, unless it writes nowhere
and is not moved. -/
theorem silent_movedTo {number : Nat} (hdiscards : outlets.Discards number)
    (hnull : handler.kind = .null → handler.Silent outlets) :
    (handler.movedTo (.opened number)).Silent outlets := by
  rcases hstream : handler.isStreamHandler with - | -
  · have hkind : handler.kind = .null := by simpa [HostHandler.isStreamHandler] using hstream
    rw [HostHandler.movedTo_of_null hstream]
    exact hnull hkind
  · exact .inr ⟨number, HostHandler.target_movedTo hstream _, hdiscards⟩

/-- **A redirection to a stream that discards everything** makes a logger silent when it succeeds,
and leaves a silent one so when it fails. -/
theorem silent_setOutput {number : Nat} (hdiscards : outlets.Discards number)
    (hnull : ∀ handler ∈ host.handlers, handler.kind = .null → handler.Silent outlets)
    (h : (host.setOutput (.opened number) outlets).1.raised = none ∨ host.Silent outlets) :
    (host.setOutput (.opened number) outlets).1.host.Silent
      (host.setOutput (.opened number) outlets).1.outlets := by
  rcases hraised : (host.setOutput (.opened number) outlets).1.raised with - | fault
  · rw [setOutput_of_ok hraised]
    refine HostLogger.Silent.later
      ⟨rfl, handlers_redirectedTo_ne_nil _ host, fun handler hmem => ?_⟩
      (later_foldl_leave _ host.handlers outlets)
    rcases hstream : handler.isStreamHandler with - | -
    · have hkind : handler.kind = .null := by simpa [HostHandler.isStreamHandler] using hstream
      exact hnull handler (mem_of_mem_redirectedTo hmem hstream) hkind
    · exact .inr ⟨number, target_of_mem_redirectedTo hmem hstream, hdiscards⟩
  · have hsilent : host.Silent outlets := h.resolve_left (by simp [hraised])
    obtain ⟨front, stuck, back, old, cause, hhandlers, -, -, -, -, -, hset⟩ :=
      setOutput_failed hraised
    rw [hset]
    refine HostLogger.Silent.later ⟨rfl, by simp, fun moved hmem => ?_⟩
      (later_foldl_leave _ front outlets)
    rcases List.mem_append.mp hmem with hmem | hmem
    · obtain ⟨handler, hthere, rfl⟩ := List.mem_map.mp hmem
      refine silent_movedTo hdiscards (hnull handler ?_)
      rw [hhandlers]
      exact List.mem_append_left _ hthere
    · refine hsilent.handlers moved ?_
      rw [hhandlers]
      exact List.mem_append_right _ hmem

end HostLogger

/-! ### Muted scenes -/

/-- The host's logger of a scene is silent. -/
def Scene.Muted (scene : Scene) : Prop :=
  ∃ host, scene.host = some host ∧ host.Silent scene.outlets

/-- The new stream of a muted host's logger discards everything. -/
theorem Outlets.discards_openStream (outlets : Outlets) :
    (outlets.openStream .discard).2.Discards outlets.opened := by
  refine ⟨Nat.lt_succ_self _, false, ?_⟩
  rw [find?_openStream, if_pos rfl]

/-- **A silent logger of the host stays so** when it is muted once more, also when that fails, and
when it is given records. -/
theorem Scene.invariant_muted : Scene.Invariant Scene.Muted where
  later := by
    rintro scene scene' ⟨host, hhost, hsilent⟩ hlater
    exact ⟨host, hlater.host.trans hhost, hsilent.later hlater.outlets⟩
  muted := by
    rintro gate options scene ⟨host, hhost, hsilent⟩
    by_cases hmute : options.suppressHost.isTrue = true ∧ gate.hostLogger = .own ∧
      scene.host.isSome
    · obtain ⟨hsuppress, hown, -⟩ := hmute
      obtain ⟨houtlets, hmuted, -⟩ := Gate.muteHost_own hsuppress hown hhost
      have hopened : host.Silent (scene.outlets.openStream .discard).2 :=
        hsilent.later (Outlets.later_openStream scene.outlets .discard)
      refine ⟨_, hmuted, ?_⟩
      rw [houtlets]
      exact HostLogger.silent_setOutput (Outlets.discards_openStream scene.outlets)
        (fun handler hmem _ => hopened.handlers handler hmem) (.inr hopened)
    · rw [Gate.fst_muteHost_of_not_own hmute]
      exact ⟨host, hhost, hsilent⟩
  logged := by
    rintro scene host level message site ⟨host', hhost', hsilent⟩ hhost
    obtain rfl : host' = host := Option.some.inj (hhost'.symm.trans hhost)
    obtain ⟨hsame, houtlets⟩ := HostLogger.log_of_silent hsilent level message site
    exact ⟨host', congrArg some hsame, hsilent.later (Outlets.later_of_withoutReports houtlets)⟩

/-! ### Runs -/

/-- Whether a step is a record of the host. -/
def Step.isHostRecord : Step → Bool
  | .logHost .. => true
  | _ => false

/-- A step that does not redirect the host's logger. -/
def Step.RedirectsNothing (step : Step) : Prop :=
  ∀ stream device, step ≠ .redirectHost stream device

namespace Session

variable {session : Session} {steps : List Step}

/-- **A record of the host** changes nothing where the host's logger is silent, but what is told of
errors. -/
theorem untold_step_logHost_of_muted (h : session.scene.Muted) (level : Value) (message : String)
    (site : CallSite) :
    (session.step (.logHost level message site)).1.untold = session.untold ∧
      (session.step (.logHost level message site)).2.goesOn = true := by
  obtain ⟨host, hhost, hsilent⟩ := h
  rcases hlevel : Level.ofRecord level with fault | n
  · simp only [step, hhost, hlevel]
    exact ⟨trivial, rfl⟩
  · obtain ⟨hsame, houtlets⟩ := HostLogger.log_of_silent hsilent n message site
    simp only [step, hhost, hlevel, afterHost, hsame]
    refine ⟨?_, ?_⟩
    · simp only [untold, Scene.untold, Scene.noteFaults, Option.elim_none, houtlets, ← hhost]
    · split
      · rfl
      · rfl

/-- A silent logger of the host stays so along runs that do not redirect it. -/
theorem muted_final (h : session.scene.Muted) (hsteps : ∀ step ∈ steps, step.RedirectsNothing) :
    (session.final steps).scene.Muted :=
  final_induction (P := fun session => session.scene.Muted)
    (fun _ step hmem hmuted => Scene.invariant_muted.step hmuted (hsteps step hmem)) h

/-- **Runs do the same with and without the records of a silent host**, but for what is told of
errors. Without them less is told. -/
theorem final_filter_of_muted (h : session.scene.Muted)
    (hsteps : ∀ step ∈ steps, step.RedirectsNothing) :
    let silenced := session.final (steps.filter fun step => !step.isHostRecord)
    silenced.untold = (session.final steps).untold ∧
      silenced.scene.told.Within (session.final steps).scene.told := by
  induction steps generalizing session with
  | nil => exact ⟨rfl, .refl _⟩
  | cons step steps ih =>
      obtain ⟨hstep, hrest⟩ := List.forall_mem_cons.mp hsteps
      rcases hrecord : step.isHostRecord with - | -
      · have hnext : (session.step step).1.scene.Muted := Scene.invariant_muted.step h hstep
        rw [List.filter_cons_of_pos (by simp [hrecord])]
        rcases hgoes : (session.step step).2.goesOn with - | -
        · rw [final_cons_of_aborted hgoes, final_cons_of_aborted hgoes]
          exact ⟨rfl, .refl _⟩
        · rw [final_cons hgoes, final_cons hgoes]
          exact ih hnext hrest
      · rw [List.filter_cons_of_neg (by simp [hrecord])]
        cases step with
        | logHost level message site =>
            obtain ⟨hsame, hgoes⟩ := untold_step_logHost_of_muted h level message site
            obtain ⟨huntold, hwithin⟩ := ih h hrest
            obtain ⟨hrest, hmore⟩ := final_of_untold hsame (within_step session _) steps
            rw [final_cons hgoes]
            exact ⟨huntold.trans hrest.symm, hwithin.trans hmore⟩
        | _ => simp [Step.isHostRecord] at hrecord

end Session

/-! ### Configurations -/

namespace Gate

variable {platform : Platform} {gate : Gate} {options : Options}
  {overrides : Table String Value} {scene : Scene} {host : HostLogger} {settings : Settings}

/-- A muting that succeeds is one of the host's own logger: a value in its place is not
redirected. -/
theorem own_of_muteHost {opened muted : Scene} (hsuppress : options.suppressHost.isTrue = true)
    (hmute : gate.muteHost options opened = (muted, none)) : gate.hostLogger = .own := by
  cases hlogger : gate.hostLogger with
  | own => rfl
  | value v => simp [muteHost, hsuppress, hlogger] at hmute

/-- **A configuration that succeeds in muting the host's logger** leaves it silent, and what the
host has set up as it is. -/
theorem silent_configure (hgate : gate.committed = none) (hhost : scene.host = some host)
    (hnull : ∀ handler ∈ host.handlers, handler.kind = .null → handler.target = none)
    (hvalid : gate.validate options overrides = .ok settings)
    (hsuppress : settings.options.suppressHost.isTrue = true)
    (hraised : (gate.configure platform options overrides scene).raised = none) :
    ∃ muted added, (gate.configure platform options overrides scene).scene.host = some muted ∧
      muted.Silent (gate.configure platform options overrides scene).scene.outlets ∧
      muted.setup = (host.setup.1, host.setup.2 ++ added) := by
  have houtcome := outcome_configure hgate platform options overrides scene
  generalize gate.configure platform options overrides scene = attempt at hraised houtcome
  cases houtcome with
  | invalid => simp at hraised
  | unopened => simp at hraised
  | unmuted => simp at hraised
  | @committed found opened muted sink hfound hopen hmute =>
      obtain rfl : settings = found := Except.ok.inj (hvalid.symm.trans hfound)
      have hopened : opened.host = some host := by
        have hlater := later_openSink platform settings.options scene
        rw [hopen] at hlater
        exact hlater.host.trans hhost
      have hown : gate.hostLogger = .own := own_of_muteHost hsuppress hmute
      obtain ⟨houtlets, hmuted, hfault⟩ := muteHost_own hsuppress hown hopened
      rw [hmute] at houtlets hmuted hfault
      have hsilent := HostLogger.silent_setOutput
        (Outlets.discards_openStream opened.outlets)
        (fun handler hmem hkind => .inl ⟨hkind, hnull handler hmem hkind⟩) (.inl hfault.symm)
      obtain ⟨added, hsetup⟩ := host.setup_setOutput (opened.outlets.openStream .discard).1
        (opened.outlets.openStream .discard).2
      have hlater := later_announce settings muted
      refine ⟨_, added, hlater.host.trans hmuted, ?_, hsetup⟩
      refine HostLogger.Silent.later ?_ hlater.outlets
      rw [houtlets]
      exact hsilent

/-- **Muting the host's logger is complete.** Let a configuration succeed that mutes the host's
logger, whatever handlers that has and whatever streams these share. From then on, as long as
nobody redirects the logger, a run leaves the same streams and the same files with and without the
records of the host, and none of them changes any by itself. What differs is told of errors alone: a
template is filled before a line is discarded, and when that fails it is noted and reported on
standard error. Without the records less is told. And the configuration leaves the level of the
logger and the kind, the level and the template of each handler as they were; a handler is added at
most. -/
theorem suppression_complete (hgate : gate.committed = none) (hhost : scene.host = some host)
    (hnull : ∀ handler ∈ host.handlers, handler.kind = .null → handler.target = none)
    (hvalid : gate.validate options overrides = .ok settings)
    (hsuppress : settings.options.suppressHost.isTrue = true)
    (hraised : (gate.configure platform options overrides scene).raised = none)
    {session : Session}
    (hsession : session.scene = (gate.configure platform options overrides scene).scene)
    {steps : List Step} (hsteps : ∀ step ∈ steps, step.RedirectsNothing) :
    let silenced := session.final (steps.filter fun step => !step.isHostRecord)
    let full := session.final steps
    silenced.untold = full.untold ∧
    (∀ handle, silenced.scene.outlets.find? handle = full.scene.outlets.find? handle) ∧
    silenced.scene.outlets.files = full.scene.outlets.files ∧
    silenced.scene.told.Within full.scene.told ∧
    (∀ before level message site after, steps = before ++ .logHost level message site :: after →
      ((session.final before).step (.logHost level message site)).1.untold =
        (session.final before).untold) ∧
    ∃ muted added, session.scene.host = some muted ∧
      muted.setup = (host.setup.1, host.setup.2 ++ added) := by
  intro silenced full
  obtain ⟨muted, added, hthere, hsilent, hsetup⟩ :=
    silent_configure hgate hhost hnull hvalid hsuppress hraised
  rw [← hsession] at hthere hsilent
  have hmuted : session.scene.Muted := ⟨muted, hthere, hsilent⟩
  obtain ⟨huntold, hwithin⟩ := Session.final_filter_of_muted hmuted hsteps
  have houtlets : silenced.scene.outlets.withoutReports = full.scene.outlets.withoutReports :=
    congrArg (fun session : Session => session.scene.outlets) huntold
  refine ⟨huntold, Outlets.find?_congr houtlets, Outlets.files_congr houtlets, hwithin, ?_,
    muted, added, hthere, hsetup⟩
  intro before level message site after hsplit
  have hbefore : (session.final before).scene.Muted :=
    Session.muted_final hmuted fun step hmem =>
      hsteps step (hsplit ▸ List.mem_append_left _ hmem)
  exact (Session.untold_step_logHost_of_muted hbefore level message site).1

/-- A scene where the host's logger has handlers of a stream, of an open file, of a file that
waits for its first record, and of nothing at all, and a parent. -/
def chattering : Scene where
  host := some
    { handlers :=
        [{ kind := .stream, template := some "%(levelname)s %(message)s",
           target := some (.named "s") },
          { kind := .file ["a.log"] (.ofText "/a.log"), level := 20, target := some (.opened 0) },
          { kind := .file ["b.log"] (.ofText "/b.log") },
          { kind := .null }]
      parent := some (.named "p") }
  outlets :=
    { streams :=
        [(.console, ⟨.text "", false⟩), (.named "s", ⟨.text "", false⟩),
          (.named "p", ⟨.text "", false⟩), (.opened 0, ⟨.file ["a.log"] 0, false⟩)]
      files := { files := [(["a.log"], [])] }
      opened := 1 }

/-- The session after a configuration that mutes it. -/
def hushed : Session :=
  ({ gate := { hostLogger := .own }, scene := chattering } : Session).final
    [.configure (some (.fields [("suppress_host_logger", .bool true)])) []]

/-- A warning of the host between two records of a logger that writes to the stream of one of its
handlers. The file that waits for its first record is never made. -/
theorem suppression_complete_of_shared_stream :
    let site : CallSite := { file := "d.py", function := .text "f", line := .int 1 }
    let quiet : List Step := [.attach "s" (.text ""), .log (.print (.text "x") .null) site,
      .log (.print (.text "y") .null) site]
    let steps : List Step := [.attach "s" (.text ""), .log (.print (.text "x") .null) site,
      .logHost (.int 30) "noise" site, .log (.print (.text "y") .null) site]
    let last := (hushed.final steps).scene
    (∀ handle, (hushed.final quiet).scene.outlets.find? handle = last.outlets.find? handle) ∧
      last.outlets.find? (.named "s") = some ⟨.text "INFO\tx\nINFO\ty\n", false⟩ ∧
      last.outlets.find? (.named "p") = some ⟨.text "", false⟩ ∧
      last.outlets.files.content? ["a.log"] = some [] ∧
      last.outlets.files.content? ["b.log"] = none ∧
      hushed.scene.host.map HostLogger.setup = chattering.host.map HostLogger.setup := by
  intro site quiet steps last
  have hsteps : ∀ step ∈ steps, step.RedirectsNothing := by
    simp [steps, Step.RedirectsNothing]
  have hnull : ∀ handler ∈ (chattering.host.getD {}).handlers, handler.kind = .null →
      handler.target = none := by
    decide
  have hraised : (Gate.configure {} { hostLogger := .own } { suppressHost := .bool true } []
      chattering).raised = none := rfl
  have hsession : hushed.scene = (Gate.configure {} { hostLogger := .own }
      { suppressHost := .bool true } [] chattering).scene := rfl
  obtain ⟨-, hstreams, -⟩ := suppression_complete rfl rfl hnull rfl rfl hraised hsession hsteps
  exact ⟨hstreams, by decide +kernel, by decide +kernel, by decide +kernel, by decide +kernel,
    by decide +kernel⟩

/-- The session after a configuration that mutes a host's logger whose template names a field that
no record has. -/
def misspelled : Session :=
  ({ gate := { hostLogger := .own }
     scene :=
      { host := some { handlers :=
          [{ kind := .stream, template := some "%(nope)s", target := some (.named "s") }] } } } :
      Session).final [.configure (some (.fields [("suppress_host_logger", .bool true)])) []]

/-- A record of a muted logger is reported on standard error when its template cannot be filled. -/
theorem muted_record_is_reported :
    let site : CallSite := { file := "d.py", function := .text "f", line := .int 1 }
    let heard := (misspelled.final [.logHost (.int 30) "noise" site]).scene.outlets
    misspelled.gate.committed.isSome = true ∧
      heard.errorText ≠ (misspelled.final []).scene.outlets.errorText ∧
      heard.find? .console = (misspelled.final []).scene.outlets.find? .console := by
  decide +kernel

end Gate

end TraceLog
