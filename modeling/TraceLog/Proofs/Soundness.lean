import TraceLog.Proofs.Handles
import TraceLog.Proofs.Run

/-!
# Sessions Stay Sound

A scene is sound when the numbers that were not handed out are free and the handlers of the
host's logger that point to streams point to streams that are there. Whatever a configuration
does keeps this, whether it succeeds or not, and so does every other step of a session.

That it does is said once for all properties of scenes (`Scene.Invariant`): a property is kept by
configurations and by every step that does not redirect the host's logger, when it is kept as the
outlets go on, by muting, and by records of the host.

## Main results

* `Scene.Sound`: the property.
* `Gate.muteHost_own`: muting the host's logger is a redirection to a new stream.
* `Scene.Invariant.configure`, `Scene.Invariant.step`: what configurations and steps keep.
* `Session.sound_step`, `Session.sound_final`: sessions stay sound.
-/

namespace TraceLog

/-! ### Scenes -/

/-- Numbers that were not handed out are free, and the handlers of the host's logger that point
to streams point to streams that are there. -/
structure Scene.Sound (scene : Scene) : Prop where
  fresh : scene.outlets.Fresh
  known : ∀ host, scene.host = some host → HostHandler.AllKnown host.handlers scene.outlets

/-- A scene stays sound when its outlets go on and the host's logger is left alone. -/
theorem Scene.Sound.later {scene scene' : Scene} (h : scene.Sound) (hlater : scene.Later scene') :
    scene'.Sound :=
  ⟨hlater.outlets.fresh h.fresh, fun host hsome =>
    (h.known host (hlater.host.symm.trans hsome)).later hlater.outlets⟩

/-- A scene stays sound when its outlets go on and the host's logger keeps its streams. -/
theorem Scene.Sound.redirected {scene scene' : Scene} {host host' : HostLogger} (h : scene.Sound)
    (hhost : scene.host = some host) (hlater : scene.outlets.Later scene'.outlets)
    (hhost' : scene'.host = some host')
    (hknown : HostHandler.AllKnown host.handlers scene.outlets →
      HostHandler.AllKnown host'.handlers scene'.outlets) : scene'.Sound := by
  refine ⟨hlater.fresh h.fresh, fun other hother => ?_⟩
  obtain rfl : host' = other := Option.some.inj (hhost'.symm.trans hother)
  exact hknown (h.known host hhost)

namespace Gate

variable {platform : Platform} {gate : Gate} {options : Options}
  {overrides : Table String Value} {scene : Scene}

/-- Opening the first sink leaves the host's logger alone. -/
theorem later_openSink (platform : Platform) (options : Options) (scene : Scene) :
    scene.Later (openSink platform options scene).1 := by
  have hopening := opening_openSink platform options scene
  generalize openSink platform options scene = outcome at hopening
  obtain ⟨opened, sink⟩ := outcome
  cases hopening with
  | console => exact ⟨.refl _, rfl⟩
  | refused => exact ⟨.refl _, rfl⟩
  | unopened => exact ⟨.refl _, rfl⟩
  | refusedLate _ _ hopen _ => exact ⟨Outlets.later_openFile hopen, rfl⟩
  | file _ _ hopen _ => exact ⟨Outlets.later_openFile hopen, rfl⟩

/-- The report of a logger leaves the host's logger alone. -/
theorem later_announce (settings : Settings) (scene : Scene) :
    scene.Later (announce settings scene).1 := by
  rcases hname : Level.name settings.threshold with fault | levelName
  · simp only [announce, hname]
    exact .refl scene
  · simp only [announce, hname]
    exact ⟨.refl _, rfl⟩

/-- Muting the host's own logger redirects it to a new stream that discards everything. -/
theorem muteHost_own {host : HostLogger} (hsuppress : options.suppressHost.isTrue = true)
    (hown : gate.hostLogger = .own) (hhost : scene.host = some host) :
    let opened := scene.outlets.openStream .discard
    let delivery := (host.setOutput opened.1 opened.2).1
    (gate.muteHost options scene).1.outlets = delivery.outlets ∧
      (gate.muteHost options scene).1.host = some delivery.host ∧
      (gate.muteHost options scene).2 = delivery.raised := by
  rcases hopen : scene.outlets.openStream .discard with ⟨handle, opened⟩
  rcases hset : host.setOutput handle opened with ⟨delivery, notice⟩
  simp only [muteHost, hsuppress, hown, hhost, hopen, hset]
  rcases hraised : delivery.raised with - | fault
  · cases notice with
    | none => exact ⟨rfl, rfl, rfl⟩
    | some notice => exact ⟨rfl, rfl, rfl⟩
  · cases notice with
    | none => exact ⟨rfl, rfl, rfl⟩
    | some notice => exact ⟨rfl, rfl, rfl⟩

/-- Without the host's own logger, or when that is not to be muted, muting changes nothing. -/
theorem fst_muteHost_of_not_own
    (h : ¬ (options.suppressHost.isTrue = true ∧ gate.hostLogger = .own ∧ scene.host.isSome)) :
    (gate.muteHost options scene).1 = scene := by
  rw [muteHost]
  split
  · rfl
  · next hsuppress hown hhost => exact absurd ⟨hsuppress, hown, by rw [hhost]; rfl⟩ h
  · rfl

/-- Muting the host's logger keeps a scene sound. -/
theorem sound_muteHost (gate : Gate) (options : Options) (h : scene.Sound) :
    (gate.muteHost options scene).1.Sound := by
  by_cases hmute : options.suppressHost.isTrue = true ∧ gate.hostLogger = .own ∧
    scene.host.isSome
  · obtain ⟨hsuppress, hown, hsome⟩ := hmute
    obtain ⟨host, hhost⟩ := Option.isSome_iff_exists.mp hsome
    obtain ⟨houtlets, hmuted, -⟩ := muteHost_own hsuppress hown hhost
    have hhandle : ((scene.outlets.openStream .discard).2.find?
        (scene.outlets.openStream .discard).1).isSome := by
      rw [Outlets.find?_openStream, Outlets.fst_openStream, if_pos rfl]
      rfl
    obtain ⟨hlater, hknown⟩ := HostLogger.later_setOutput host hhandle
    have hopened := Outlets.later_openStream scene.outlets .discard
    refine h.redirected hhost ?_ hmuted fun hall => ?_
    · rw [houtlets]
      exact hopened.trans hlater
    · rw [houtlets]
      exact hknown (hall.later hopened)
  · rw [fst_muteHost_of_not_own hmute]
    exact h

end Gate

/-! ### Invariants -/

/-- A property of scenes that goes on when the outlets do and the host's logger is left alone, when
the host's logger is muted, and when it is given a record. -/
structure Scene.Invariant (P : Scene → Prop) : Prop where
  later : ∀ {scene scene' : Scene}, P scene → scene.Later scene' → P scene'
  muted : ∀ (gate : Gate) (options : Options) {scene : Scene}, P scene →
    P (gate.muteHost options scene).1
  logged : ∀ {scene : Scene} {host : HostLogger} (level : Int) (message : String)
    (site : CallSite), P scene → scene.host = some host →
    P { scene with
      host := some (host.log level message site scene.outlets).host
      outlets := (host.log level message site scene.outlets).outlets }

namespace Scene.Invariant

variable {P : Scene → Prop} {scene : Scene} {session : Session}

/-- An invariant holds behind an announcement. -/
theorem announce (hP : Invariant P) (h : P scene) (settings : Settings) :
    P (Gate.announce settings scene).1 :=
  hP.later h (Gate.later_announce settings scene)

/-- A configuration keeps an invariant, however it ends. -/
theorem configure (hP : Invariant P) (h : P scene) (platform : Platform) (gate : Gate)
    (options : Options) (overrides : Table String Value) :
    P (gate.configure platform options overrides scene).scene := by
  rcases hcommitted : gate.committed with - | logger
  · have houtcome := Gate.outcome_configure hcommitted platform options overrides scene
    generalize gate.configure platform options overrides scene = attempt at houtcome
    have hsink : ∀ {settings : Settings} {opened : Scene} {outcome : Except Fault Sink},
        Gate.openSink platform settings.options scene = (opened, outcome) → P opened := by
      intro settings opened outcome hopen
      have hlater := Gate.later_openSink platform settings.options scene
      rw [hopen] at hlater
      exact hP.later h hlater
    have hmute : ∀ {settings : Settings} {opened muted : Scene} {raised : Option Fault},
        P opened → gate.muteHost settings.options opened = (muted, raised) → P muted := by
      intro settings opened muted raised hopened hmuted
      have hnext := hP.muted gate settings.options hopened
      rwa [hmuted] at hnext
    cases houtcome with
    | invalid => exact h
    | unopened _ hopen => exact hsink hopen
    | unmuted _ hopen hmuted => exact hmute (hsink hopen) hmuted
    | committed _ hopen hmuted => exact hP.announce (hmute (hsink hopen) hmuted) _
  · rw [Gate.configure_eq_of_committed hcommitted]
    exact hP.later h ⟨.refl _, rfl⟩

/-- An invocation keeps an invariant. -/
theorem invoke (hP : Invariant P) (h : P scene) (platform : Platform) (gate : Gate)
    (call : Invocation) : P (gate.invoke platform call scene).scene := by
  simp only [Gate.invoke]
  split
  · exact h
  · split
    · exact h
    · exact hP.configure h platform gate _ _

/-- An invariant holds behind an invocation of the gate of the process. -/
theorem invokeProcess (hP : Invariant P) (h : P scene) (platform : Platform) (gate : Option Gate)
    (passed : Passed) (call : Invocation) :
    P (ProcessGate.invoke platform gate passed call scene).scene := by
  simp only [ProcessGate.invoke]
  split
  · exact h
  · split
    · exact h
    · exact hP.invoke h platform _ _

/-- An invariant holds behind a move of the clock. -/
theorem moveClock (hP : Invariant P) (h : P session.scene) (name : String)
    (move : Clock → Except Fault Clock) (answer : Clock → Answer) :
    P (session.moveClock name move answer).1.scene := by
  simp only [Session.moveClock]
  split
  · exact h
  · split
    · exact h
    · exact hP.later h ⟨.refl _, rfl⟩

/-- An invariant holds when a stream was made. -/
theorem ensure (hP : Invariant P) (h : P session.scene) (stream : String) (device : Device) :
    P (session.ensure stream device).scene :=
  hP.later h ⟨Outlets.later_ensure _ _ _, rfl⟩

/-- What is noted behind a call on the host's logger leaves an invariant alone. -/
theorem afterHost (hP : Invariant P) {delivery : HostDelivery}
    (h : P { session.scene with host := some delivery.host, outlets := delivery.outlets })
    (notice : Option Notice) : P (session.afterHost delivery notice).1.scene := by
  cases notice with
  | none => exact hP.later h ⟨.refl _, rfl⟩
  | some notice => exact hP.later h ⟨.refl _, rfl⟩

/-- **A step that does not redirect the host's logger** keeps an invariant. -/
theorem step (hP : Invariant P) (h : P session.scene) {step : Step}
    (hstep : ∀ stream device, step ≠ .redirectHost stream device) :
    P (session.step step).1.scene := by
  cases step with
  | configure source named =>
      rcases hload : Invocation.load source named with fault | call
      · rw [Session.step_configure_of_error hload]
        exact h
      · rw [Session.step_configure hload, Session.scene_finish]
        exact hP.invoke h session.platform session.gate call
  | configureProcess source named passClock passHost =>
      rcases hload : Invocation.load source named with fault | call
      · simp only [Session.step, hload]
        exact h
      · simp only [Session.step, hload, Session.scene_finish]
        exact hP.invokeProcess h session.platform session.processGate _ call
  | current => exact h
  | currentOfProcess => exact h
  | isConfigured => exact h
  | inspect => rwa [Session.fst_step_inspect]
  | log call site =>
      rcases hlogger : session.logger with fault | logger
      · simp only [Session.step, hlogger]
        exact h
      · simp only [Session.step, hlogger, Session.scene_setLogger]
        exact hP.later h (logger.later_call session.platform site session.scene call)
  | attach stream device =>
      rcases hlogger : session.logger with fault | logger
      · simp only [Session.step, hlogger]
        exact h
      · simp only [Session.step, hlogger, Session.scene_setLogger]
        exact hP.ensure h stream device
  | clockText =>
      rcases hlogger : session.logger with fault | logger
      · simp only [Session.step, hlogger]
        exact h
      · simp only [Session.step, hlogger, Logger.clockText]
        exact hP.later h (session.scene.later_setClockFor logger.clock _)
  | setClock value => exact hP.moveClock h _ _ _
  | advanceClock delta => exact hP.moveClock h _ _ _
  | close stream =>
      exact hP.later (hP.ensure h stream (.text "")) ⟨Outlets.later_close _ _, rfl⟩
  | discard text => exact h
  | logHost level message site =>
      rcases hhost : session.scene.host with - | host
      · simp only [Session.step, hhost]
        exact h
      · rcases hlevel : Level.ofRecord level with fault | n
        · simp only [Session.step, hhost, hlevel]
          exact h
        · simp only [Session.step, hhost, hlevel]
          exact hP.afterHost (hP.logged n message site h hhost) none
  | redirectHost stream device => exact absurd rfl (hstep stream device)
  | inspectHost => rwa [Session.fst_step_inspectHost]

end Scene.Invariant

/-! ### Sound scenes -/

/-- To be sound is an invariant. -/
theorem Scene.invariant_sound : Scene.Invariant Scene.Sound where
  later h hlater := h.later hlater
  muted gate options _ h := gate.sound_muteHost options h
  logged level message site h hhost := by
    obtain ⟨hlater, hknown⟩ := HostLogger.later_log _ level message site _
    exact h.redirected hhost hlater rfl hknown

namespace Session

variable {session : Session}

/-- Every step of a session leaves its scene sound. -/
theorem sound_step (h : session.scene.Sound) (step : Step) :
    (session.step step).1.scene.Sound := by
  cases step with
  | redirectHost stream device =>
      have hensured : (session.ensure stream device).scene.Sound :=
        Scene.invariant_sound.ensure h stream device
      simp only [Session.step]
      split
      · exact hensured
      · next host hhost =>
        obtain ⟨hlater, hknown⟩ :=
          HostLogger.later_setOutput host (Outlets.known_ensure _ stream device)
        refine Scene.invariant_sound.afterHost ?_ _
        exact hensured.redirected hhost hlater rfl hknown
  | _ => exact Scene.invariant_sound.step h (by simp)

/-- Every run of a session leaves its scene sound. -/
theorem sound_final (h : session.scene.Sound) (steps : List Step) :
    (session.final steps).scene.Sound :=
  final_induction (P := fun session => session.scene.Sound)
    (fun _ step _ hsound => sound_step hsound step) h

end Session

end TraceLog
