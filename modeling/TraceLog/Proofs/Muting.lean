import TraceLog.Proofs.Soundness

/-!
# When Muting Fails

Muting the host's logger is the last thing that a configuration does, and it can fail: a
handler whose old stream is closed cannot flush it. By then the log file has been emptied,
propagation has ended, and the handlers in front of the one that fails have been moved to the
discarding stream. Only the gate is as it was.

`Scene.Intact` says that nothing of that can be seen: the host's logger, the streams and the
files are what they were. `Gate.intact_of_mutingFails_iff` states exactly when a configuration
leaves them so.

## Main results

* `Gate.configure_of_mutingFails`: what a configuration leaves when muting fails.
* `Gate.host_unchanged_iff`, `Gate.files_openSink_iff`, `Gate.intact_iff`: when it leaves the
  host's logger and the files as they were, and when it leaves everything so.
* `Gate.intact_of_mutingFails_iff`: what it leaves, handler by handler, and when that is what
  was there before.
-/

namespace TraceLog

/-- The host's logger, the streams and the files are what they were. -/
structure Scene.Intact (before after : Scene) : Prop where
  host : after.host = before.host
  streams : ∀ handle stream, before.outlets.find? handle = some stream →
    after.outlets.find? handle = some stream
  files : ∀ place, after.outlets.files.content? place = before.outlets.files.content? place

namespace Outlets

variable {outlets outlets' : Outlets}

/-- A stream that is there does not stand under a number that was not handed out. -/
theorem Fresh.ne_opened (h : outlets.Fresh) {handle : Handle}
    (hknown : (outlets.find? handle).isSome) : handle ≠ .opened outlets.opened := by
  rintro rfl
  rw [h _ (Nat.le_refl _)] at hknown
  simp at hknown

/-- Opening a stream leaves the streams that are there alone. -/
theorem Fresh.find?_openStream (h : outlets.Fresh) (device : Device) {handle : Handle}
    (hknown : (outlets.find? handle).isSome) :
    (outlets.openStream device).2.find? handle = outlets.find? handle := by
  rw [Outlets.find?_openStream, if_neg (h.ne_opened hknown)]

/-- Opening a file leaves the streams that are there alone. -/
theorem Fresh.find?_openFile (h : outlets.Fresh) {place : Place} {opened : Handle}
    (hopen : outlets.openFile place = .ok (opened, outlets')) {handle : Handle}
    (hknown : (outlets.find? handle).isSome) :
    outlets'.find? handle = outlets.find? handle := by
  rw [Outlets.find?_openFile hopen, if_neg (h.ne_opened hknown)]

end Outlets

namespace Gate

variable {platform : Platform} {gate : Gate} {options : Options}
  {overrides : Table String Value} {scene : Scene} {host : HostLogger}

/-! ### The first sink -/

/-- Opening the first sink leaves the streams that are there alone. -/
theorem find?_openSink (h : scene.outlets.Fresh) (platform : Platform) (options : Options)
    {handle : Handle} (hknown : (scene.outlets.find? handle).isSome) :
    (openSink platform options scene).1.outlets.find? handle = scene.outlets.find? handle := by
  have hopening := opening_openSink platform options scene
  generalize openSink platform options scene = outcome at hopening
  obtain ⟨opened, sink⟩ := outcome
  cases hopening with
  | console => rfl
  | refused => rfl
  | unopened => rfl
  | refusedLate _ _ hopen _ => exact h.find?_openFile hopen hknown
  | file _ _ hopen _ => exact h.find?_openFile hopen hknown

/-- A first sink that opens leaves the files as they were exactly when no file was asked for,
or when the file was there and empty. -/
theorem files_openSink_iff {opened : Scene} {sink : Sink}
    (h : openSink platform options scene = (opened, .ok sink)) :
    (∀ place, opened.outlets.files.content? place = scene.outlets.files.content? place) ↔
      ∀ path, options.filePath = some path →
        scene.outlets.files.content? (path.absolute platform.directory).parts = some [] := by
  have hopening := opening_openSink platform options scene
  rw [h] at hopening
  cases hopening with
  | console hnone => simp [hnone]
  | file hpath _ hopen _ =>
      have hfiles := Outlets.content?_openFile hopen
      constructor
      · intro hsame path' hpath'
        obtain rfl := Option.some.inj (hpath.symm.trans hpath')
        rw [← hsame]
        exact (hfiles _).trans (if_pos rfl)
      · intro hempty place
        refine (hfiles place).trans ?_
        split
        · next hplace => rw [hplace, hempty _ hpath]
        · rfl

/-! ### What is left behind -/

/-- When muting the host's own logger fails, the gate is as it was; the scene is the one with
the first sink open and the redirection carried through as far as it got. -/
theorem configure_of_mutingFails (hgate : gate.committed = none) (hown : gate.hostLogger = .own)
    (hhost : scene.host = some host)
    (h : MutingFails platform gate options overrides scene) :
    ∃ settings opened sink fault,
      gate.validate options overrides = .ok settings ∧
      openSink platform settings.options scene = (opened, .ok sink) ∧
      let delivery := (host.setOutput (.opened opened.outlets.opened)
        (opened.outlets.openStream .discard).2).1
      delivery.raised = some fault ∧
      (gate.configure platform options overrides scene).gate = gate ∧
      (gate.configure platform options overrides scene).raised = some fault ∧
      (gate.configure platform options overrides scene).scene.host = some delivery.host ∧
      (gate.configure platform options overrides scene).scene.outlets = delivery.outlets := by
  obtain ⟨settings, opened, sink, muted, fault, hvalid, hopen, hmute⟩ := h
  have hopened : opened.host = some host := by
    obtain ⟨-, hsame⟩ := later_openSink platform settings.options scene
    rw [hopen, hhost] at hsame
    exact hsame
  have hsuppress : settings.options.suppressHost.isTrue = true := by
    rcases htrue : settings.options.suppressHost.isTrue with - | -
    · simp [muteHost, htrue] at hmute
    · rfl
  obtain ⟨houtlets, hmuted, hraised⟩ := muteHost_own hsuppress hown hopened
  rw [hmute] at houtlets hmuted hraised
  have hconfigure : gate.configure platform options overrides scene =
      { gate, scene := muted, raised := some fault } := by
    simp only [configure, hgate, hvalid, hopen, hmute]
  rw [hconfigure]
  exact ⟨settings, opened, sink, fault, hvalid, hopen, hraised.symm, rfl, rfl, hmuted, houtlets⟩

/-- The first sink and the new stream leave the streams that are there alone. -/
theorem find?_discard (hsound : scene.Sound) {options : Options} {opened : Scene}
    {outcome : Except Fault Sink}
    (hopen : openSink platform options scene = (opened, outcome)) {handle : Handle}
    (hknown : (scene.outlets.find? handle).isSome) :
    (opened.outlets.openStream .discard).2.find? handle = scene.outlets.find? handle := by
  obtain ⟨hlater, -⟩ := later_openSink platform options scene
  have hsame := find?_openSink hsound.fresh platform options hknown
  rw [hopen] at hlater hsame
  rw [(hlater.fresh hsound.fresh).find?_openStream .discard (hlater.known handle hknown), hsame]

/-- The new stream is that of no handler. -/
theorem ne_discard (hsound : scene.Sound) {options : Options} {opened : Scene}
    {outcome : Except Fault Sink}
    (hopen : openSink platform options scene = (opened, outcome)) {handle : Handle}
    (hknown : (scene.outlets.find? handle).isSome) :
    handle ≠ .opened opened.outlets.opened := by
  obtain ⟨hlater, -⟩ := later_openSink platform options scene
  rw [hopen] at hlater
  exact (hlater.fresh hsound.fresh).ne_opened (hlater.known handle hknown)

/-- When muting fails, the first handler of a stream or a file is the one that fails, and
propagation had ended before, exactly when the host's logger is what it was. -/
theorem host_unchanged_iff (hsound : scene.Sound) (hhost : scene.host = some host)
    {options : Options} {opened : Scene} {outcome : Except Fault Sink}
    (hopen : openSink platform options scene = (opened, outcome)) {fault : Fault}
    (hraised : (host.setOutput (.opened opened.outlets.opened)
      (opened.outlets.openStream .discard).2).1.raised = some fault) :
    (host.setOutput (.opened opened.outlets.opened)
        (opened.outlets.openStream .discard).2).1.host = host ↔
      host.propagate = false ∧
      ∃ stuck old, host.handlers.find? HostHandler.isStreamHandler = some stuck ∧
        stuck.target = some old ∧ (scene.outlets.flush? old).isSome := by
  have hflushes : ∀ {handle : Handle}, (scene.outlets.find? handle).isSome →
      (opened.outlets.openStream .discard).2.flush? handle = scene.outlets.flush? handle := by
    intro handle hknown
    rw [Outlets.flush?, find?_discard hsound hopen hknown, Outlets.flush?]
  have hknown := hsound.known host hhost
  constructor
  · intro hsame
    obtain ⟨front, stuck, back, old, cause, hhandlers, hstuck, htarget, hold, hflush, -, hset⟩ :=
      HostLogger.setOutput_failed hraised
    rw [hset] at hsame
    have hmoved : front.map (HostHandler.movedTo (.opened opened.outlets.opened)) ++
        stuck :: back = front ++ stuck :: back := by
      rw [← hhandlers]
      exact congrArg HostLogger.handlers hsame
    have hfresh : ∀ handler ∈ front,
        handler.target ≠ some (.opened opened.outlets.opened) := by
      intro handler hmem htarget'
      have hmem' : handler ∈ host.handlers := by
        rw [hhandlers]
        exact List.mem_append_left _ hmem
      exact ne_discard hsound hopen (hknown handler hmem' _ htarget') rfl
    have hnull := HostHandler.all_null_of_map_movedTo hfresh (List.append_cancel_right hmoved)
    have hnone : front.find? HostHandler.isStreamHandler = none :=
      List.find?_eq_none.mpr fun handler hmem => by simp [hnull handler hmem]
    have hunmoved : front.foldl (HostHandler.leave (.opened opened.outlets.opened))
        (opened.outlets.openStream .discard).2 = (opened.outlets.openStream .discard).2 :=
      HostLogger.foldl_leave_of_null hnull _ _
    have hmem : stuck ∈ host.handlers := by
      rw [hhandlers]
      exact List.mem_append_right _ List.mem_cons_self
    refine ⟨(congrArg HostLogger.propagate hsame).symm, stuck, old, ?_, htarget, ?_⟩
    · rw [hhandlers, List.find?_append, hnone, Option.none_or, List.find?_cons_of_pos hstuck]
    · rw [hunmoved, hflushes (hknown stuck hmem old htarget)] at hflush
      rw [hflush]
      rfl
  · rintro ⟨hpropagate, stuck, old, hfirst, htarget, hflush⟩
    obtain ⟨cause, hcause⟩ := Option.isSome_iff_exists.mp hflush
    have hold := hknown stuck (List.mem_of_find?_eq_some hfirst) old htarget
    rw [HostLogger.setOutput_of_first_stuck hfirst htarget (ne_discard hsound hopen hold)
      ((hflushes hold).trans hcause), ← hpropagate]

/-- A redirection changes no file, whether it fails or not. -/
theorem files_setOutput (host : HostLogger) (handle : Handle) (outlets : Outlets) :
    (host.setOutput handle outlets).1.outlets.files = outlets.files := by
  rcases hraised : (host.setOutput handle outlets).1.raised with - | fault
  · obtain ⟨-, ⟨-, -, houtlets⟩ | ⟨-, -, houtlets⟩⟩ := HostLogger.setOutput_ok hraised
    · rw [houtlets]
    · rw [houtlets, HostLogger.files_foldl_leave]
  · obtain ⟨front, stuck, back, old, cause, -, -, -, -, -, -, hset⟩ :=
      HostLogger.setOutput_failed hraised
    rw [hset]
    exact HostLogger.files_foldl_leave _ front outlets

/-- What is left behind when muting fails is what was there before exactly when the host's logger
is what it was, and so are the files. -/
theorem intact_iff (hsound : scene.Sound) (hhost : scene.host = some host) {options : Options}
    {opened muted : Scene} {sink : Sink}
    (hopen : openSink platform options scene = (opened, .ok sink)) {fault : Fault}
    (hraised : (host.setOutput (.opened opened.outlets.opened)
      (opened.outlets.openStream .discard).2).1.raised = some fault)
    (hmuted : muted.host = some (host.setOutput (.opened opened.outlets.opened)
      (opened.outlets.openStream .discard).2).1.host)
    (houtlets : muted.outlets = (host.setOutput (.opened opened.outlets.opened)
      (opened.outlets.openStream .discard).2).1.outlets) :
    scene.Intact muted ↔
      host.propagate = false ∧
      (∃ stuck old, host.handlers.find? HostHandler.isStreamHandler = some stuck ∧
        stuck.target = some old ∧ (scene.outlets.flush? old).isSome) ∧
      ∀ path, options.filePath = some path →
        scene.outlets.files.content? (path.absolute platform.directory).parts = some [] := by
  have hhostIff := host_unchanged_iff hsound hhost hopen hraised
  have hfilesIff := files_openSink_iff hopen
  have hfiles : ∀ place, muted.outlets.files.content? place =
      opened.outlets.files.content? place := by
    intro place
    rw [houtlets, files_setOutput, Outlets.files_openStream]
  constructor
  · intro hintact
    have hdelivered := hintact.host
    rw [hmuted, hhost] at hdelivered
    obtain ⟨hpropagate, hfirst⟩ := hhostIff.mp (Option.some.inj hdelivered)
    exact ⟨hpropagate, hfirst,
      hfilesIff.mp fun place => (hfiles place).symm.trans (hintact.files place)⟩
  · rintro ⟨hpropagate, hfirst, hempty⟩
    refine ⟨?_, ?_, fun place => ?_⟩
    · rw [hmuted, hhost, hhostIff.mpr ⟨hpropagate, hfirst⟩]
    · obtain ⟨stuck, old, hstuck, htarget, hflush⟩ := hfirst
      obtain ⟨cause, hcause⟩ := Option.isSome_iff_exists.mp hflush
      have hold := hsound.known host hhost stuck (List.mem_of_find?_eq_some hstuck) old htarget
      have hflushed : (opened.outlets.openStream .discard).2.flush? old = some cause := by
        rw [Outlets.flush?, find?_discard hsound hopen hold]
        exact hcause
      intro handle stream hstream
      rw [houtlets, HostLogger.setOutput_of_first_stuck hstuck htarget
        (ne_discard hsound hopen hold) hflushed]
      exact (find?_discard hsound hopen (by rw [hstream]; rfl)).trans hstream
    · rw [hfiles]
      exact hfilesIff.mpr hempty place

/-- **A configuration is not undone when muting fails.** The gate has no logger afterwards, as
before. But propagation has ended, the handlers in front of the first one that could not be
flushed are at the discarding stream, and the log file, if one was asked for, is empty.

The host's logger, the streams and the files are what they were exactly when propagation had
ended before, the first handler of a stream or a file is the one whose stream cannot be flushed,
and the log file was there and empty or none was asked for. -/
theorem intact_of_mutingFails_iff (hgate : gate.committed = none)
    (hown : gate.hostLogger = .own) (hhost : scene.host = some host) (hsound : scene.Sound)
    (hfails : MutingFails platform gate options overrides scene) :
    let attempt := gate.configure platform options overrides scene
    attempt.gate = gate ∧
    (∃ discard front stuck back old cause,
      host.handlers = front ++ stuck :: back ∧ stuck.isStreamHandler = true ∧
      stuck.target = some old ∧ attempt.scene.outlets.flush? old = some cause ∧
      attempt.raised = some (.stream cause) ∧
      attempt.scene.host = some { host with
        handlers := front.map (HostHandler.movedTo discard) ++ stuck :: back
        propagate := false }) ∧
    (∀ settings path, gate.validate options overrides = .ok settings →
      settings.options.filePath = some path →
      attempt.scene.outlets.files.content? (path.absolute platform.directory).parts =
        some []) ∧
    (scene.Intact attempt.scene ↔
      host.propagate = false ∧
      (∃ stuck old, host.handlers.find? HostHandler.isStreamHandler = some stuck ∧
        stuck.target = some old ∧ (scene.outlets.flush? old).isSome) ∧
      ∀ settings path, gate.validate options overrides = .ok settings →
        settings.options.filePath = some path →
        scene.outlets.files.content? (path.absolute platform.directory).parts = some []) := by
  intro attempt
  obtain ⟨settings, opened, sink, fault, hvalid, hopen, hraised, hsame, hfault, hmuted,
    houtlets⟩ := configure_of_mutingFails hgate hown hhost hfails
  have hsettings : ∀ {other : Settings}, gate.validate options overrides = .ok other →
      settings = other := fun hother => Except.ok.inj (hvalid.symm.trans hother)
  refine ⟨hsame, ?_, ?_, ?_⟩
  · obtain ⟨front, stuck, back, old, cause, hhandlers, hstuck, htarget, -, hflush, rfl, hset⟩ :=
      HostLogger.setOutput_failed hraised
    refine ⟨.opened opened.outlets.opened, front, stuck, back, old, cause, hhandlers, hstuck,
      htarget, ?_, hfault, ?_⟩
    · rw [houtlets, hset]
      exact hflush
    · rw [hmuted, hset]
  · intro other path hother hpath
    obtain rfl := hsettings hother
    rw [houtlets, files_setOutput, Outlets.files_openStream]
    have hopening := opening_openSink platform settings.options scene
    rw [hopen] at hopening
    cases hopening with
    | console hnone => simp [hnone] at hpath
    | file hpath' _ hfile _ =>
        obtain rfl := Option.some.inj (hpath'.symm.trans hpath)
        exact (Outlets.content?_openFile hfile _).trans (if_pos rfl)
  · rw [intact_iff hsound hhost hopen hraised hmuted houtlets]
    constructor
    · rintro ⟨hpropagate, hfirst, hempty⟩
      refine ⟨hpropagate, hfirst, fun other path hother => ?_⟩
      obtain rfl := hsettings hother
      exact hempty path
    · rintro ⟨hpropagate, hfirst, hempty⟩
      exact ⟨hpropagate, hfirst, fun path => hempty settings path hvalid⟩

/-- A scene with a log file, and a host's logger with two handlers. The stream of the second one
is closed. -/
def closedBehind : Scene where
  host := some { handlers :=
    [{ kind := .stream, target := some (.named "a") },
      { kind := .stream, target := some (.named "b") }] }
  outlets :=
    { streams :=
        [(.console, ⟨.text "", false⟩), (.named "a", ⟨.text "", false⟩),
          (.named "b", ⟨.crlf [], true⟩)]
      files := { files := [(["out.log"], [0x6F])] } }

/-- Options with the log file and with the host's logger muted. -/
def muting : Options :=
  { filePath := some (.ofText "out.log"), suppressHost := .bool true }

/-- The scene is sound. -/
theorem sound_closedBehind : closedBehind.Sound := by
  refine ⟨fun number _ => ?_, fun host hhost => ?_⟩
  · simp [closedBehind, Outlets.find?, Table.find?]
  · obtain rfl := Option.some.inj hhost
    intro handler hmem handle htarget
    rcases List.mem_cons.mp hmem with rfl | hmem
    · obtain rfl := Option.some.inj htarget
      rfl
    · obtain rfl := List.mem_singleton.mp hmem
      obtain rfl := Option.some.inj htarget
      rfl

/-- Muting fails at the second handler, and what was done before is not undone. -/
theorem not_intact_closedBehind :
    MutingFails {} { hostLogger := .own } muting [] closedBehind ∧
      ¬ closedBehind.Intact
        (Gate.configure {} { hostLogger := .own } muting [] closedBehind).scene := by
  have hfails : MutingFails {} { hostLogger := .own } muting [] closedBehind :=
    ⟨_, _, _, _, _, rfl, rfl, rfl⟩
  refine ⟨hfails, fun hintact => ?_⟩
  obtain ⟨-, -, -, hiff⟩ := intact_of_mutingFails_iff rfl rfl rfl sound_closedBehind hfails
  obtain ⟨hpropagate, -⟩ := hiff.mp hintact
  simp at hpropagate

/-- Muting fails, and the gate has no logger. But propagation has ended, the handler in front is
at the discarding stream, and the content of the log file is lost. -/
theorem host_changed_by_failed_muting :
    (Gate.configure {} { hostLogger := .own } muting [] closedBehind).raised =
        some (.stream (.closed true)) ∧
      (Gate.configure {} { hostLogger := .own } muting [] closedBehind).gate.committed.isSome =
        false ∧
      closedBehind.host.map HostLogger.propagate = some true ∧
      (Gate.configure {} { hostLogger := .own } muting [] closedBehind).scene.host.map
        HostLogger.propagate = some false ∧
      (Gate.configure {} { hostLogger := .own } muting [] closedBehind).scene.host.map
          (fun host => host.handlers.map HostHandler.target) =
        some [some (.opened 1), some (.named "b")] ∧
      closedBehind.outlets.files.content? ["out.log"] = some [0x6F] ∧
      (Gate.configure {} { hostLogger := .own } muting [] closedBehind).scene.outlets.files.content?
        ["out.log"] = some [] :=
  ⟨rfl, rfl, rfl, rfl, rfl, rfl, rfl⟩

end Gate

end TraceLog
