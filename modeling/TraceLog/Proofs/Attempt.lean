import TraceLog.Invocation
import TraceLog.Proofs.Digits

/-!
# What a Configuration Can Do

A configuration of a gate without a logger has four endings, and `Gate.Outcome` lists them:
the options are refused, the first sink does not open, muting the host's logger fails, or a
logger is committed. Opening the first sink has five endings of its own, listed by
`Gate.Opening`. Everything else in this library that is said about configurations goes through
these two relations and unfolds no definition of the gate again.

Two of the endings leave something behind. A fault of muting comes when the log file is open
and some handlers of the host may have been moved (`Gate.MutingFails`), and a zero character
that is found only in the path as it was given comes when the file is open
(`Gate.RefusedLate`). A configuration that raises in any other way leaves everything as it was.

The commit itself raises a fault only for a threshold that is too long to be written. With
options that give a short level, a configuration has therefore succeeded exactly when it has
raised nothing.

## Main results

* `Gate.outcome_configure`: every configuration of an unconfigured gate has one of the endings.
* `Gate.invoke_of_unconfigured`, `Gate.invoke_of_committed`: an invocation is a
  configuration with the arguments that it stands for, or leaves a gate with a logger alone.
* `Gate.isShort_of_validate`: the threshold of sound options is short.
* `Gate.committed_of_raised_eq_none`, `Gate.gate_eq_of_raised`: success is commitment.
* `Gate.configure_eq_of_raised`, `Gate.configure_of_refusedLate`: what a configuration that
  raises leaves behind.
-/

namespace TraceLog

/-! ### Outcomes -/

/-- A computation in two parts succeeds when both of them do. -/
theorem bind_eq_ok {ε α β : Type} {x : Except ε α} {f : α → Except ε β} {b : β} :
    x >>= f = .ok b ↔ ∃ a, x = .ok a ∧ f a = .ok b := by
  rcases x with e | a
  · simp [bind, Except.bind]
  · simp [bind, Except.bind]

/-- What is made of a result is made of one that there is. -/
theorem map_eq_ok {ε α β : Type} {x : Except ε α} {f : α → β} {b : β} :
    x.map f = .ok b ↔ ∃ a, x = .ok a ∧ f a = b := by
  rcases x with e | a
  · simp [Except.map]
  · simp [Except.map]

/-- A fault stays one whatever is made of results. -/
theorem map_eq_error {ε α β : Type} {x : Except ε α} {f : α → β} {e : ε} :
    x.map f = .error e ↔ x = .error e := by
  rcases x with e' | a
  · simp [Except.map]
  · simp [Except.map]

/-- The fault of an outcome, if it is one. -/
def faultOf? {α : Type} : Except Fault α → Option Fault
  | .ok _ => none
  | .error fault => some fault

/-! ### Options with short levels -/

/-- Options whose level, if it is an integer, is a short one. -/
def Options.HasShortLevel (options : Options) : Prop :=
  options.level.IsShortLevel

/-- Fields whose levels, as far as they are integers, are short ones. -/
def Options.GiveShortLevels (fields : Table String Value) : Prop :=
  ∀ v, ("level", v) ∈ fields → v.IsShortLevel

namespace Options

/-- The default options have a short level. -/
theorem hasShortLevel_default : ({} : Options).HasShortLevel := by
  intro n h
  simp at h

/-- No fields give no long level. -/
theorem giveShortLevels_nil : GiveShortLevels [] := by
  intro v h
  simp at h

/-- Replacing one field keeps the level short. -/
theorem hasShortLevel_setField {options options' : Options} {name : String} {v : Value}
    (h : options.setField name v = .ok options') (hoptions : options.HasShortLevel)
    (hv : name = "level" → v.IsShortLevel) : options'.HasShortLevel := by
  simp only [setField] at h
  split at h
  · next hname =>
    obtain rfl := Except.ok.inj h
    intro n hn
    cases v with
    | int m => exact hv hname n hn
    | _ => simp [orDefault] at hn
  · split at h
    · obtain rfl := Except.ok.inj h
      exact hoptions
    · split at h
      · obtain rfl := Except.ok.inj h
        exact hoptions
      · split at h
        · split at h
          · obtain rfl := Except.ok.inj h
            exact hoptions
          · obtain ⟨path, -, h⟩ := bind_eq_ok.mp h
            obtain rfl := Except.ok.inj h
            exact hoptions
        · split at h
          · obtain rfl := Except.ok.inj h
            exact hoptions
          · simp at h

/-- Replacing fields one after the other keeps the level short. -/
theorem hasShortLevel_foldlM {fields : Table String Value} {options options' : Options}
    (h : List.foldlM (fun options field => options.setField field.1 field.2) options fields
      = .ok options')
    (hoptions : options.HasShortLevel) (hfields : GiveShortLevels fields) :
    options'.HasShortLevel := by
  induction fields generalizing options with
  | nil =>
      obtain rfl := Except.ok.inj h
      exact hoptions
  | cons field fields ih =>
      obtain ⟨name, v⟩ := field
      rw [List.foldlM_cons] at h
      obtain ⟨next, hset, h⟩ := bind_eq_ok.mp h
      refine ih h (hasShortLevel_setField hset hoptions ?_) ?_
      · rintro rfl
        exact hfields v (by simp)
      · intro w hw
        exact hfields w (by simp [hw])

/-- Overriding fields keeps the level short. -/
theorem hasShortLevel_override {options options' : Options} {fields : Table String Value}
    (h : options.override fields = .ok options') (hoptions : options.HasShortLevel)
    (hfields : GiveShortLevels fields) : options'.HasShortLevel := by
  rw [override] at h
  split at h
  · simp at h
  · exact hasShortLevel_foldlM h hoptions hfields

end Options

namespace Gate

variable {platform : Platform} {gate : Gate} {options : Options}
  {overrides : Table String Value} {scene : Scene}

/-! ### The endings of a configuration -/

/-- The endings of opening the first sink: the scene afterwards, and the sink or the fault. -/
inductive Opening (platform : Platform) (options : Options) (scene : Scene) :
    Scene → Except Fault Sink → Prop
  /-- No file is asked for. -/
  | console : options.filePath = none →
      Opening platform options scene scene (.ok ⟨.line, .console⟩)
  /-- The absolute path holds a zero character. -/
  | refused {path : FilePath} : options.filePath = some path →
      (path.absolute platform.directory).holdsZero = true →
      Opening platform options scene scene (.error .zeroCharacter)
  /-- The file does not open. -/
  | unopened {path : FilePath} {cause : FileFault} : options.filePath = some path →
      (path.absolute platform.directory).holdsZero = false →
      scene.outlets.openFile (path.absolute platform.directory).parts = .error cause →
      Opening platform options scene scene (.error (.sinkOpen path cause))
  /-- The file was opened, and then the path as it was given is refused. -/
  | refusedLate {path : FilePath} {handle : Handle} {outlets : Outlets} :
      options.filePath = some path →
      (path.absolute platform.directory).holdsZero = false →
      scene.outlets.openFile (path.absolute platform.directory).parts = .ok (handle, outlets) →
      path.holdsZero = true →
      Opening platform options scene { scene with outlets } (.error .zeroCharacter)
  /-- The file is open. -/
  | file {path : FilePath} {handle : Handle} {outlets : Outlets} :
      options.filePath = some path →
      (path.absolute platform.directory).holdsZero = false →
      scene.outlets.openFile (path.absolute platform.directory).parts = .ok (handle, outlets) →
      path.holdsZero = false →
      Opening platform options scene
        ({ scene with outlets }.notify (.info noticeSource
          s!"Redirecting output to {(path.absolute platform.directory).toText}"))
        (.ok ⟨.file, handle⟩)

/-- Opening the first sink has one of its endings. -/
theorem opening_openSink (platform : Platform) (options : Options) (scene : Scene) :
    Opening platform options scene (openSink platform options scene).1
      (openSink platform options scene).2 := by
  rcases hpath : options.filePath with - | path
  · simp only [openSink, hpath]
    exact .console hpath
  rcases hzero : (path.absolute platform.directory).holdsZero with - | -
  · rcases hopen : scene.outlets.openFile (path.absolute platform.directory).parts with
      cause | ⟨handle, outlets⟩
    · simp only [openSink, hpath, hzero, hopen]
      exact .unopened hpath hzero hopen
    rcases hgiven : path.holdsZero with - | -
    · simp only [openSink, hpath, hzero, hopen, hgiven]
      exact .file hpath hzero hopen hgiven
    · simp only [openSink, hpath, hzero, hopen, hgiven]
      exact .refusedLate hpath hzero hopen hgiven
  · simp only [openSink, hpath, hzero]
    exact .refused hpath hzero

/-- The endings of a configuration of a gate without a logger. -/
inductive Outcome (platform : Platform) (gate : Gate) (options : Options)
    (overrides : Table String Value) (scene : Scene) : Attempt → Prop
  /-- The options are refused. -/
  | invalid {fault : Fault} : gate.validate options overrides = .error fault →
      Outcome platform gate options overrides scene { gate, scene, raised := some fault }
  /-- The first sink does not open, or is refused once it is open. -/
  | unopened {settings : Settings} {opened : Scene} {fault : Fault} :
      gate.validate options overrides = .ok settings →
      openSink platform settings.options scene = (opened, .error fault) →
      Outcome platform gate options overrides scene
        { gate, scene := opened, raised := some fault }
  /-- Muting the host's logger fails. -/
  | unmuted {settings : Settings} {opened muted : Scene} {sink : Sink} {fault : Fault} :
      gate.validate options overrides = .ok settings →
      openSink platform settings.options scene = (opened, .ok sink) →
      gate.muteHost settings.options opened = (muted, some fault) →
      Outcome platform gate options overrides scene
        { gate, scene := muted, raised := some fault }
  /-- A logger is committed. -/
  | committed {settings : Settings} {opened muted : Scene} {sink : Sink} :
      gate.validate options overrides = .ok settings →
      openSink platform settings.options scene = (opened, .ok sink) →
      gate.muteHost settings.options opened = (muted, none) →
      Outcome platform gate options overrides scene
        { gate := { gate with committed := some (gate.build settings sink) }
          scene := (announce settings muted).1
          raised := (announce settings muted).2 }

/-- Every configuration of an unconfigured gate has one of the endings. -/
theorem outcome_configure (h : gate.committed = none) (platform : Platform) (options : Options)
    (overrides : Table String Value) (scene : Scene) :
    Outcome platform gate options overrides scene
      (gate.configure platform options overrides scene) := by
  rcases hvalid : gate.validate options overrides with fault | settings
  · simp only [configure, h, hvalid]
    exact .invalid hvalid
  rcases hopen : openSink platform settings.options scene with ⟨opened, fault | sink⟩
  · simp only [configure, h, hvalid, hopen]
    exact .unopened hvalid hopen
  rcases hmute : gate.muteHost settings.options opened with ⟨muted, - | fault⟩
  · simp only [configure, h, hvalid, hopen, hmute]
    exact .committed hvalid hopen hmute
  · simp only [configure, h, hvalid, hopen, hmute]
    exact .unmuted hvalid hopen hmute

/-- A configuration of a gate with a logger leaves a notice and nothing else. -/
theorem configure_eq_of_committed {logger : Logger} (h : gate.committed = some logger)
    (platform : Platform) (options : Options) (overrides : Table String Value) (scene : Scene) :
    gate.configure platform options overrides scene =
      { gate
        scene := scene.notify
          (.debug noticeSource "Logger already configured; ignoring configure() call") } := by
  simp [configure, h]

/-! ### Sound options -/

/-- Options are sound exactly when, with their fields overridden, the format and the level
are read and the host brings what is asked for. -/
theorem validate_eq_ok_iff {settings : Settings} :
    gate.validate options overrides = .ok settings ↔
      options.override overrides = .ok settings.options ∧
      FormatSpec.parse standardFields settings.options.format = .ok settings.spec ∧
      Level.parse settings.options.level = .ok settings.threshold ∧
      (settings.options.clockPrefix.isTrue = true → gate.clock.isGiven = true) ∧
      (settings.options.suppressHost.isTrue = true → gate.hostLogger.isGiven = true) := by
  constructor
  · intro h
    rw [validate] at h
    obtain ⟨options', hoptions, h⟩ := bind_eq_ok.mp h
    obtain ⟨spec, hspec, h⟩ := bind_eq_ok.mp h
    obtain ⟨threshold, hlevel, h⟩ := bind_eq_ok.mp h
    rcases hclock : options'.clockPrefix.isTrue && !gate.clock.isGiven with - | -
    · rcases hhost : options'.suppressHost.isTrue && !gate.hostLogger.isGiven with - | -
      · simp only [hclock, hhost, Bool.false_eq_true, if_false] at h
        obtain rfl := Except.ok.inj h
        refine ⟨hoptions, hspec, hlevel, ?_, ?_⟩
        · intro htrue
          simpa [htrue] using hclock
        · intro htrue
          simpa [htrue] using hhost
      · simp [hclock, hhost, bind, Except.bind, throw, throwThe, MonadExceptOf.throw] at h
    · simp [hclock, bind, Except.bind, throw, throwThe, MonadExceptOf.throw] at h
  · rintro ⟨hoptions, hspec, hlevel, hclock, hhost⟩
    have hclock' : (settings.options.clockPrefix.isTrue && !gate.clock.isGiven) = false := by
      rcases htrue : settings.options.clockPrefix.isTrue with - | -
      · rfl
      · simp [hclock htrue]
    have hhost' :
        (settings.options.suppressHost.isTrue && !gate.hostLogger.isGiven) = false := by
      rcases htrue : settings.options.suppressHost.isTrue with - | -
      · rfl
      · simp [hhost htrue]
    simp [validate, hoptions, hspec, hlevel, hclock', hhost', bind, Except.bind, pure,
      Except.pure]

/-- The threshold of sound options is short when the options give a short level. -/
theorem isShort_of_validate {settings : Settings}
    (h : gate.validate options overrides = .ok settings) (hoptions : options.HasShortLevel)
    (hoverrides : Options.GiveShortLevels overrides) : Value.IsShort settings.threshold := by
  obtain ⟨hoverride, -, hlevel, -, -⟩ := validate_eq_ok_iff.mp h
  exact Level.isShort_of_parse hlevel (Options.hasShortLevel_override hoverride hoptions hoverrides)

/-- The report of a logger with a short threshold is written. -/
theorem raised_announce {settings : Settings} (h : Value.IsShort settings.threshold)
    (scene : Scene) : (announce settings scene).2 = none := by
  simp [announce, Level.name_of_isShort h]

/-- A configuration that raises nothing commits a logger. -/
theorem committed_of_raised_eq_none (hgate : gate.committed = none)
    (h : (gate.configure platform options overrides scene).raised = none) :
    (gate.configure platform options overrides scene).gate.committed.isSome = true := by
  have houtcome := outcome_configure hgate platform options overrides scene
  generalize gate.configure platform options overrides scene = attempt at h houtcome
  cases houtcome with
  | invalid => simp at h
  | unopened => simp at h
  | unmuted => simp at h
  | committed => rfl

/-- With a short level, a configuration that raises leaves the gate as it was. -/
theorem gate_eq_of_raised (hgate : gate.committed = none) (hoptions : options.HasShortLevel)
    (hoverrides : Options.GiveShortLevels overrides) {fault : Fault}
    (h : (gate.configure platform options overrides scene).raised = some fault) :
    (gate.configure platform options overrides scene).gate = gate := by
  have houtcome := outcome_configure hgate platform options overrides scene
  generalize gate.configure platform options overrides scene = attempt at h houtcome
  cases houtcome with
  | invalid => rfl
  | unopened => rfl
  | unmuted => rfl
  | committed hvalid _ _ =>
      rw [raised_announce (isShort_of_validate hvalid hoptions hoverrides)] at h
      simp at h

/-! ### What a configuration that raises leaves behind -/

/-- The options are sound and the first sink opens, and then muting the host's logger
fails. -/
def MutingFails (platform : Platform) (gate : Gate) (options : Options)
    (overrides : Table String Value) (scene : Scene) : Prop :=
  ∃ settings opened sink muted fault,
    gate.validate options overrides = .ok settings ∧
    openSink platform settings.options scene = (opened, .ok sink) ∧
    gate.muteHost settings.options opened = (muted, some fault)

/-- The options are sound and the log file opens at `place`, and then the path as it was given
is refused: it holds a zero character that is not in the absolute path. -/
def RefusedLate (platform : Platform) (gate : Gate) (options : Options)
    (overrides : Table String Value) (scene : Scene) (place : Place) : Prop :=
  ∃ settings path handle outlets,
    gate.validate options overrides = .ok settings ∧
    settings.options.filePath = some path ∧
    (path.absolute platform.directory).parts = place ∧
    (path.absolute platform.directory).holdsZero = false ∧
    scene.outlets.openFile place = .ok (handle, outlets) ∧
    path.holdsZero = true

/-- Refused options mute nothing. -/
theorem not_mutingFails_of_invalid {fault : Fault}
    (h : gate.validate options overrides = .error fault) :
    ¬ MutingFails platform gate options overrides scene := by
  rintro ⟨settings, opened, sink, muted, fault', hvalid, -, -⟩
  rw [h] at hvalid
  simp at hvalid

/-- Refused options open nothing. -/
theorem not_refusedLate_of_invalid {fault : Fault}
    (h : gate.validate options overrides = .error fault) (place : Place) :
    ¬ RefusedLate platform gate options overrides scene place := by
  rintro ⟨settings, path, handle, outlets, hvalid, -⟩
  rw [h] at hvalid
  simp at hvalid

/-- A configuration that is refused late mutes nothing. -/
theorem RefusedLate.not_mutingFails {place : Place}
    (h : RefusedLate platform gate options overrides scene place) :
    ¬ MutingFails platform gate options overrides scene := by
  obtain ⟨settings, path, handle, outlets, hvalid, hpath, rfl, hzero, hopen, hgiven⟩ := h
  rintro ⟨settings', opened, sink, muted, fault, hvalid', hsink, -⟩
  obtain rfl : settings = settings' := Except.ok.inj (hvalid.symm.trans hvalid')
  simp [openSink, hpath, hzero, hopen, hgiven] at hsink

/-- A configuration that is refused late leaves its log file open, and nothing else. -/
theorem configure_of_refusedLate (hgate : gate.committed = none) {place : Place}
    (h : RefusedLate platform gate options overrides scene place) :
    ∃ handle outlets, scene.outlets.openFile place = .ok (handle, outlets) ∧
      gate.configure platform options overrides scene =
        { gate, scene := { scene with outlets }, raised := some .zeroCharacter } := by
  obtain ⟨settings, path, handle, outlets, hvalid, hpath, rfl, hzero, hopen, hgiven⟩ := h
  refine ⟨handle, outlets, hopen, ?_⟩
  have hsink : openSink platform settings.options scene =
      ({ scene with outlets }, .error .zeroCharacter) := by
    simp [openSink, hpath, hzero, hopen, hgiven]
  simp only [configure, hgate, hvalid, hsink]

/-- With a short level, a configuration that raises otherwise than by muting, and is not
refused late, leaves everything as it was. -/
theorem configure_eq_of_raised (hgate : gate.committed = none) (hoptions : options.HasShortLevel)
    (hoverrides : Options.GiveShortLevels overrides) {fault : Fault}
    (h : (gate.configure platform options overrides scene).raised = some fault)
    (hmuting : ¬ MutingFails platform gate options overrides scene)
    (hlate : ∀ place, ¬ RefusedLate platform gate options overrides scene place) :
    gate.configure platform options overrides scene =
      { gate, scene, raised := some fault } := by
  have houtcome := outcome_configure hgate platform options overrides scene
  generalize gate.configure platform options overrides scene = attempt at h houtcome
  cases houtcome with
  | invalid hvalid =>
      obtain rfl := Option.some.inj h
      rfl
  | @unopened settings opened fault' hvalid hopen =>
      obtain rfl : fault' = fault := Option.some.inj h
      have hopening := opening_openSink platform settings.options scene
      rw [hopen] at hopening
      cases hopening with
      | refused => rfl
      | unopened => rfl
      | refusedLate hpath hzero hfile hgiven =>
          exact absurd ⟨settings, _, _, _, hvalid, hpath, rfl, hzero, hfile, hgiven⟩ (hlate _)
  | unmuted hvalid hopen hmute => exact absurd ⟨_, _, _, _, _, hvalid, hopen, hmute⟩ hmuting
  | committed hvalid _ _ =>
      rw [raised_announce (isShort_of_validate hvalid hoptions hoverrides)] at h
      simp at h

end Gate

/-! ### Invocations -/

/-- The options and overriding fields that an invocation on a gate without a logger stands
for. -/
def Invocation.arguments (call : Invocation) : Except Fault (Options × Table String Value) :=
  match call.collision? "ConfigurationGate.configure" ["self"] with
  | some fault => .error fault
  | none =>
    let overrides := call.overrides ["options"]
    match call.options, Table.find? "options" call.named with
    | some options, _ => .ok (options, overrides)
    | none, some value => (Invocation.optionsOf value overrides).map fun options =>
        (options, overrides)
    | none, none => .ok ({}, overrides)

namespace Gate

variable {gate : Gate}

/-- An invocation on a gate without a logger is the configuration that it stands for. -/
theorem invoke_of_unconfigured (h : gate.committed = none) (platform : Platform)
    (call : Invocation) (scene : Scene) :
    gate.invoke platform call scene =
      match call.arguments with
      | .error fault => { gate, scene, raised := some fault }
      | .ok (options, overrides) => gate.configure platform options overrides scene := by
  rcases hcollision : call.collision? "ConfigurationGate.configure" ["self"] with - | fault
  · rcases hoptions : call.options with - | options
    · rcases hnamed : Table.find? "options" call.named with - | value
      · simp [invoke, Invocation.arguments, hcollision, hoptions, hnamed]
      · rcases hvalue : Invocation.optionsOf value (call.overrides ["options"]) with fault | options
        · simp [invoke, Invocation.arguments, hcollision, hoptions, hnamed, hvalue, h, Except.map]
        · simp [invoke, Invocation.arguments, hcollision, hoptions, hnamed, hvalue, h, Except.map]
    · simp [invoke, Invocation.arguments, hcollision, hoptions]
  · simp [invoke, Invocation.arguments, hcollision]

/-- An invocation on a gate with a logger leaves a notice and nothing else, unless it names a
parameter that has its argument already; then it does not even reach the gate. -/
theorem invoke_of_committed {logger : Logger} (h : gate.committed = some logger)
    (platform : Platform) (call : Invocation) (scene : Scene) :
    gate.invoke platform call scene =
      match call.collision? "ConfigurationGate.configure" ["self"] with
      | some fault => { gate, scene, raised := some fault }
      | none =>
        { gate
          scene := scene.notify
            (.debug noticeSource "Logger already configured; ignoring configure() call") } := by
  rcases hcollision : call.collision? "ConfigurationGate.configure" ["self"] with - | fault
  · rcases hoptions : call.options with - | options
    · rcases hnamed : Table.find? "options" call.named with - | value
      · simp [invoke, hcollision, hoptions, hnamed, configure_eq_of_committed h]
      · simp [invoke, hcollision, hoptions, hnamed, h, configure_eq_of_committed h]
    · simp [invoke, hcollision, hoptions, configure_eq_of_committed h]
  · simp [invoke, hcollision]

end Gate

/-- The arguments of an invocation with short levels have short levels. -/
theorem Invocation.short_of_arguments {call : Invocation} {options : Options}
    {overrides : Table String Value} (h : call.arguments = .ok (options, overrides))
    (hoptions : ∀ given, call.options = some given → given.HasShortLevel)
    (hnamed : Options.GiveShortLevels call.named) :
    options.HasShortLevel ∧ Options.GiveShortLevels overrides := by
  have hoverrides : Options.GiveShortLevels (call.overrides ["options"]) := by
    intro v hv
    exact hnamed v (List.mem_filter.mp hv).1
  rcases hcollision : call.collision? "ConfigurationGate.configure" ["self"] with - | fault
  · rcases hgiven : call.options with - | given
    · rcases hfind : Table.find? "options" call.named with - | value
      · simp only [arguments, hcollision, hgiven, hfind, Except.ok.injEq, Prod.mk.injEq] at h
        obtain ⟨rfl, rfl⟩ := h
        exact ⟨Options.hasShortLevel_default, hoverrides⟩
      · simp only [arguments, hcollision, hgiven, hfind] at h
        rcases hvalue : optionsOf value (call.overrides ["options"]) with fault | made
        · simp [hvalue, Except.map] at h
        · simp only [hvalue, Except.map, Except.ok.injEq, Prod.mk.injEq] at h
          obtain ⟨rfl, rfl⟩ := h
          have hmade : made = {} := by
            simp only [optionsOf] at hvalue
            split at hvalue
            · exact (Except.ok.inj hvalue).symm
            · split at hvalue <;> simp at hvalue
          exact ⟨hmade ▸ Options.hasShortLevel_default, hoverrides⟩
    · simp only [arguments, hcollision, hgiven, Except.ok.injEq, Prod.mk.injEq] at h
      obtain ⟨rfl, rfl⟩ := h
      exact ⟨hoptions given hgiven, hoverrides⟩
  · simp [arguments, hcollision] at h

end TraceLog
