import TraceLog.Proofs.Steps

/-!
# Records Are Always Formatted

The failure policy of a logger is there for records that cannot be formatted. This module proves
that no record of a logging call is one of them: the format was read against the fields of
records, every field of a call's record has a text, and a manual clock can be shown at every
time. `Scene.Formatted` says of two scenes that the policy was not asked in between, and that
every fault that was noted is one of a stream. It holds for whatever sinks a logger has, among
them sinks that fail.

## Main results

* `Logger.formats_recordFor`: the record of a call is formatted.
* `unfailed_deliver`, `Logger.unfailed_call`: one record, and one call.
* `Session.CanFormat.step`, `Session.CanFormat.run`: steps and runs of a session.
-/

namespace TraceLog

open Number

/-! ### Scenes -/

/-- No record failed to be formatted between two scenes: no failure was noted, and the faults that
were noted are faults of streams. -/
structure Scene.Formatted (scene scene' : Scene) : Prop where
  failures : scene'.failures = scene.failures
  faults : ∃ faults : List StreamFault,
    scene'.sinkFaults = scene.sinkFaults ++ faults.map Fault.stream

/-- Nothing has failed between a scene and itself. -/
theorem Scene.Formatted.refl (scene : Scene) : scene.Formatted scene :=
  ⟨rfl, [], (List.append_nil _).symm⟩

/-- Nothing has failed from one scene to another if nothing has on both parts of the way. -/
theorem Scene.Formatted.trans {scene scene' scene'' : Scene} (h : scene.Formatted scene')
    (h' : scene'.Formatted scene'') : scene.Formatted scene'' := by
  obtain ⟨first, hfirst⟩ := h.faults
  obtain ⟨second, hsecond⟩ := h'.faults
  refine ⟨h'.failures.trans h.failures, first ++ second, ?_⟩
  rw [hsecond, hfirst, List.append_assoc, List.map_append]

/-- A line that is written notes the fault of its stream at most, and leaves the clock alone. -/
theorem formatted_writeThrough (lineEnd : List Char) (record : Record) (line : String) (sink : Sink)
    (scene : Scene) :
    scene.Formatted (writeThrough lineEnd record line sink scene).1 ∧
      (writeThrough lineEnd record line sink scene).1.clock = scene.clock := by
  rw [writeThrough]
  split
  · exact ⟨⟨rfl, [], (List.append_nil _).symm⟩, rfl⟩
  · next fault _ =>
    simp only [Scene.meet, Scene.setOutlets]
    split
    · exact ⟨⟨rfl, [], (List.append_nil _).symm⟩, rfl⟩
    · exact ⟨⟨rfl, [fault], rfl⟩, rfl⟩

/-! ### Records -/

namespace Logger

variable {platform : Platform} {logger : Logger} {record : Record} {site : CallSite}
  {scene : Scene}

/-- A logger can show the time if it has to: then its clock is the host's own one, and a manual
one. -/
def CanShowTime (logger : Logger) (scene : Scene) : Prop :=
  logger.layout.clockPrefix = true →
    ∃ time readings, scene.clock = some ⟨.manual time, readings⟩

/-- The record is formatted whenever the logger can show the time, and the time can be shown
afterwards. -/
def Formats (logger : Logger) (record : Record) : Prop :=
  ∀ scene : Scene, logger.CanShowTime scene → ∃ line clock,
    logger.layout.format record (scene.clockFor logger.clock) = (.ok line, clock) ∧
    logger.CanShowTime (scene.setClockFor logger.clock clock)

/-- **The record of a call is formatted.** -/
theorem formats_recordFor {message : Value} {text function line : String}
    (hformat : logger.HasStandardFormat) (hshows : logger.ShowsOwnClock)
    (hmessage : message.plainText = .ok text)
    (hsequence : Value.IsShort (logger.nextSequence : Int)) (hsite : site.Shown function line)
    (level : Int) : logger.Formats (logger.recordFor (Level.shown level) message site) := by
  intro scene hclock
  rcases hstamp : logger.layout.clockPrefix with - | -
  · have hline := format_of_not_clockPrefix hformat hstamp hmessage hsequence hsite level .zero
      (scene.clockFor logger.clock)
    exact ⟨_, _, hline, fun htrue => absurd (hstamp.symm.trans htrue) (by decide)⟩
  · obtain ⟨time, readings, hmanual⟩ := hclock hstamp
    obtain ⟨clock, readings', hline, hset⟩ := writes_recordFor hformat hshows hmessage hsequence
      hsite level time scene readings hmanual
    refine ⟨_, clock, hline, fun _ => ⟨time, readings', ?_⟩⟩
    rw [hset]

end Logger

/-- What a logging call can come to when its records are formatted: it notes no failure, does not
end the process, and leaves the clock such that the time can be shown. -/
structure Logger.Unfailed (logger : Logger) (scene scene' : Scene) (ending : CallEnd) : Prop where
  formatted : scene.Formatted scene'
  shows : logger.CanShowTime scene'
  goesOn : ∀ fault, ending ≠ .aborted fault

/-- A record that is formatted is given to all sinks without a failure, whatever the sinks do. -/
theorem unfailed_deliver (platform : Platform) {logger : Logger} {record : Record}
    (hformats : logger.Formats record) (sinks : List Sink) {scene : Scene}
    (hclock : logger.CanShowTime scene) :
    logger.Unfailed scene (deliver platform logger record sinks scene).1
      (deliver platform logger record sinks scene).2 := by
  induction sinks generalizing scene with
  | nil => exact ⟨.refl scene, hclock, by simp [deliver]⟩
  | cons sink sinks ih =>
      obtain ⟨line, clock, hline, hshows⟩ := hformats scene hclock
      have hset : scene.Formatted (scene.setClockFor logger.clock clock) := by
        cases logger.clock with
        | own => exact ⟨rfl, [], (List.append_nil _).symm⟩
        | value v => exact .refl scene
      obtain ⟨hwritten, hkept⟩ := formatted_writeThrough platform.lineEnd record line sink
        (scene.setClockFor logger.clock clock)
      rcases hthrough : writeThrough platform.lineEnd record line sink
        (scene.setClockFor logger.clock clock) with ⟨written, - | fault⟩
      · rw [hthrough] at hwritten hkept
        have hshows' : logger.CanShowTime written := by
          rw [Logger.CanShowTime, hkept]
          exact hshows
        have hrest := ih hshows'
        simp only [deliver, Sink.give, hline, raising, hthrough, Option.map_none]
        exact ⟨(hset.trans hwritten).trans hrest.formatted, hrest.shows, hrest.goesOn⟩
      · rw [hthrough] at hwritten hkept
        simp only [deliver, Sink.give, hline, raising, hthrough, Option.map_some]
        exact ⟨hset.trans hwritten, by rw [Logger.CanShowTime, hkept]; exact hshows, by simp⟩

namespace Logger

variable {platform : Platform} {logger : Logger} {call : Call} {site : CallSite} {scene : Scene}

/-- A call that passes nothing on to sinks has no failure. -/
theorem unfailed_of_unwritten (hclock : logger.CanShowTime scene) {ending : CallEnd}
    (hending : ∀ fault, ending ≠ .aborted fault) : logger.Unfailed scene scene ending :=
  ⟨.refl scene, hclock, hending⟩

/-- **A logging call never fails to format its record**, and takes at most one number. -/
theorem unfailed_call (platform : Platform) (hformat : logger.HasStandardFormat)
    (hshows : logger.ShowsOwnClock) (hclock : logger.CanShowTime scene)
    (hsequence : Value.IsShort (logger.nextSequence : Int))
    (hwritable : (Step.log call site).IsWritable) :
    logger.Unfailed scene (logger.call platform call site scene).2.1
      (logger.call platform call site scene).2.2 ∧
    ∃ next ≤ logger.nextSequence + 1,
      (logger.call platform call site scene).1 = { logger with nextSequence := next } := by
  have hdoes := logger.does_outcome platform call site scene
  obtain ⟨hlevel, function, line, hsite⟩ := hwritable
  rcases houtcome : logger.outcome call with fault | - | ⟨level, text⟩
  · rw [houtcome] at hdoes
    cases hdoes with
    | raises hcall =>
        rw [hcall]
        exact ⟨unfailed_of_unwritten hclock (by simp), logger.nextSequence, by omega, rfl⟩
  · rw [houtcome] at hdoes
    cases hdoes with
    | dropped hcall =>
        rw [hcall]
        exact ⟨unfailed_of_unwritten hclock (by simp), logger.nextSequence, by omega, rfl⟩
  · rw [houtcome] at hdoes
    cases hdoes with
    | @emits _ _ message hpasses hresolve hmessage hcall =>
        have hshort := isShort_of_resolveLevel hresolve hlevel
        have hformats := formats_recordFor hformat hshows hmessage hsequence hsite level
        have hdeliver := unfailed_deliver platform hformats logger.sinks hclock
        rw [hcall]
        simp only [emit, admits_of_passes hpasses, if_true, Level.name_of_isShort hshort]
        exact ⟨hdeliver, logger.nextSequence + 1, le_refl _, rfl⟩

end Logger

/-! ### Sessions -/

namespace Session

variable {session : Session} {owner : Owner} {base : Logger} {bound : Nat}

/-- A session whose logger goes back to `base`, has numbered no more records than this, and can
show the time. -/
structure CanFormat (owner : Owner) (base : Logger) (bound : Nat) (session : Session) : Prop where
  first : session.first = some owner
  logger : ∃ sinks, ∃ next ≤ bound,
    session.logger = .ok { base with sinks, nextSequence := next }
  shows : base.CanShowTime session.scene

/-- What a step can do when its records are formatted. -/
structure Unfailed (owner : Owner) (base : Logger) (bound : Nat) (session : Session)
    (outcome : Session × StepEnd) : Prop where
  canFormat : CanFormat owner base bound outcome.1
  formatted : session.scene.Formatted outcome.1.scene
  goesOn : ∀ fault, outcome.2 ≠ .aborted fault

/-- A step that leaves the logger, the failures and the faults alone has no failure. -/
theorem CanFormat.unfailed (h : CanFormat owner base bound session) (scene : Scene)
    (ending : StepEnd) (hscene : session.scene.Formatted scene) (hshows : base.CanShowTime scene)
    (hending : ∀ fault, ending ≠ .aborted fault) :
    Unfailed owner base bound session ({ session with scene }, ending) :=
  ⟨⟨h.first, h.logger, hshows⟩, hscene, hending⟩

/-- A step that changes the logger that was returned first leaves it that. -/
theorem CanFormat.setLogger (h : CanFormat owner base bound session) (scene : Scene)
    (sinks : List Sink) {ending : StepEnd} {next later : Nat}
    (hscene : session.scene.Formatted scene) (hshows : base.CanShowTime scene)
    (hending : ∀ fault, ending ≠ .aborted fault) (hnext : next ≤ later) :
    Unfailed owner base later session
      ({ session with scene }.setLogger { base with sinks, nextSequence := next }, ending) := by
  obtain ⟨sinks', next', -, hlogger⟩ := h.logger
  refine ⟨⟨?_, ⟨sinks, next, hnext, ?_⟩, ?_⟩, ?_, hending⟩
  · rw [first_setLogger]
    exact h.first
  · have hkept : ({ session with scene } : Session).logger = _ := hlogger
    exact logger_setLogger hkept _
  · rw [scene_setLogger]
    exact hshows
  · rw [scene_setLogger]
    exact hscene

/-- A move of the clock has no failure. A manual clock stays one. -/
theorem CanFormat.moveClock (h : CanFormat owner base bound session) (name : String)
    (move : Clock → Except Fault Clock) (answer : Clock → Answer)
    (next : Binary64 → Except Fault Binary64)
    (hmove : ∀ time readings, move ⟨.manual time, readings⟩ =
      next time >>= (⟨.manual time, readings⟩ : Clock).moveTo time) :
    Unfailed owner base bound session (session.moveClock name move answer) := by
  have hmoved : ∃ clock, (session.moveClock name move answer).1 =
      { session with scene := { session.scene with clock } } ∧
      ∀ fault, (session.moveClock name move answer).2 ≠ .aborted fault := by
    simp only [Session.moveClock]
    split
    · exact ⟨session.scene.clock, rfl, by simp⟩
    · split
      · exact ⟨session.scene.clock, rfl, by simp⟩
      · next clock _ => exact ⟨some clock, rfl, by simp⟩
  obtain ⟨clock, hnext, hending⟩ := hmoved
  have hshows : base.CanShowTime { session.scene with clock } := by
    intro hstamp
    obtain ⟨time, readings, hmanual⟩ := h.shows hstamp
    obtain ⟨hmanual', -⟩ := moveClock_manual hmanual name move answer (next time)
      (hmove time readings)
    rw [hnext] at hmanual'
    exact ⟨_, readings, congrArg (fun s : Session => s.scene.clock) hmanual'⟩
  have hunfailed := h.unfailed { session.scene with clock } _
    ⟨rfl, [], (List.append_nil _).symm⟩ hshows hending
  rwa [← hnext] at hunfailed

/-- **No step fails to format a record.** -/
theorem CanFormat.step {step : Step} (hformat : base.HasStandardFormat)
    (hshows : base.ShowsOwnClock) (h : CanFormat owner base bound session)
    (hshort : Value.IsShort (bound : Int))
    (hconcerns : step.concerns owner = true) (hwritable : step.IsWritable) :
    Unfailed owner base (bound + 1) session (session.step step) := by
  obtain ⟨sinks, next, hnext, hlogger⟩ := h.logger
  have hlater : CanFormat owner base (bound + 1) session :=
    ⟨h.first, ⟨sinks, next, Nat.le_succ_of_le hnext, hlogger⟩, h.shows⟩
  have hrepeated : step.configures = true →
      Unfailed owner base (bound + 1) session (session.step step) := by
    intro hconfigures
    obtain ⟨⟨notices, hstep⟩, hgoes⟩ := step_repeated h.first hlogger hconfigures hconcerns
    have hunfailed := hlater.unfailed { session.scene with notices } (session.step step).2
      ⟨rfl, [], (List.append_nil _).symm⟩ h.shows
      (by rintro fault heq; simp [heq, StepEnd.goesOn] at hgoes)
    rwa [← hstep] at hunfailed
  cases step with
  | log call site =>
      have hbase : Logger.HasStandardFormat { base with sinks, nextSequence := next } :=
        ⟨hformat.names, hformat.fields⟩
      obtain ⟨hcall, later, hle, hnumbered⟩ := Logger.unfailed_call session.platform hbase hshows
        h.shows (Value.isShort_of_le hnext hshort) hwritable
      simp only [Session.step, hlogger, hnumbered]
      refine h.setLogger _ _ hcall.formatted hcall.shows ?_
        (le_trans hle (Nat.succ_le_succ hnext))
      intro fault heq
      rcases hending : (Logger.call session.platform
        { base with sinks, nextSequence := next } call site session.scene).2.2 with
        - | raised | aborted
      · simp [hending, endOfCall] at heq
      · simp [hending, endOfCall] at heq
      · exact hcall.goesOn aborted hending
  | attach name device =>
      simp only [Session.step, hlogger]
      exact h.setLogger (session.ensure name device).scene _ ⟨rfl, [], (List.append_nil _).symm⟩
        h.shows (by simp) (Nat.le_succ_of_le hnext)
  | setClock value =>
      exact hlater.moveClock _ _ _ (fun _ => value.toReal) fun _ _ => rfl
  | advanceClock delta =>
      exact hlater.moveClock _ _ _ (fun time => delta.addTo time) fun _ _ => rfl
  | configure source named => exact hrepeated rfl
  | configureProcess source named passClock passHost => exact hrepeated rfl
  | _ => simp [Step.concerns] at hconcerns

/-- **No step of a run fails to format a record**, whatever its sinks do. -/
theorem CanFormat.run {steps : List Step} (hformat : base.HasStandardFormat)
    (hshows : base.ShowsOwnClock) (h : CanFormat owner base bound session)
    (hshort : Value.IsShort ((bound + steps.length : Nat) : Int))
    (hsteps : ∀ step ∈ steps, step.concerns owner = true ∧ step.IsWritable) :
    session.scene.Formatted (session.final steps).scene ∧
      ∀ entry ∈ session.run steps, ∀ fault, entry.2 ≠ .aborted fault := by
  induction steps generalizing session bound with
  | nil => exact ⟨.refl _, by simp⟩
  | cons step steps ih =>
      obtain ⟨⟨hconcerns, hwritable⟩, hrest⟩ := List.forall_mem_cons.mp hsteps
      have hstep := h.step hformat hshows (Value.isShort_of_le (by omega) hshort) hconcerns
        hwritable
      have hgoes : (session.step step).2.goesOn = true := by
        rcases hending : (session.step step).2 with answer | fault | fault
        · rfl
        · rfl
        · exact absurd hending (hstep.goesOn fault)
      obtain ⟨hscene, hentries⟩ := ih hstep.canFormat
        (Value.isShort_of_le (by simp; omega) hshort) hrest
      rw [final_cons hgoes, run_cons hgoes]
      exact ⟨hstep.formatted.trans hscene, List.forall_mem_cons.mpr ⟨hstep.goesOn, hentries⟩⟩

end Session

end TraceLog
