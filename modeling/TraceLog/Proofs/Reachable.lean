import TraceLog.Proofs.Commitment
import TraceLog.Proofs.ProcessWide
import TraceLog.Proofs.Rendering

/-!
# Reachable States

A session starts without any logger, and comes to its other states by steps of all kinds, among
them configurations of both gates that fail or come too late. In each of these states
(`Session.Reachable`) a logger goes back to one that a gate has built from sound options
(`Logger.IsBuilt`), so that its format was read against the fields of records and its threshold is
a level. This holds for a logger of either gate, and also for one whose configuration has raised a
fault when it was committed already.

The logger that was returned first stays that whatever is done, and changes only as
`Logger.Extends` says.

## Main results

* `Session.Reachable.isBuilt`: the loggers of reachable states.
* `Session.logger_step`, `Session.logger_final`: the logger after a step and after a run.
-/

namespace TraceLog

/-! ### Loggers of gates -/

namespace Logger

variable {later logger : Logger}

/-- A logger that goes back to one that a gate has built from sound options. -/
def IsBuilt (logger : Logger) : Prop :=
  ∃ (gate : Gate) (options : Options) (overrides : Table String Value) (settings : Settings)
    (sink : Sink), gate.validate options overrides = .ok settings ∧
      logger.Extends (gate.build settings sink)

/-- What extends a built logger is built. -/
theorem Extends.isBuilt (h : later.Extends logger) (hlogger : logger.IsBuilt) :
    later.IsBuilt := by
  obtain ⟨gate, options, overrides, settings, sink, hvalid, hextends⟩ := hlogger
  exact ⟨gate, options, overrides, settings, sink, hvalid, h.trans hextends⟩

/-- The threshold of such a logger is a level. -/
theorem IsBuilt.lowest_le_threshold (h : logger.IsBuilt) : Level.lowest ≤ logger.threshold := by
  obtain ⟨gate, options, overrides, settings, sink, hvalid, more, next, -, rfl⟩ := h
  obtain ⟨-, -, hlevel, -⟩ := Gate.validate_eq_ok_iff.mp hvalid
  exact Level.lowest_le_of_parse hlevel

/-- A logger that goes back to another one has its threshold. -/
theorem Extends.threshold_eq (h : later.Extends logger) : later.threshold = logger.threshold := by
  obtain ⟨more, next, -, rfl⟩ := h
  rfl

end Logger

/-- A gate whose logger, if it has one, goes back to one that was built from sound options. -/
def Gate.HoldsBuilt (gate : Gate) : Prop :=
  ∀ logger, gate.committed = some logger → logger.IsBuilt

namespace Gate

variable {gate : Gate}

/-- A gate that has not committed holds no other logger than a built one. -/
theorem holdsBuilt_of_uncommitted (h : gate.committed = none) : gate.HoldsBuilt := by
  intro logger hlogger
  simp [h] at hlogger

/-- Nor does one that has committed a built one. -/
theorem holdsBuilt_of_isBuilt {logger : Logger} (h : gate.committed = some logger)
    (hlogger : logger.IsBuilt) : gate.HoldsBuilt := by
  intro other hother
  obtain rfl : logger = other := Option.some.inj (h.symm.trans hother)
  exact hlogger

/-- A configuration commits a logger that is built from sound options, or none. -/
theorem holdsBuilt_configure (h : gate.committed = none) (platform : Platform)
    (options : Options) (overrides : Table String Value) (scene : Scene) :
    (gate.configure platform options overrides scene).gate.HoldsBuilt := by
  have houtcome := outcome_configure h platform options overrides scene
  generalize gate.configure platform options overrides scene = attempt at houtcome
  cases houtcome with
  | invalid => exact holdsBuilt_of_uncommitted h
  | unopened => exact holdsBuilt_of_uncommitted h
  | unmuted => exact holdsBuilt_of_uncommitted h
  | @committed settings opened muted sink hvalid =>
      exact holdsBuilt_of_isBuilt rfl
        ⟨gate, options, overrides, settings, sink, hvalid, .refl _⟩

/-- So does an invocation, which leaves a logger alone that is there. -/
theorem HoldsBuilt.invoke (h : gate.HoldsBuilt) (platform : Platform) (call : Invocation)
    (scene : Scene) : (gate.invoke platform call scene).gate.HoldsBuilt := by
  rcases hcommitted : gate.committed with - | logger
  · rw [invoke_of_unconfigured hcommitted]
    split
    · exact h
    · exact holdsBuilt_configure hcommitted platform _ _ scene
  · rw [invoke_of_committed hcommitted]
    split
    · exact h
    · exact h

end Gate

/-- What holds of the gate of the process, if there is one. -/
theorem ProcessGate.holdsBuilt_invoke {gate? : Option Gate}
    (h : ∀ gate, gate? = some gate → gate.HoldsBuilt) (platform : Platform) (passed : Passed)
    (call : Invocation) (scene : Scene) :
    (invoke platform gate? passed call scene).gate.HoldsBuilt := by
  rcases hrepeated : repeated? passed call with - | fault
  · rw [invoke_of_not_repeated hrepeated]
    refine Gate.HoldsBuilt.invoke ?_ platform _ scene
    rcases gate? with - | gate
    · exact Gate.holdsBuilt_of_uncommitted rfl
    · simp only [gateFor]
      split
      · exact h gate rfl
      · exact Gate.holdsBuilt_of_uncommitted rfl
  · rw [invoke_of_repeated hrepeated]
    rcases gate? with - | gate
    · exact Gate.holdsBuilt_of_uncommitted rfl
    · exact h gate rfl

namespace Session

variable {session : Session} {logger : Logger} {owner : Owner}

/-! ### States -/

/-- The states that sessions come to which start without a logger. -/
inductive Reachable : Session → Prop where
  | start {session : Session} (hgate : session.gate.committed = none)
      (hprocess : ProcessGate.Unconfigured session.processGate) : Reachable session
  | step {session : Session} (hreachable : Reachable session) (step : Step) :
      Reachable (session.step step).1

/-- What is reached by a run from such a state is such a state. -/
theorem Reachable.final (h : session.Reachable) (steps : List Step) :
    (session.final steps).Reachable :=
  final_induction (fun _ step _ hreachable => .step hreachable step) h

/-- Both gates hold loggers that go back to ones that were built from sound options. -/
structure HoldsBuilt (session : Session) : Prop where
  host : session.gate.HoldsBuilt
  process : ∀ gate, session.processGate = some gate → gate.HoldsBuilt

/-- The logger that was returned first is that of a gate. -/
theorem HoldsBuilt.isBuilt (h : session.HoldsBuilt) (hlogger : session.logger = .ok logger) :
    logger.IsBuilt := by
  rcases committed_of_logger hlogger with ⟨-, hcommitted⟩ | ⟨-, gate, hgate, hcommitted⟩
  · exact h.host logger hcommitted
  · exact h.process gate hgate logger hcommitted

/-- Changing the logger as operations on it do keeps what the gates hold. -/
theorem HoldsBuilt.setLogger (h : session.HoldsBuilt) (hlogger : session.logger = .ok logger)
    {next : Logger} (hnext : next.Extends logger) (scene : Scene) :
    ({ session with scene }.setLogger next).HoldsBuilt := by
  have hbuilt : next.IsBuilt := hnext.isBuilt (h.isBuilt hlogger)
  rcases committed_of_logger hlogger with ⟨howner, -⟩ | ⟨howner, gate, hgate, -⟩
  · simp only [Session.setLogger, howner]
    exact ⟨Gate.holdsBuilt_of_isBuilt rfl hbuilt, h.process⟩
  · simp only [Session.setLogger, howner, hgate, Option.map_some]
    refine ⟨h.host, fun other hother => ?_⟩
    obtain rfl := Option.some.inj hother
    exact Gate.holdsBuilt_of_isBuilt rfl hbuilt

/-- The end of a configuration keeps both gates. -/
theorem HoldsBuilt.finish (h : session.HoldsBuilt) (owner : Owner) (raised : Option Fault) :
    (session.finish owner raised).1.HoldsBuilt := by
  cases raised with
  | none => exact ⟨h.host, h.process⟩
  | some fault => exact h

/-- **Every step keeps what the gates hold.** -/
theorem HoldsBuilt.step (h : session.HoldsBuilt) (step : Step) :
    (session.step step).1.HoldsBuilt := by
  rcases hstep : step.configures with - | -
  · have hoperates := session.operates_step hstep
    generalize (session.step step).1 = next at hoperates ⊢
    cases hoperates with
    | scene scene => exact ⟨h.host, h.process⟩
    | logger scene hlogger hnext => exact h.setLogger hlogger hnext scene
  · cases step with
    | configure source named =>
        rcases hload : Invocation.load source named with fault | call
        · rw [step_configure_of_error hload]
          exact h
        · have hinvoked : HoldsBuilt { session with
              gate := (session.gate.invoke session.platform call session.scene).gate
              scene := (session.gate.invoke session.platform call session.scene).scene } :=
            ⟨h.host.invoke _ _ _, h.process⟩
          rw [step_configure hload]
          exact hinvoked.finish _ _
    | configureProcess source named passClock passHost =>
        rcases hload : Invocation.load source named with fault | call
        · simp only [Session.step, hload]
          exact h
        · have hinvoked : ∀ attempt : Attempt, attempt.gate.HoldsBuilt →
              HoldsBuilt { session with
                processGate := some attempt.gate, scene := attempt.scene } := by
            intro attempt hattempt
            refine ⟨h.host, fun gate hgate => ?_⟩
            obtain rfl := Option.some.inj hgate
            exact hattempt
          simp only [Session.step, hload]
          exact (hinvoked _ (ProcessGate.holdsBuilt_invoke h.process _ _ _ _)).finish _ _
    | _ => simp [Step.configures] at hstep

/-- **All loggers of a state that can be reached are built.** -/
theorem Reachable.holdsBuilt (h : session.Reachable) : session.HoldsBuilt := by
  induction h with
  | start hgate hprocess =>
      exact ⟨Gate.holdsBuilt_of_uncommitted hgate,
        fun gate hsome => Gate.holdsBuilt_of_uncommitted (hprocess gate hsome)⟩
  | step _ step ih => exact ih.step step

/-- **A logger of a reachable state** goes back to one that was built from sound options. -/
theorem Reachable.isBuilt (h : session.Reachable) (hlogger : session.logger = .ok logger) :
    logger.IsBuilt :=
  h.holdsBuilt.isBuilt hlogger

/-! ### The logger that was returned first -/

/-- Finishing a configuration does not change the gate of the process. -/
theorem processGate_finish (session : Session) (owner : Owner) (raised : Option Fault) :
    (session.finish owner raised).1.processGate = session.processGate := by
  cases raised with
  | none => rfl
  | some fault => rfl

/-- Which logger was returned first does not change. -/
theorem first_step (hfirst : session.first = some owner) (step : Step) :
    (session.step step).1.first = some owner := by
  have hfinish : ∀ {session : Session} (other raised), session.first = some owner →
      (session.finish other raised).1.first = some owner := by
    intro session other raised hfirst
    cases raised with
    | none => simp [finish, Session.returned, hfirst]
    | some fault => exact hfirst
  rcases hstep : step.configures with - | -
  · have hoperates := session.operates_step hstep
    generalize (session.step step).1 = next at hoperates ⊢
    cases hoperates with
    | scene scene => exact hfirst
    | logger scene hlogger hnext =>
        rw [first_setLogger]
        exact hfirst
  · cases step with
    | configure source named =>
        simp only [Session.step]
        split
        · exact hfirst
        · exact hfinish _ _ hfirst
    | configureProcess source named passClock passHost =>
        simp only [Session.step]
        split
        · exact hfirst
        · exact hfinish _ _ hfirst
    | _ => simp [Step.configures] at hstep

/-- A configuration leaves a gate of the process alone that has its logger. -/
theorem processGate_step_of_committed {gate : Gate} (hgate : session.processGate = some gate)
    (hcommitted : gate.committed = some logger) {step : Step} (hstep : step.configures = true) :
    (session.step step).1.processGate = some gate := by
  cases step with
  | configure source named =>
      rcases hload : Invocation.load source named with fault | call
      · rw [step_configure_of_error hload]
        exact hgate
      · rw [step_configure hload]
        exact (processGate_finish _ _ _).trans hgate
  | configureProcess source named passClock passHost =>
      rcases hload : Invocation.load source named with fault | call
      · simp only [Session.step, hload]
        exact hgate
      · obtain ⟨hsame, -⟩ := ProcessGate.invoke_of_committed hcommitted session.platform
          (session.passed passClock passHost) call session.scene
        simp only [Session.step, hload, hgate, hsame]
        exact processGate_finish _ _ _
  | _ => simp [Step.configures] at hstep

/-- **The logger that was returned first grows at most**, whatever is done. -/
theorem logger_step (h : session.logger = .ok logger) (step : Step) :
    ∃ later, (session.step step).1.logger = .ok later ∧ later.Extends logger := by
  rcases hstep : step.configures with - | -
  · have hoperates := session.operates_step hstep
    generalize (session.step step).1 = next at hoperates ⊢
    cases hoperates with
    | scene scene => exact ⟨logger, h, .refl logger⟩
    | @logger current next scene hlogger hnext =>
        obtain rfl : logger = current := Except.ok.inj (h.symm.trans hlogger)
        have hthere : ({ session with scene } : Session).logger = .ok logger := h
        exact ⟨next, logger_setLogger hthere next, hnext⟩
  · -- a configuration finds its gate done, or is one of the other gate
    rcases committed_of_logger h with ⟨howner, hcommitted⟩ | ⟨howner, gate, hgate, hcommitted⟩
    · obtain ⟨later, hlater, hextends⟩ :=
        (Committed.step ⟨⟨logger, hcommitted, .refl logger⟩, by simp [howner]⟩ step).kept
      refine ⟨later, ?_, hextends⟩
      simp only [Session.logger, first_step howner step, loggerOf, Gate.current, hlater]
    · refine ⟨logger, ?_, .refl logger⟩
      simp only [Session.logger, first_step howner step, loggerOf, ProcessGate.current,
        processGate_step_of_committed hgate hcommitted hstep, Gate.current, hcommitted]

/-- **The logger that was returned first grows at most** over a whole run. -/
theorem logger_final (h : session.logger = .ok logger) (steps : List Step) :
    ∃ later, (session.final steps).logger = .ok later ∧ later.Extends logger := by
  refine final_induction (P := fun s => ∃ later, s.logger = .ok later ∧ later.Extends logger)
    (fun s step _ hlater => ?_) ⟨logger, h, .refl logger⟩
  obtain ⟨later, hthere, hextends⟩ := hlater
  obtain ⟨next, hnext, hmore⟩ := logger_step hthere step
  exact ⟨next, hnext, hmore.trans hextends⟩

end Session

end TraceLog
