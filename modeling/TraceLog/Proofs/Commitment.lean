import TraceLog.Proofs.Run

/-!
# The First Configuration Wins

A gate commits one logger, at the first configuration that succeeds, and gives that logger back
from then on. Logging calls number their records and attached sinks come behind those that are
there, but nothing else of the logger changes (`Logger.Extends`), and no later configuration
changes anything: it leaves a notice.

`Session.firstReturned` is the logger of the first configuration of the host's gate that
succeeded in a run. The run may hold any other steps beside these, configurations of the process
and calls on the host's logger included.

## Main results

* `Logger.extends_call`, `Logger.extends_attach`: what the operations on a logger keep.
* `Session.operates_step`: what a step that configures no gate can do.
* `Session.Committed.step`: a committed logger is kept by every step.
* `Session.step_configure_of_committed`: a configuration of a gate that has its logger.
* `Session.first_configuration_wins`: the two phases of every run.
-/

namespace TraceLog

namespace Logger

variable {logger logger' logger'' : Logger}

/-- A logger that differs from an earlier one by sinks that were attached behind the ones it had,
and by the number of its next record, which has not gone back. -/
def Extends (later earlier : Logger) : Prop :=
  ∃ more next, earlier.nextSequence ≤ next ∧
    later = { earlier with sinks := earlier.sinks ++ more, nextSequence := next }

/-- A logger extends itself. -/
theorem Extends.refl (logger : Logger) : logger.Extends logger :=
  ⟨[], logger.nextSequence, Nat.le_refl _, by rw [List.append_nil]⟩

/-- What extends an extension extends the logger. -/
theorem Extends.trans (h : logger''.Extends logger') (h' : logger'.Extends logger) :
    logger''.Extends logger := by
  obtain ⟨more, next, hle, rfl⟩ := h'
  obtain ⟨more', next', hle', rfl⟩ := h
  exact ⟨more ++ more', next', Nat.le_trans hle hle', by rw [List.append_assoc]⟩

/-- An attached sink comes behind the others. -/
theorem extends_attach (logger : Logger) (sink : Sink) : (logger.attach sink).Extends logger :=
  ⟨[sink], logger.nextSequence, Nat.le_refl _, rfl⟩

/-- A message that is emitted takes at most one number. -/
theorem extends_emit (platform : Platform) (logger : Logger) (level : Int) (message : Value)
    (site : CallSite) (scene : Scene) :
    (logger.emit platform level message site scene).1.Extends logger := by
  rcases hadmits : logger.admits level with - | -
  · rw [emit_of_not_admits platform hadmits]
    exact .refl logger
  · have hnext : (logger.emit platform level message site scene).1 =
        { logger with nextSequence := logger.nextSequence + 1 } := by
      rw [emit, if_pos hadmits]
      split
      · rfl
      · rfl
    rw [hnext]
    exact ⟨[], logger.nextSequence + 1, Nat.le_succ _, by rw [List.append_nil]⟩

/-- A logging call takes at most one number. -/
theorem extends_call (platform : Platform) (logger : Logger) (call : Call) (site : CallSite)
    (scene : Scene) : (logger.call platform call site scene).1.Extends logger := by
  have hprint : ∀ message level,
      (logger.print platform message level site scene).1.Extends logger := by
    intro message level
    simp only [print]
    split
    · exact .refl logger
    · exact extends_emit _ _ _ _ _ _
  cases call with
  | print message level => exact hprint message level
  | printLine message level => exact hprint message level
  | printf level template args =>
      simp only [Logger.call, printf]
      split
      · exact .refl logger
      · split
        · split
          · exact .refl logger
          · exact extends_emit _ _ _ _ _ _
        · exact .refl logger

end Logger

/-- Whether a step configures a gate, that of the host or that of the process. -/
def Step.configures : Step → Bool
  | .configure .. | .configureProcess .. => true
  | _ => false

/-- Whether a step configures the gate of the process. -/
def Step.configuresProcess : Step → Bool
  | .configureProcess .. => true
  | _ => false

namespace Session

variable {session : Session} {logger : Logger} {source : Option OptionSource}
  {named : Table String Value}

/-! ### What steps do to the host's gate -/

/-- A step that changes the logger that was returned first changes the committed one or leaves
the host's gate alone. -/
theorem committed_setLogger (h : session.logger = .ok logger) (scene : Scene) (next : Logger) :
    ({ session with scene }.setLogger next).gate = session.gate ∨
      (session.gate.committed = some logger ∧
        ({ session with scene }.setLogger next).gate.committed = some next) := by
  rcases committed_of_logger h with ⟨howner, hcommitted⟩ | ⟨howner, -⟩
  · exact .inr ⟨hcommitted, by simp only [setLogger, howner]⟩
  · exact .inl (by simp only [setLogger, howner])

/-- A configuration of the process leaves the host's gate alone. -/
theorem step_configureProcess_keeps (session : Session) (source : Option OptionSource)
    (named : Table String Value) (passClock passHost : Bool) :
    (session.step (.configureProcess source named passClock passHost)).1.gate = session.gate ∧
      (session.first.isSome →
        (session.step (.configureProcess source named passClock passHost)).1.first.isSome) := by
  rcases hload : Invocation.load source named with fault | call
  · simp only [Session.step, hload]
    exact ⟨trivial, id⟩
  · simp only [Session.step, hload]
    generalize ProcessGate.invoke session.platform session.processGate
      (session.passed passClock passHost) call session.scene = attempt
    rcases hraised : attempt.raised with - | fault
    · exact ⟨rfl, fun _ => rfl⟩
    · exact ⟨rfl, id⟩

/-- What a step that configures no gate can do: something to the scene, and at most one operation
on the logger that was returned first. -/
inductive Operates (session : Session) : Session → Prop where
  | scene (scene : Scene) : Operates session { session with scene }
  | logger {current next : Logger} (scene : Scene) (hlogger : session.logger = .ok current)
      (hnext : next.Extends current) : Operates session ({ session with scene }.setLogger next)

/-- A move of the clock is nothing but that. -/
theorem operates_moveClock (session : Session) (name : String)
    (move : Clock → Except Fault Clock) (answer : Clock → Answer) :
    session.Operates (session.moveClock name move answer).1 := by
  obtain ⟨⟨clock, hmoved⟩, -⟩ := session.exists_moveClock name move answer
  rw [hmoved]
  exact .scene _

/-- Every step that configures no gate does no more. -/
theorem operates_step (session : Session) {step : Step} (hstep : step.configures = false) :
    session.Operates (session.step step).1 := by
  have hkept : session.Operates session := .scene session.scene
  cases step with
  | configure source named => simp [Step.configures] at hstep
  | configureProcess source named passClock passHost => simp [Step.configures] at hstep
  | inspect => rwa [fst_step_inspect]
  | log call site =>
      rcases hlogger : session.logger with fault | current
      · simp only [Session.step, hlogger]
        exact hkept
      · simp only [Session.step, hlogger]
        exact .logger _ hlogger (Logger.extends_call _ current call site session.scene)
  | attach stream device =>
      rcases hlogger : session.logger with fault | current
      · simp only [Session.step, hlogger]
        exact hkept
      · simp only [Session.step, hlogger]
        exact .logger _ hlogger (Logger.extends_attach current _)
  | clockText =>
      rcases hlogger : session.logger with fault | current
      · simp only [Session.step, hlogger]
        exact hkept
      · simp only [Session.step, hlogger]
        exact .scene _
  | setClock value => exact session.operates_moveClock _ _ _
  | advanceClock delta => exact session.operates_moveClock _ _ _
  | close stream => exact .scene _
  | logHost level message =>
      simp only [Session.step]
      split
      · exact hkept
      · split
        · exact hkept
        · exact .scene _
  | redirectHost stream device =>
      simp only [Session.step]
      split
      · exact .scene _
      · exact .scene _
  | inspectHost => rwa [fst_step_inspectHost]
  | _ => exact hkept

/-- What a step that configures no gate can do to that of the host: nothing, or what an
operation on the committed logger does. Which logger was returned first stays. -/
structure LeavesGate (session next : Session) : Prop where
  gate : next.gate = session.gate ∨
    ∃ current kept, session.gate.committed = some current ∧ kept.Extends current ∧
      next.gate.committed = some kept
  first : next.first = session.first

/-- An operation on the logger that was returned first. -/
theorem LeavesGate.setLogger {current next : Logger} (h : session.logger = .ok current)
    (hnext : next.Extends current) (scene : Scene) :
    LeavesGate session ({ session with scene }.setLogger next) := by
  refine ⟨?_, first_setLogger _ next⟩
  rcases committed_setLogger h scene next with hsame | ⟨hcommitted, hgate⟩
  · exact .inl hsame
  · exact .inr ⟨current, next, hcommitted, hnext, hgate⟩

/-- Every step leaves the host's gate alone in this sense, unless it configures a gate. -/
theorem leavesGate_step (session : Session) {step : Step} (hstep : step.configures = false) :
    LeavesGate session (session.step step).1 := by
  have hoperates := session.operates_step hstep
  generalize (session.step step).1 = next at hoperates ⊢
  cases hoperates with
  | scene scene => exact ⟨.inl rfl, rfl⟩
  | logger scene hlogger hnext => exact .setLogger hlogger hnext scene

/-! ### After the first success -/

/-- The host's gate has a logger that goes back to this one, and some logger was returned. -/
structure Committed (logger : Logger) (session : Session) : Prop where
  kept : ∃ kept, session.gate.committed = some kept ∧ kept.Extends logger
  returned : session.first.isSome

/-- A configuration of the host's gate that has its logger leaves a notice, and nothing else. A
step whose options are not loaded, or that names a parameter twice, does not reach the gate. -/
theorem step_configure_of_committed (hgate : session.gate.committed = some logger)
    (hfirst : session.first.isSome) (source : Option OptionSource)
    (named : Table String Value) :
    session.step (.configure source named) =
      match Invocation.load source named with
      | .error fault => (session, .raised fault)
      | .ok call =>
        match call.collision? "ConfigurationGate.configure" ["self"] with
        | some fault => (session, .raised fault)
        | none =>
          ({ session with
              scene := session.scene.notify
                (.debug Gate.noticeSource "Logger already configured; ignoring configure() call") },
            .answered (.isFirst (session.first == some .host))) := by
  obtain ⟨owner, howner⟩ := Option.isSome_iff_exists.mp hfirst
  rcases hload : Invocation.load source named with fault | call
  · exact step_configure_of_error hload session
  rw [step_configure hload, Gate.invoke_of_committed hgate]
  rcases hcollision : call.collision? "ConfigurationGate.configure" ["self"] with - | fault
  · simp only [hcollision, finish, Session.returned, howner, Option.getD_some]
    cases owner with
    | host => rfl
    | process => rfl
  · simp only [hcollision]
    rfl

/-- **A committed logger is kept by every step**: by configurations of the host's gate and of
the process, by logging calls, and by everything else. -/
theorem Committed.step (h : Committed logger session) (step : Step) :
    Committed logger (session.step step).1 := by
  obtain ⟨kept, hkept, hextends⟩ := h.kept
  rcases hstep : step.configures with - | -
  · obtain ⟨hgate, hfirst⟩ := session.leavesGate_step hstep
    refine ⟨?_, hfirst ▸ h.returned⟩
    rcases hgate with hsame | ⟨current, next, hcurrent, hnext, hgate⟩
    · rw [hsame]
      exact h.kept
    · obtain rfl : current = kept := Option.some.inj (hcurrent.symm.trans hkept)
      exact ⟨next, hgate, hnext.trans hextends⟩
  · cases step with
    | configure source named =>
        rw [step_configure_of_committed hkept h.returned]
        split
        · exact h
        · split
          · exact h
          · exact ⟨h.kept, h.returned⟩
    | configureProcess source named passClock passHost =>
        obtain ⟨hgate, hfirst⟩ :=
          session.step_configureProcess_keeps source named passClock passHost
        exact ⟨hgate ▸ h.kept, hfirst h.returned⟩
    | _ => simp [Step.configures] at hstep

/-! ### Before the first success -/

/-- The logger that the host's gate has committed when a step has configured it. -/
def configured (session : Session) (step : Step) : Option Logger :=
  match step, session.step step with
  | .configure .., (next, .answered _) => next.gate.committed
  | _, _ => none

/-- A step that configures a gate without a logger either succeeds and commits one, or leaves the
gate as it was. -/
theorem gate_of_configure (hgate : session.gate.committed = none)
    (hshort : (Step.configure source named).GivesShortLevels) :
    (∃ fault, (session.step (.configure source named)).2 = .raised fault ∧
        (session.step (.configure source named)).1.gate = session.gate) ∨
      ∃ answer logger, (session.step (.configure source named)).2 = .answered answer ∧
        Committed logger (session.step (.configure source named)).1 ∧
        session.configured (.configure source named) = some logger := by
  rcases hattempted : attempted source named with fault | ⟨options, overrides⟩
  · rw [step_configure_of_not_attempted hgate hattempted]
    exact .inl ⟨fault, rfl, rfl⟩
  obtain ⟨hoptions, hoverrides⟩ := short_of_attempted hshort hattempted
  have hstep := step_configure_of_attempted hgate hattempted
  rcases hraised : (session.gate.configure session.platform options overrides
      session.scene).raised with - | fault
  · have hcommitted := Gate.committed_of_raised_eq_none hgate hraised
    obtain ⟨logger, hlogger⟩ := Option.isSome_iff_exists.mp hcommitted
    simp only [hraised, finish, Session.returned] at hstep
    refine .inr ⟨_, logger, by rw [hstep], ?_, ?_⟩
    · rw [hstep]
      exact ⟨⟨logger, hlogger, .refl logger⟩, rfl⟩
    · simp only [configured, hstep, hlogger]
  · simp only [hraised, finish] at hstep
    refine .inl ⟨fault, by rw [hstep], ?_⟩
    rw [hstep]
    exact Gate.gate_eq_of_raised hgate hoptions hoverrides hraised

/-- A step that does not configure the host's gate commits nothing to it. -/
theorem uncommitted_step (hgate : session.gate.committed = none) {step : Step}
    (hstep : ∀ source named, step ≠ .configure source named) :
    (session.step step).1.gate.committed = none := by
  rcases hconfigures : step.configures with - | -
  · rcases (session.leavesGate_step hconfigures).gate with hsame | ⟨current, next, hcurrent, -, -⟩
    · rw [hsame]
      exact hgate
    · rw [hgate] at hcurrent
      simp at hcurrent
  · cases step with
    | configure source named => exact absurd rfl (hstep source named)
    | configureProcess source named passClock passHost =>
        rw [(session.step_configureProcess_keeps source named passClock passHost).1]
        exact hgate
    | _ => simp [Step.configures] at hconfigures

/-! ### The two phases of a run -/

/-- The logger of the first configuration of the host's gate that succeeds in a run. -/
def firstReturned (session : Session) : List Step → Option Logger
  | [] => none
  | step :: steps =>
    match session.configured step with
    | some logger => some logger
    | none =>
      if (session.step step).2.goesOn then (session.step step).1.firstReturned steps else none

/-- A step of a session whose gate has no logger either commits the logger that was returned, or
commits none. -/
theorem configured_cases (hgate : session.gate.committed = none) {step : Step}
    (hshort : step.GivesShortLevels) :
    (session.configured step = none ∧ (session.step step).1.gate.committed = none) ∨
      ∃ logger, session.configured step = some logger ∧
        (session.step step).2.goesOn = true ∧ Committed logger (session.step step).1 := by
  by_cases hstep : ∃ source named, step = .configure source named
  · obtain ⟨source, named, rfl⟩ := hstep
    rcases gate_of_configure hgate hshort with ⟨fault, hraised, hsame⟩ |
      ⟨answer, logger, hanswered, hcommitted, hconfigured⟩
    · refine .inl ⟨?_, by rw [hsame]; exact hgate⟩
      rcases hnext : session.step (.configure source named) with ⟨next, ending⟩
      rw [hnext] at hraised
      obtain rfl : ending = .raised fault := hraised
      simp only [configured, hnext]
    · exact .inr ⟨logger, hconfigured, by rw [hanswered]; rfl, hcommitted⟩
  · refine .inl ⟨?_, uncommitted_step hgate fun source named heq => hstep ⟨source, named, heq⟩⟩
    cases step with
    | configure source named => exact absurd ⟨source, named, rfl⟩ hstep
    | _ => rfl

/-- In a run from a gate without a logger, the gate has the logger that was returned first, or
still none. -/
theorem committed_final (hgate : session.gate.committed = none) {steps : List Step}
    (hshort : ∀ step ∈ steps, step.GivesShortLevels) :
    (session.firstReturned steps = none ∧ (session.final steps).gate.committed = none) ∨
      ∃ logger, session.firstReturned steps = some logger ∧
        Committed logger (session.final steps) := by
  induction steps generalizing session with
  | nil => exact .inl ⟨rfl, hgate⟩
  | cons step steps ih =>
      have hlater := fun next hmem => hshort next (List.mem_cons_of_mem step hmem)
      rcases configured_cases hgate (hshort step List.mem_cons_self) with
        ⟨hnone, hnext⟩ | ⟨logger, hconfigured, hgoes, hcommitted⟩
      · rcases hgoes : (session.step step).2.goesOn with - | -
        · rw [final_cons_of_aborted hgoes]
          exact .inl ⟨by simp [firstReturned, hnone, hgoes], hnext⟩
        · rw [final_cons hgoes]
          simp only [firstReturned, hnone, hgoes, if_true]
          exact ih hnext hlater
      · rw [final_cons hgoes]
        refine .inr ⟨logger, by simp only [firstReturned, hconfigured], ?_⟩
        exact final_induction (fun session step _ h => h.step step) hcommitted

/-- Without configurations of the process, the logger that was returned first is that of the
host's gate. -/
theorem first_final (hfirst : session.first ≠ some .process) {steps : List Step}
    (hhost : ∀ step ∈ steps, step.configuresProcess = false) :
    (session.final steps).first ≠ some .process := by
  refine final_induction (P := fun session => session.first ≠ some .process) ?_ hfirst
  intro session step hmem hfirst
  rcases hstep : step.configures with - | -
  · rw [(session.leavesGate_step hstep).first]
    exact hfirst
  · cases step with
    | configure source named =>
        rcases hload : Invocation.load source named with fault | call
        · rw [step_configure_of_error hload]
          exact hfirst
        · rw [step_configure hload]
          rcases hraised : (session.gate.invoke session.platform call session.scene).raised with
            - | fault
          · simp only [hraised, finish, Session.returned]
            rcases howner : session.first with - | - | -
            · simp
            · simp
            · exact absurd howner hfirst
          · simp only [hraised, finish]
            exact hfirst
    | configureProcess source named passClock passHost =>
        have := hhost _ hmem
        simp [Step.configuresProcess] at this
    | _ => simp [Step.configures] at hstep

/-- **The first configuration wins.** Take any run from a session whose gate has no logger, with
no long integer for a level.

* Up to the first configuration of the gate that succeeds, the gate has no logger: it says that
  it is not configured, and a request for its logger is refused.
* From then on it gives back the logger that was committed, which differs from what it was by
  attached sinks and the number of the next record only. A further configuration leaves a notice
  and nothing else, whatever options and overriding fields it has. As a step of the session it
  gives back the same logger, unless its options cannot be made or it names a parameter twice:
  then it does not reach the gate. -/
theorem first_configuration_wins (hgate : session.gate.committed = none) {steps : List Step}
    (hshort : ∀ step ∈ steps, step.GivesShortLevels) :
    let last := session.final steps
    match session.firstReturned steps with
    | none =>
      last.gate.current = .error .notConfigured ∧
      last.step .isConfigured = (last, .answered (.flag false)) ∧
      last.step .current = (last, .raised .notConfigured)
    | some logger =>
      (∃ kept : Logger, kept.Extends logger ∧ last.gate.current = .ok kept) ∧
      last.step .isConfigured = (last, .answered (.flag true)) ∧
      last.step .current = (last, .answered (.isFirst (last.first == some .host))) ∧
      (session.first ≠ some .process →
        (∀ step ∈ steps, step.configuresProcess = false) → last.first = some .host) ∧
      (∀ platform options overrides scene,
        last.gate.configure platform options overrides scene =
          { gate := last.gate
            scene := scene.notify (.debug Gate.noticeSource
              "Logger already configured; ignoring configure() call") }) ∧
      ∀ source named,
        last.step (.configure source named) =
          match Invocation.load source named with
          | .error fault => (last, .raised fault)
          | .ok call =>
            match call.collision? "ConfigurationGate.configure" ["self"] with
            | some fault => (last, .raised fault)
            | none =>
              ({ last with
                  scene := last.scene.notify (.debug Gate.noticeSource
                    "Logger already configured; ignoring configure() call") },
                .answered (.isFirst (last.first == some .host))) := by
  intro last
  rcases committed_final hgate hshort with ⟨hnone, hlast⟩ | ⟨logger, hsome, hlast⟩
  · rw [hnone]
    have hcurrent : last.gate.current = .error .notConfigured := by
      rw [Gate.current, show last.gate.committed = none from hlast]
    refine ⟨hcurrent, ?_, ?_⟩
    · rw [step, show last.gate.committed = none from hlast]
      rfl
    · rw [step, identify, loggerOf, hcurrent]
  · rw [hsome]
    obtain ⟨⟨kept, hkept, hextends⟩, hreturned⟩ := hlast
    have hcurrent : last.gate.current = .ok kept := by
      rw [Gate.current, show last.gate.committed = some kept from hkept]
    refine ⟨⟨kept, hextends, hcurrent⟩, ?_, ?_, ?_, ?_, ?_⟩
    · rw [step, show last.gate.committed = some kept from hkept]
      rfl
    · rw [step, identify, loggerOf, hcurrent]
    · intro hfirst hhost
      have hne := first_final hfirst hhost
      obtain ⟨owner, howner⟩ := Option.isSome_iff_exists.mp hreturned
      cases owner with
      | host => exact howner
      | process => exact absurd howner hne
    · exact Gate.configure_eq_of_committed hkept
    · exact step_configure_of_committed hkept hreturned

/-- A logger was committed and has written a line; a level that is no level is not even looked
at. -/
theorem first_configuration_wins_over_refused_level :
    let steps : List Step :=
      [.configure none [],
        .log (.print (.text "m") .null) { file := "d.py", function := .text "f", line := .int 1 }]
    let last := ({} : Session).final steps
    (({} : Session).firstReturned steps).isSome = true ∧
      (∃ kept : Logger, last.gate.current = .ok kept ∧ kept.nextSequence = 1) ∧
      last.step (.configure none [("level", .bool true)]) =
        ({ last with
            scene := last.scene.notify (.debug Gate.noticeSource
              "Logger already configured; ignoring configure() call") },
          .answered (.isFirst true)) := by
  intro steps last
  have hshort : ∀ step ∈ steps, step.GivesShortLevels := by
    simp [steps, Step.GivesShortLevels, Options.GiveShortLevels]
  have hphases := first_configuration_wins (show ({} : Session).gate.committed = none from rfl)
    hshort
  have hsome : (({} : Session).firstReturned steps).isSome = true := rfl
  obtain ⟨logger, hlogger⟩ := Option.isSome_iff_exists.mp hsome
  rw [hlogger] at hphases
  obtain ⟨-, -, -, -, -, hconfigure⟩ := hphases
  exact ⟨hsome, ⟨_, rfl, rfl⟩, hconfigure none [("level", .bool true)]⟩

end Session

end TraceLog
