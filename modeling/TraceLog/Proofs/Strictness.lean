import TraceLog.Proofs.Agreement
import TraceLog.Proofs.Isolation
import TraceLog.Proofs.StrictPolicy

/-!
# The Policy That Ends the Process Only Stops the Run

`Session.strict` is a session that ends the process where the lenient one notes a failure. Both go
along with each other step by step, until the first failure is noted (`Session.FirstFailure`). That
may be in the middle of a record: the sinks in front have received it then, and the strict session
ends with what they have.

The strict session reports its end on standard error, which may be the stream of a sink. It ends
where standard error takes the report and can be flushed (`Outlets.takesEnd`). Otherwise what keeps
it from ending is a fault like any other that the sink meets, and the call goes on.

## Main results

* `Session.step_strict`, `Session.run_strict`: steps and runs that note no failure.
* `Session.exists_firstFailure`, `Session.FirstFailure.step_strict`: runs that note one.
* `Session.ends_at_first_failure`: all runs.
* `Session.end_is_reported`: what the strict session leaves besides, and where it does not end.
-/

namespace TraceLog

/-! ### The report on the end -/

namespace Outlets

variable {outlets : Outlets} {frames : Frames} {fault : FormattingFault}

/-- **A report that is taken** stands on standard error, and nothing else has changed. -/
theorem exists_reportEnd_of_takesEnd (h : outlets.takesEnd frames fault = true) :
    ∃ stream, outlets.find? .console = some stream ∧
      outlets.reportEnd (Report.ofEnd frames fault) = ({ outlets with
        reports := outlets.reports ++
          (Report.ofEnd frames fault).map (⟨stream.device.extent, ·⟩) }, none) := by
  have hnone := Option.isNone_iff_eq_none.mp h
  rcases hreport : outlets.report (Report.ofEnd frames fault) with ⟨next, - | cause⟩
  · simp only [reportEnd, hreport] at hnone ⊢
    have hsame := withoutReports_report (Report.ofEnd frames fault) outlets
    rw [hreport] at hsame
    rcases hfind : outlets.find? .console with - | stream
    · -- there is nothing to be flushed
      have hmissing : next.find? .console = none := (find?_congr hsame _).trans hfind
      simp [consoleFlush?, hmissing] at hnone
    · have htaken := report_of_taken hfind (congrArg Prod.snd hreport)
      rw [hreport] at htaken
      exact ⟨stream, rfl, Prod.ext htaken hnone⟩
  · simp [reportEnd, hreport] at hnone

/-- An open text takes every report on the end. -/
theorem takesEnd_of_text {content : String}
    (hfind : outlets.find? .console = some ⟨.text content, false⟩) (frames : Frames)
    (fault : FormattingFault) : outlets.takesEnd frames fault = true := by
  have hnone : ((Report.ofEnd frames fault).findSome? fun piece => outlets.refusal? piece) = none :=
    List.findSome?_eq_none_iff.mpr fun piece _ => by
      rw [refusal?, hfind]
      rfl
  rw [takesEnd, snd_reportEnd, hnone, consoleFlush?, hfind]
  rfl

end Outlets

/-- What standard error was is not changed by the sinks in front of the failure. -/
theorem FailsBehind.blanks {platform : Platform} {logger : Logger} {record : Record}
    {front : List Sink} {scene moment : Scene} {fault : FormattingFault}
    (h : FailsBehind platform logger record front scene moment fault) :
    moment.outlets.blanks = scene.outlets.blanks := by
  obtain @⟨reached, clock, -, hreached, -, -⟩ := h
  have hblanks := (delivers_deliver platform logger record front scene).blanks
  rw [hreached, Outlets.blanks_withoutReports, Outlets.blanks_withoutReports] at hblanks
  refine Eq.trans ?_ hblanks
  cases logger.clock with
  | own => rfl
  | value v => rfl

/-! ### Strict sessions -/

/-- The answer with its logger, if it is one, made strict. -/
def Answer.strict : Answer → Answer
  | .logger inspected => .logger inspected.strict
  | answer => answer

/-- The end of a step with the answer made strict. -/
def StepEnd.strict : StepEnd → StepEnd
  | .answered answer => .answered answer.strict
  | ending => ending

namespace Session

/-- The session that ends the process where this one notes a failure. -/
def strict (session : Session) : Session :=
  { session with
    gate := session.gate.strict
    processGate := session.processGate.map Gate.strict }

/-- The state and the ending of a step, made strict. -/
def strictEntry (entry : Session × StepEnd) : Session × StepEnd :=
  (entry.1.strict, entry.2.strict)

end Session

/-- A step that brings no failure policy of its own: what it configures is under the policy of the
session. -/
def Step.NamesNoPolicy : Step → Prop
  | .configureProcess _ named _ _ => ∀ argument ∈ named, argument.1 ≠ "failure_strategy"
  | _ => True

/-! ### Steps -/

namespace Session

variable {session : Session} {step : Step}

/-- The loggers of the strict session are those of the other one, made strict. -/
theorem loggerOf_strict (session : Session) (owner : Owner) :
    session.strict.loggerOf owner = (session.loggerOf owner).map Logger.strict := by
  have hcurrent : ∀ gate : Gate, gate.strict.current = gate.current.map Logger.strict := by
    intro gate
    rcases hcommitted : gate.committed with - | logger
    · simp only [Gate.current, Gate.strict, hcommitted]
      rfl
    · simp only [Gate.current, Gate.strict, hcommitted]
      rfl
  cases owner with
  | host => exact hcurrent session.gate
  | process =>
      rcases hgate : session.processGate with - | gate
      · simp only [loggerOf, strict, hgate]
        rfl
      · simp only [loggerOf, strict, hgate]
        exact hcurrent gate

/-- So is the logger that was returned first. -/
theorem logger_strict (session : Session) :
    session.strict.logger = session.logger.map Logger.strict := by
  have howner : session.strict.first = session.first := rfl
  rcases hfirst : session.first with - | owner
  · simp only [logger, howner, hfirst]
    rfl
  · simp only [logger, howner, hfirst, loggerOf_strict]

/-- A logger that is there is there in the strict session, made strict. -/
theorem logger_strict_of_ok {logger : Logger} (h : session.logger = .ok logger) :
    session.strict.logger = .ok logger.strict := by
  rw [logger_strict, h]
  rfl

/-- A logger that is missing is missing in the strict session. -/
theorem logger_strict_of_error {fault : Fault} (h : session.logger = .error fault) :
    session.strict.logger = .error fault := by
  rw [logger_strict, h]
  rfl

/-- The logger changes in the same way. -/
theorem setLogger_strict (session : Session) (logger : Logger) :
    session.strict.setLogger logger.strict = (session.setLogger logger).strict := by
  rcases howner : session.first with - | - | -
  · simp only [setLogger, strict, howner]
  · simp only [setLogger, strict, howner]
    rfl
  · rcases hgate : session.processGate with - | gate
    · simp only [setLogger, strict, howner, hgate]
      rfl
    · simp only [setLogger, strict, howner, hgate]
      rfl

/-- A configuration ends in the same way. -/
theorem finish_strict (session : Session) (owner : Owner) (raised : Option Fault) :
    session.strict.finish owner raised = strictEntry (session.finish owner raised) := by
  cases raised with
  | none => rfl
  | some fault => rfl

/-- The strict session passes what the other one does, but no policy that notes failures. -/
theorem passed_strict (session : Session) (passClock passHost : Bool) :
    session.strict.passed passClock passHost =
      ProcessGate.strictlyPassed (session.passed passClock passHost) := by
  rcases hpolicy : session.gate.policy with - | - | v
  · simp only [passed, strict, Gate.strict, hpolicy]
    rfl
  · simp only [passed, strict, Gate.strict, hpolicy]
    rfl
  · simp only [passed, strict, Gate.strict, hpolicy]
    rfl

/-- A logger is returned, or missing, in both sessions. -/
theorem identify_strict (session : Session) (owner : Owner) :
    session.strict.identify owner = (session.identify owner).strict := by
  have howner : session.strict.first = session.first := rfl
  rcases hlogger : session.loggerOf owner with fault | logger
  · simp only [identify, loggerOf_strict, hlogger]
    rfl
  · simp only [identify, loggerOf_strict, hlogger, howner]
    rfl

/-- The clock is moved in the same way. -/
theorem moveClock_strict (session : Session) (name : String) (move : Clock → Except Fault Clock)
    (answer : Clock → Answer) (hanswer : ∀ clock, (answer clock).strict = answer clock) :
    session.strict.moveClock name move answer =
      strictEntry (session.moveClock name move answer) := by
  have hclock : session.strict.scene.clock = session.scene.clock := rfl
  rcases hthere : session.scene.clock with - | clock
  · simp only [moveClock, hclock, hthere]
    rfl
  · rcases hmove : move clock with fault | moved
    · simp only [moveClock, hclock, hthere, hmove]
      rfl
    · simp only [moveClock, hclock, hthere, hmove, strictEntry, StepEnd.strict, hanswer]
      rfl

/-- A call on the host's logger ends in the same way. -/
theorem afterHost_strict (session : Session) (delivery : HostDelivery) (notice : Option Notice) :
    session.strict.afterHost delivery notice = strictEntry (session.afterHost delivery notice) := by
  rcases hraised : delivery.raised with - | fault
  · simp only [afterHost, hraised, strictEntry]
    rfl
  · simp only [afterHost, hraised, strictEntry]
    rfl

/-- The ending of a call shows no policy. -/
theorem endOfCall_strict (ending : CallEnd) : (endOfCall ending).strict = endOfCall ending := by
  cases ending with
  | _ => rfl

/-- A call that makes a record, in the strict session. -/
theorem step_log_strict_of_made {logger : Logger} {call : Logger.Call} {site : CallSite}
    {record : Record} (hlogger : session.logger = .ok logger)
    (hdraft : logger.draft call site = .made record) :
    session.strict.step (.log call site) =
      let delivered := deliver session.platform logger.strict record logger.sinks session.scene
      (({ session with scene := delivered.1 }.setLogger
        { logger with nextSequence := logger.nextSequence + 1 }).strict,
        endOfCall delivered.2) := by
  rw [step_log_of_made (logger_strict_of_ok hlogger) hdraft]
  exact Prod.ext (setLogger_strict
    { session with
      scene := (deliver session.platform logger.strict record logger.sinks session.scene).1 }
    { logger with nextSequence := logger.nextSequence + 1 }) rfl

/-- The arguments by name of an invocation are those that are given. -/
theorem named_of_load {source : Option OptionSource} {named : Table String Value}
    {call : Invocation} (h : Invocation.load source named = .ok call) : call.named = named := by
  cases source with
  | none =>
      obtain rfl := Except.ok.inj h
      rfl
  | some source =>
      obtain ⟨options, -, rfl⟩ := map_eq_ok.mp h
      rfl

/-- A configuration of the host's gate. -/
theorem step_configure_strict (session : Session) (source : Option OptionSource)
    (named : Table String Value) :
    session.strict.step (.configure source named) =
      strictEntry (session.step (.configure source named)) := by
  rcases hload : Invocation.load source named with fault | call
  · simp only [Session.step, hload]
    rfl
  · simp only [Session.step, hload, ← finish_strict]
    exact congrArg (fun attempt : Attempt =>
      ({ session.strict with gate := attempt.gate, scene := attempt.scene } : Session).finish
        .host attempt.raised) (session.gate.invoke_strict session.platform session.scene call)

/-- A configuration of the process, which brings no policy. -/
theorem step_configureProcess_strict (session : Session) (source : Option OptionSource)
    {named : Table String Value} (h : ∀ argument ∈ named, argument.1 ≠ "failure_strategy")
    (passClock passHost : Bool) :
    session.strict.step (.configureProcess source named passClock passHost) =
      strictEntry (session.step (.configureProcess source named passClock passHost)) := by
  rcases hload : Invocation.load source named with fault | call
  · simp only [Session.step, hload]
    rfl
  · have hnamed : ∀ argument ∈ call.named, argument.1 ≠ "failure_strategy" := by
      rw [named_of_load hload]
      exact h
    have hinvoke := ProcessGate.invoke_strict hnamed session.platform session.processGate
      (session.passed passClock passHost) session.scene
    rw [← passed_strict] at hinvoke
    simp only [Session.step, hload, ← finish_strict]
    exact congrArg (fun attempt : Attempt =>
      ({ session.strict with processGate := some attempt.gate, scene := attempt.scene } :
        Session).finish .process attempt.raised) hinvoke

/-- The logger is inspected. -/
theorem step_inspect_strict (session : Session) :
    session.strict.step .inspect = strictEntry (session.step .inspect) := by
  rcases hthere : session.logger with fault | logger
  · simp only [Session.step, logger_strict_of_error hthere, hthere]
    rfl
  · simp only [Session.step, logger_strict_of_ok hthere, hthere]
    rfl

/-- **A logging call** that notes no failure. -/
theorem step_log_strict {call : Logger.Call} {site : CallSite}
    (h : (session.step (.log call site)).1.scene.failures = session.scene.failures) :
    session.strict.step (.log call site) = strictEntry (session.step (.log call site)) := by
  rcases hthere : session.logger with fault | logger
  · simp only [Session.step, logger_strict_of_error hthere, hthere]
    rfl
  rcases hdraft : logger.draft call site with ⟨taken, fault?⟩ | record
  · have hunmade : logger.strict.draft call site = .unmade taken fault? := hdraft
    rw [step_log_of_unmade hthere hdraft, step_log_of_unmade (logger_strict_of_ok hthere) hunmade]
    refine Prod.ext (setLogger_strict session
      { logger with nextSequence := logger.nextSequence + taken }) ?_
    rcases fault? with - | fault
    · rfl
    · rfl
  · rw [step_log_of_made hthere hdraft, scene_setLogger] at h
    rw [step_log_strict_of_made hthere hdraft, step_log_of_made hthere hdraft, deliver_strict h]
    exact Prod.ext rfl (endOfCall_strict _).symm

/-- A sink is attached. -/
theorem step_attach_strict (session : Session) (stream : String) (device : Device) :
    session.strict.step (.attach stream device) =
      strictEntry (session.step (.attach stream device)) := by
  rcases hthere : session.logger with fault | logger
  · simp only [Session.step, logger_strict_of_error hthere, hthere]
    rfl
  · simp only [Session.step, logger_strict_of_ok hthere, hthere]
    exact Prod.ext (setLogger_strict (session.ensure stream device) (logger.attach _)) rfl

/-- The time is asked for. -/
theorem step_clockText_strict (session : Session) :
    session.strict.step .clockText = strictEntry (session.step .clockText) := by
  rcases hthere : session.logger with fault | logger
  · simp only [Session.step, logger_strict_of_error hthere, hthere]
    rfl
  · have hsame : logger.strict.clockText session.strict.scene =
        logger.clockText session.scene := rfl
    rcases hshown : logger.clockText session.scene with ⟨fault | time, scene⟩
    · simp only [Session.step, logger_strict_of_ok hthere, hthere, hsame, hshown]
      rfl
    · simp only [Session.step, logger_strict_of_ok hthere, hthere, hsame, hshown]
      rfl

/-- A record of the host. -/
theorem step_logHost_strict (session : Session) (level : Value) (message : String)
    (site : CallSite) :
    session.strict.step (.logHost level message site) =
      strictEntry (session.step (.logHost level message site)) := by
  have hscene : session.strict.scene = session.scene := rfl
  rcases hhost : session.scene.host with - | host
  · simp only [Session.step, hscene, hhost]
    rfl
  · rcases hlevel : Level.ofRecord level with fault | n
    · simp only [Session.step, hscene, hhost, hlevel]
      rfl
    · simp only [Session.step, hscene, hhost, hlevel]
      exact session.afterHost_strict _ none

/-- The host's logger is redirected. -/
theorem step_redirectHost_strict (session : Session) (stream : String) (device : Device) :
    session.strict.step (.redirectHost stream device) =
      strictEntry (session.step (.redirectHost stream device)) := by
  have hensured : (session.strict.ensure stream device).scene.host = session.scene.host := rfl
  have hkept : (session.ensure stream device).scene.host = session.scene.host := rfl
  rcases hhost : session.scene.host with - | host
  · simp only [Session.step, hensured, hkept, hhost]
    rfl
  · simp only [Session.step, hensured, hkept, hhost]
    exact (session.ensure stream device).afterHost_strict _ _

/-- The host's logger is inspected. -/
theorem step_inspectHost_strict (session : Session) :
    session.strict.step .inspectHost = strictEntry (session.step .inspectHost) := by
  have hscene : session.strict.scene = session.scene := rfl
  rcases hhost : session.scene.host with - | host
  · simp only [Session.step, hscene, hhost]
    rfl
  · simp only [Session.step, hscene, hhost]
    rfl

/-- **A step that notes no failure** is the same in the strict session. -/
theorem step_strict (hpolicy : step.NamesNoPolicy)
    (h : (session.step step).1.scene.failures = session.scene.failures) :
    session.strict.step step = strictEntry (session.step step) := by
  cases step with
  | configure source named => exact step_configure_strict session source named
  | configureProcess source named passClock passHost =>
      exact step_configureProcess_strict session source hpolicy passClock passHost
  | current => exact Prod.ext rfl (session.identify_strict .host)
  | currentOfProcess => exact Prod.ext rfl (session.identify_strict .process)
  | isConfigured =>
      exact congrArg (fun b => (session.strict, StepEnd.answered (.flag b))) Option.isSome_map
  | inspect => exact step_inspect_strict session
  | log call site => exact step_log_strict h
  | attach stream device => exact step_attach_strict session stream device
  | clockText => exact step_clockText_strict session
  | setClock value => exact moveClock_strict _ _ _ _ fun _ => rfl
  | advanceClock delta =>
      refine moveClock_strict _ _ _ _ fun clock => ?_
      rw [timeShown]
      split
      · rfl
      · rfl
      · rfl
  | logHost level message site => exact step_logHost_strict session level message site
  | redirectHost stream device => exact step_redirectHost_strict session stream device
  | inspectHost => exact step_inspectHost_strict session
  | _ => rfl

/-- A move of the clock notes no failure. -/
theorem failures_moveClock (session : Session) (name : String) (move : Clock → Except Fault Clock)
    (answer : Clock → Answer) :
    (session.moveClock name move answer).1.scene.failures = session.scene.failures := by
  obtain ⟨⟨clock, hmoved⟩, -⟩ := session.exists_moveClock name move answer
  rw [hmoved]

/-- What follows a call on the host's logger notes no failure. -/
theorem failures_afterHost (session : Session) (delivery : HostDelivery)
    (notice : Option Notice) :
    (session.afterHost delivery notice).1.scene.failures = session.scene.failures := by
  cases notice with
  | none => rfl
  | some notice => rfl

/-- A step that configures notes no failure. -/
theorem failures_step_of_configures (h : step.configures = true) :
    (session.step step).1.scene.failures = session.scene.failures := by
  cases step with
  | configure source named =>
      rcases hload : Invocation.load source named with fault | call
      · rw [step_configure_of_error hload]
      · rw [step_configure hload, scene_finish]
        exact Gate.failures_invoke _ _ _ _
  | configureProcess source named passClock passHost =>
      rcases hload : Invocation.load source named with fault | call
      · simp only [Session.step, hload]
      · simp only [Session.step, hload, scene_finish]
        exact ProcessGate.failures_invoke _ _ _ _ _
  | _ => simp [Step.configures] at h

/-- A step that is no logging call notes no failure. -/
theorem failures_step (hstep : ∀ call site, step ≠ .log call site) :
    (session.step step).1.scene.failures = session.scene.failures := by
  cases step with
  | configure source named => exact failures_step_of_configures rfl
  | configureProcess source named passClock passHost => exact failures_step_of_configures rfl
  | inspect => rw [fst_step_inspect]
  | log call site => exact absurd rfl (hstep call site)
  | attach stream device =>
      rcases hlogger : session.logger with fault | logger
      · simp only [Session.step, hlogger]
      · simp only [Session.step, hlogger, scene_setLogger]
        rfl
  | clockText =>
      rcases hlogger : session.logger with fault | logger
      · simp only [Session.step, hlogger]
      · simp only [Session.step, hlogger, Logger.clockText, Scene.failures_setClockFor]
  | setClock value => exact failures_moveClock _ _ _ _
  | advanceClock delta => exact failures_moveClock _ _ _ _
  | logHost level message =>
      simp only [Session.step]
      split
      · rfl
      · split
        · rfl
        · exact failures_afterHost _ _ _
  | redirectHost stream device =>
      simp only [Session.step]
      split
      · rfl
      · exact failures_afterHost (session.ensure stream device) _ _
  | inspectHost => rw [fst_step_inspectHost]
  | _ => rfl

/-! ### Runs -/

/-- A strict ending ends the run where the other one does. -/
theorem goesOn_strict (ending : StepEnd) : ending.strict.goesOn = ending.goesOn := by
  cases ending with
  | _ => rfl

variable {steps : List Step}

/-- **A run that notes no failure** is the same in the strict session. -/
theorem run_strict (hpolicy : ∀ step ∈ steps, step.NamesNoPolicy)
    (h : ∀ entry ∈ session.run steps, entry.1.scene.failures = session.scene.failures) :
    session.strict.run steps = (session.run steps).map strictEntry := by
  induction steps generalizing session with
  | nil => rfl
  | cons step steps ih =>
      obtain ⟨hfirst, hrest⟩ := List.forall_mem_cons.mp hpolicy
      rcases hgoes : (session.step step).2.goesOn with - | -
      · rw [run_cons_of_aborted hgoes] at h ⊢
        have hstep := step_strict hfirst (h _ (List.mem_singleton_self _))
        have hends : (session.strict.step step).2.goesOn = false := by
          rw [hstep]
          exact (goesOn_strict _).trans hgoes
        rw [run_cons_of_aborted hends, hstep]
        rfl
      · rw [run_cons hgoes] at h ⊢
        obtain ⟨hsame, hlater⟩ := List.forall_mem_cons.mp h
        have hstep := step_strict hfirst hsame
        have hgoes' : (session.strict.step step).2.goesOn = true := by
          rw [hstep]
          exact (goesOn_strict _).trans hgoes
        rw [run_cons hgoes', hstep, List.map_cons]
        exact congrArg _ (ih hrest fun entry hentry => (hlater entry hentry).trans hsame.symm)

/-- What a run leaves that notes no failure, the strict session leaves, too. -/
theorem final_strict (hpolicy : ∀ step ∈ steps, step.NamesNoPolicy)
    (h : ∀ entry ∈ session.run steps, entry.1.scene.failures = session.scene.failures) :
    session.strict.final steps = (session.final steps).strict := by
  rw [final, final, run_strict hpolicy h, List.map_map]
  rcases List.eq_nil_or_concat (session.run steps) with hnil | ⟨entries, last, hlast⟩
  · rw [hnil]
    rfl
  · simp only [hlast, List.concat_eq_append, List.map_append, List.map_cons, List.map_nil,
      List.getLastD_concat, Function.comp_apply, strictEntry]

/-- What a run leaves that notes no failure has the failures that were there before. -/
theorem failures_final
    (h : ∀ entry ∈ session.run steps, entry.1.scene.failures = session.scene.failures) :
    (session.final steps).scene.failures = session.scene.failures := by
  rw [final]
  rcases List.eq_nil_or_concat (session.run steps) with hnil | ⟨entries, last, hlast⟩
  · rw [hnil]
    rfl
  · have hmem : last ∈ session.run steps := by simp [hlast]
    simp only [hlast, List.concat_eq_append, List.map_append, List.map_cons, List.map_nil,
      List.getLastD_concat]
    exact h last hmem

/-- The first failure of a run: behind steps that note none, the record of a logging call cannot be
formatted for one of the sinks, when those in front of it are done. -/
structure FirstFailure (session : Session) (steps : List Step) where
  before : List Step
  call : Logger.Call
  site : CallSite
  after : List Step
  logger : Logger
  record : Record
  front : List Sink
  sink : Sink
  rest : List Sink
  /-- The scene of the failure. -/
  moment : Scene
  fault : FormattingFault
  steps_eq : steps = before ++ .log call site :: after
  goesOn : ∀ entry ∈ session.run before, entry.2.goesOn = true
  unnoted : ∀ entry ∈ session.run before, entry.1.scene.failures = session.scene.failures
  logger_eq : (session.final before).logger = .ok logger
  policy : logger.policy = .record
  draft : logger.draft call site = .made record
  sinks : logger.sinks = front ++ sink :: rest
  fails : FailsBehind (session.final before).platform logger record front
    (session.final before).scene moment fault

namespace FirstFailure

/-- What the call comes to when the failure is noted: nothing is written through the sink, and the
other ones are given the record. -/
def noted (first : session.FirstFailure steps) : Scene × CallEnd :=
  deliverBehind (session.final first.before).platform first.logger first.record first.rest
    (raising (writeThrough (session.final first.before).platform.lineEnd first.record "" first.sink
      (first.moment.noteFailure first.fault)))

/-- What the call comes to when the failure is to end the process. -/
def ended (first : session.FirstFailure steps) : Scene × CallEnd :=
  deliverBehind (session.final first.before).platform first.logger.strict first.record first.rest
    (endProcess first.record first.fault first.moment)

/-- The scene of the failure once that is reported. -/
def reported (first : session.FirstFailure steps) : Scene :=
  (first.moment.reportEnd first.record first.fault).1

/-- The session behind the call, in this scene. -/
def behindCall (first : session.FirstFailure steps) (scene : Scene) : Session :=
  ({ session.final first.before with scene } : Session).setLogger
    { first.logger with nextSequence := first.logger.nextSequence + 1 }

/-- The scene behind the call. -/
theorem scene_behindCall (first : session.FirstFailure steps) (scene : Scene) :
    (first.behindCall scene).scene = scene :=
  scene_setLogger _ _

/-- A first failure behind one step more. -/
def behind {step : Step} (hgoes : (session.step step).2.goesOn = true)
    (hsame : (session.step step).1.scene.failures = session.scene.failures)
    (first : (session.step step).1.FirstFailure steps) :
    session.FirstFailure (step :: steps) where
  before := step :: first.before
  call := first.call
  site := first.site
  after := first.after
  logger := first.logger
  record := first.record
  front := first.front
  sink := first.sink
  rest := first.rest
  moment := first.moment
  fault := first.fault
  steps_eq := congrArg (step :: ·) first.steps_eq
  goesOn := by
    rw [run_cons hgoes]
    exact List.forall_mem_cons.mpr ⟨hgoes, first.goesOn⟩
  unnoted := by
    rw [run_cons hgoes]
    exact List.forall_mem_cons.mpr
      ⟨hsame, fun entry hentry => (first.unnoted entry hentry).trans hsame⟩
  logger_eq := by
    rw [final_cons hgoes]
    exact first.logger_eq
  policy := first.policy
  draft := first.draft
  sinks := first.sinks
  fails := by
    rw [final_cons hgoes]
    exact first.fails

/-- The session notes the failure in its scene, and goes on. -/
theorem step_eq (first : session.FirstFailure steps) :
    (session.final first.before).step (.log first.call first.site) =
      (first.behindCall first.noted.1, endOfCall first.noted.2) := by
  have hdelivered : deliver (session.final first.before).platform first.logger first.record
      first.logger.sinks (session.final first.before).scene = first.noted := by
    rw [first.sinks]
    exact first.fails.deliver_eq first.policy first.sink first.rest
  rw [step_log_of_made first.logger_eq first.draft, hdelivered]
  rfl

/-- The strict session is to end in this scene. -/
theorem step_strict (first : session.FirstFailure steps) :
    (session.final first.before).strict.step (.log first.call first.site) =
      ((first.behindCall first.ended.1).strict, endOfCall first.ended.2) := by
  have hdelivered : deliver (session.final first.before).platform first.logger.strict first.record
      first.logger.sinks (session.final first.before).scene = first.ended := by
    rw [first.sinks]
    exact first.fails.deliver_strict first.policy first.sink first.rest
  rw [step_log_strict_of_made first.logger_eq first.draft, hdelivered]
  rfl

/-- A process whose report is taken ends with that. -/
theorem ended_of_takesEnd (first : session.FirstFailure steps)
    (h : first.moment.outlets.takesEnd first.record.frames first.fault = true) :
    first.ended = (first.reported, .aborted first.fault) := by
  have hnone := Option.isNone_iff_eq_none.mp h
  rcases hreport :
    first.moment.outlets.reportEnd (Report.ofEnd first.record.frames first.fault) with
    ⟨outlets, hindrance⟩
  obtain rfl : hindrance = none := by
    rwa [hreport] at hnone
  simp only [ended, reported, endProcess, Scene.reportEnd, hreport, deliverBehind]

/-- A report that is taken stands on standard error, and changes nothing else. -/
theorem exists_reported (first : session.FirstFailure steps)
    (h : first.moment.outlets.takesEnd first.record.frames first.fault = true) :
    ∃ stream, first.moment.outlets.find? .console = some stream ∧
      first.reported = first.moment.setOutlets { first.moment.outlets with
        reports := first.moment.outlets.reports ++
          (Report.ofEnd first.record.frames first.fault).map (⟨stream.device.extent, ·⟩) } := by
  obtain ⟨stream, hfind, hreport⟩ := Outlets.exists_reportEnd_of_takesEnd h
  refine ⟨stream, hfind, ?_⟩
  rw [reported, Scene.reportEnd, hreport]

/-- The failure is noted, and is the first one. -/
theorem exists_failures (first : session.FirstFailure steps) :
    ∃ more, first.noted.1.failures = session.scene.failures ++ first.fault :: more := by
  obtain ⟨more, hmore⟩ := first.fails.exists_failures first.policy first.sink first.rest
  rw [first.fails.deliver_eq first.policy, failures_final first.unnoted] at hmore
  exact ⟨more, hmore⟩

/-- Up to the first failure the strict session is the same. -/
theorem run_before (first : session.FirstFailure steps)
    (hpolicy : ∀ step ∈ steps, step.NamesNoPolicy) :
    session.strict.run first.before = (session.run first.before).map strictEntry ∧
      session.strict.final first.before = (session.final first.before).strict := by
  have hbefore : ∀ step ∈ first.before, step.NamesNoPolicy := by
    intro step hmem
    refine hpolicy step ?_
    rw [first.steps_eq]
    exact List.mem_append_left _ hmem
  exact ⟨Session.run_strict hbefore first.unnoted, final_strict hbefore first.unnoted⟩

/-- **The strict session ends at the first failure** where its report is taken, with what its sinks
have received. -/
theorem run_strict (first : session.FirstFailure steps)
    (hpolicy : ∀ step ∈ steps, step.NamesNoPolicy)
    (h : first.moment.outlets.takesEnd first.record.frames first.fault = true) :
    session.strict.run steps = (session.run first.before).map strictEntry ++
      [((first.behindCall first.reported).strict, .aborted first.fault)] := by
  obtain ⟨hrun, hfinal⟩ := first.run_before hpolicy
  have hgoes : ∀ entry ∈ session.strict.run first.before, entry.2.goesOn = true := by
    intro entry hentry
    rw [hrun] at hentry
    obtain ⟨lenient, hmem, rfl⟩ := List.mem_map.mp hentry
    exact (goesOn_strict _).trans (first.goesOn lenient hmem)
  have hstep : (session.final first.before).strict.step (.log first.call first.site) =
      ((first.behindCall first.reported).strict, .aborted first.fault) := by
    rw [first.step_strict, first.ended_of_takesEnd h]
    rfl
  have hends : ((session.final first.before).strict.step
      (.log first.call first.site)).2.goesOn = false := by
    rw [hstep]
    rfl
  conv_lhs => rw [first.steps_eq]
  rw [run_append hgoes, hrun, hfinal, run_cons_of_aborted hends, hstep]

end FirstFailure

/-- **A run that notes a failure** has a first one. -/
theorem exists_firstFailure
    (h : ∃ entry ∈ session.run steps, entry.1.scene.failures ≠ session.scene.failures) :
    Nonempty (session.FirstFailure steps) := by
  induction steps generalizing session with
  | nil => simp at h
  | cons step steps ih =>
      by_cases hsame : (session.step step).1.scene.failures = session.scene.failures
      · obtain ⟨entry, hentry, hnoted⟩ := h
        rcases hgoes : (session.step step).2.goesOn with - | -
        · rw [run_cons_of_aborted hgoes] at hentry
          obtain rfl := List.mem_singleton.mp hentry
          exact absurd hsame hnoted
        · rw [run_cons hgoes] at hentry
          rcases List.mem_cons.mp hentry with rfl | hlater
          · exact absurd hsame hnoted
          · obtain ⟨first⟩ := ih ⟨entry, hlater, fun heq => hnoted (heq.trans hsame)⟩
            exact ⟨first.behind hgoes hsame⟩
      · obtain ⟨call, site, rfl⟩ : ∃ call site, step = .log call site := by
          by_contra hlog
          exact hsame (failures_step fun call site heq => hlog ⟨call, site, heq⟩)
        rcases hlogger : session.logger with fault | logger
        · simp [Session.step, hlogger] at hsame
        rcases hdraft : logger.draft call site with ⟨taken, fault?⟩ | record
        · rw [step_log_of_unmade hlogger hdraft, scene_setLogger] at hsame
          exact absurd rfl hsame
        · rw [step_log_of_made hlogger hdraft, scene_setLogger] at hsame
          obtain ⟨hpolicy, front, sink, rest, moment, fault, hsinks, hfails⟩ :=
            exists_failsBehind hsame
          exact ⟨{
            before := [], call, site, after := steps, logger, record, front, sink, rest, moment
            fault, steps_eq := rfl, goesOn := by simp, unnoted := by simp, logger_eq := hlogger
            policy := hpolicy, draft := hdraft, sinks := hsinks, fails := hfails }⟩

/-- **The policy that ends the process only stops the run.** Steps that bring no policy of their
own are run in a session and in the strict one.

* If no failure is noted, both runs are the same: the same answers, and the same streams and files
  behind each step.
* Otherwise both are the same up to the logging call that notes the first failure, and in this call
  up to the scene in which the failure is found: the sinks in front have their lines of this record.
  In this scene the other session notes the failure, and goes on.
* Where standard error takes the report on the failure, the strict session ends there with status 1.
  It leaves this scene, with the report on standard error and nothing else written. -/
theorem ends_at_first_failure (session : Session)
    (hpolicy : ∀ step ∈ steps, step.NamesNoPolicy) :
    ((∀ entry ∈ session.run steps, entry.1.scene.failures = session.scene.failures) →
      session.strict.run steps = (session.run steps).map strictEntry) ∧
    ((∃ entry ∈ session.run steps, entry.1.scene.failures ≠ session.scene.failures) →
      ∃ first : session.FirstFailure steps,
        (session.final first.before).step (.log first.call first.site) =
          (first.behindCall first.noted.1, endOfCall first.noted.2) ∧
        (∃ more, first.noted.1.failures = session.scene.failures ++ first.fault :: more) ∧
        session.strict.run first.before = (session.run first.before).map strictEntry ∧
        (session.strict.final first.before).step (.log first.call first.site) =
          ((first.behindCall first.ended.1).strict, endOfCall first.ended.2) ∧
        (first.moment.outlets.takesEnd first.record.frames first.fault = true →
          session.strict.run steps = (session.run first.before).map strictEntry ++
            [((first.behindCall first.reported).strict, .aborted first.fault)] ∧
          (first.behindCall first.reported).strict.scene = first.reported ∧
          (StepEnd.aborted first.fault).status? = some 1 ∧
          ∃ stream, first.moment.outlets.find? .console = some stream ∧
            first.reported = first.moment.setOutlets { first.moment.outlets with
              reports := first.moment.outlets.reports ++
                (Report.ofEnd first.record.frames first.fault).map
                  (⟨stream.device.extent, ·⟩) })) := by
  refine ⟨run_strict hpolicy, fun hnoted => ?_⟩
  obtain ⟨first⟩ := exists_firstFailure hnoted
  obtain ⟨hbefore, hfinal⟩ := first.run_before hpolicy
  exact ⟨first, first.step_eq, first.exists_failures, hbefore, hfinal ▸ first.step_strict,
    fun htakes => ⟨first.run_strict hpolicy htakes, first.scene_behindCall first.reported, rfl,
      first.exists_reported htakes⟩⟩

/-- Two sinks and a clock that fails when it is read for the second one: the strict session ends
when the first sink has its line, and never comes to the other call. -/
theorem ends_at_first_failure_of_second_reading :
    let site : CallSite := { file := "d.py", function := .text "f", line := .int 1 }
    let session := scripted (.time (.real .zero)) (.failure "off")
    let steps : List Step :=
      [.log (.print (.text "x") .null) site, .log (.print (.text "y") .null) site]
    (∀ step ∈ steps, step.NamesNoPolicy) ∧
      (session.run steps).map (fun entry => entry.1.scene.failures.length) = [1, 3] ∧
      ∃ first : session.FirstFailure steps,
        session.strict.run steps =
          [((first.behindCall first.reported).strict, .aborted first.fault)] ∧
        first.moment.outlets.find? .console = some ⟨.text "0.00\tINFO\tx\n", false⟩ ∧
        first.moment.outlets.find? (.named "s") = some ⟨.text "", false⟩ := by
  intro site session steps
  have hpolicy : ∀ step ∈ steps, step.NamesNoPolicy := by
    simp [steps, Step.NamesNoPolicy]
  have hcounted : (session.run steps).map (fun entry => entry.1.scene.failures.length) =
      [1, 3] := by
    decide +kernel
  have hstreams : (session.strict.run steps).map (fun entry =>
      (entry.1.scene.outlets.find? .console, entry.1.scene.outlets.find? (.named "s"))) =
        [] ++ [(some ⟨.text "0.00\tINFO\tx\n", false⟩, some ⟨.text "", false⟩)] := by
    decide +kernel
  have hnoted : ∃ entry ∈ session.run steps,
      entry.1.scene.failures ≠ session.scene.failures := by
    have hmem : 1 ∈ (session.run steps).map fun entry => entry.1.scene.failures.length := by
      rw [hcounted]
      exact List.mem_cons_self
    obtain ⟨entry, hentry, hone⟩ := List.mem_map.mp hmem
    have hnone : session.scene.failures = [] := rfl
    refine ⟨entry, hentry, fun heq => ?_⟩
    rw [heq, hnone] at hone
    simp at hone
  obtain ⟨first, -, -, -, -, hends⟩ := (ends_at_first_failure session hpolicy).2 hnoted
  have hfront : first.before = [] := by
    rcases hbefore : first.before with - | ⟨step, more⟩
    · rfl
    · -- the first call already notes a failure
      have hsplit := first.steps_eq
      have hunnoted := first.unnoted
      rw [hbefore] at hsplit hunnoted
      obtain ⟨rfl, -⟩ := List.cons.inj hsplit
      rw [run_cons rfl] at hunnoted
      have hlength := congrArg List.length (hunnoted _ List.mem_cons_self)
      exact absurd hlength (by decide +kernel)
  have htakes : first.moment.outlets.takesEnd first.record.frames first.fault = true := by
    rw [Outlets.takesEnd_congr (congrFun first.fails.blanks .console), hfront, final_nil]
    exact Outlets.takesEnd_of_text rfl _ _
  obtain ⟨hrun, hscene, -, stream, -, hreported⟩ := hends htakes
  rw [hrun, List.map_append] at hstreams
  obtain ⟨-, hlast⟩ := List.append_inj' hstreams rfl
  have hreached := List.singleton_inj.mp hlast
  simp only [hscene, Prod.mk.injEq] at hreached
  rw [hreported] at hreached
  refine ⟨hpolicy, hcounted, first, ?_, hreached.1, hreached.2⟩
  rw [hrun, hfront]
  rfl

/-- **The end is reported, and may fail.** The strict session leaves more on standard error than
what stands there when the failure is noted. Where standard error is closed, it does not end. -/
theorem end_is_reported :
    let site : CallSite := { file := "d.py", function := .text "f", line := .int 1 }
    let session := scripted (.failure "off") (.failure "off")
    let deaf : Session := { session with scene :=
      { session.scene with outlets := session.scene.outlets.close .console } }
    let call : Step := .log (.print (.text "x") .null) site
    ((session.step call).2.goesOn = true ∧ (session.step call).1.scene.failures.length = 2 ∧
      (session.step call).1.scene.outlets.errorText = "") ∧
    ((session.strict.step call).2.status? = some 1 ∧
      (session.strict.step call).1.scene.outlets.errorText =
        "Error in logging:\nTraceback (most recent call last):\n" ++
          "simlog.exceptions.FormattingError: " ++
          "Cannot render selector 'clock': RuntimeError: off\n") ∧
    (deaf.strict.step call).2.status? = none := by
  decide +kernel

end Session

end TraceLog
