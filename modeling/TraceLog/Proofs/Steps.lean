import TraceLog.Proofs.Commitment
import TraceLog.Proofs.ProcessWide
import TraceLog.Proofs.Transcript

/-!
# Steps of a Committed Logger

The steps that belong to the life of a logger, each taken by itself. A logging call that passes
is received by all sinks, one that does not leaves everything as it is, a new sink comes behind
the others, and neither a clock move nor another configuration of the gate writes anything.

Sinks have to take the lines that are handed to them (`Sink.Takes`), which a sink of bytes or of a
closed stream does not. The clock is a manual one, shown with two places.
Levels and sequence numbers are integers that can be written, and so are the function and the
line of a call site.

## Main results

* `Session.step_log_unwritten`, `Session.step_log_emitted`: logging calls.
* `Session.step_attach`: a new sink.
* `Session.moveClock_manual`: clock moves.
* `Session.step_repeated`: configurations that come too late.
* `Session.Logs`, `Session.Takes`: what these steps keep of the logger, the clock and the sinks.
-/

namespace TraceLog

open Number

/-! ### Single steps -/

/-- Whether a step belongs to the life of the logger of `owner`: a logging call, a new sink, a
clock move, or another configuration of the owner's gate. -/
def Step.concerns (owner : Owner) : Step → Bool
  | .log .. | .attach .. | .setClock _ | .advanceClock _ => true
  | .configure .. => owner == .host
  | .configureProcess .. => owner == .process
  | _ => false

/-- A logging call is given no long integer for its level, and the function and the line of its
call site can be written. -/
def Step.IsWritable : Step → Prop
  | .log call site => call.level.IsShortLevel ∧ ∃ function line, site.Shown function line
  | _ => True

/-- How a logging call ends that comes to an outcome. -/
def endOfOutcome : Except Fault (Option (Int × String)) → StepEnd
  | .error fault => .raised fault
  | .ok _ => .answered .nothing

namespace Session

variable {session : Session} {logger : Logger} {owner : Owner} {time : Binary64}
  {readings : Nat} {call : Logger.Call} {site : CallSite}

/-- Another configuration of the owner's gate leaves notices, and nothing else. -/
theorem step_repeated (hfirst : session.first = some owner) (hlogger : session.logger = .ok logger)
    {step : Step} (hconfigures : step.configures = true)
    (hconcerns : step.concerns owner = true) :
    (∃ notices, (session.step step).1 =
      { session with scene := { session.scene with notices } }) ∧
      (session.step step).2.goesOn = true := by
  rcases committed_of_logger hlogger with ⟨howner, hcommitted⟩ | ⟨howner, gate, hgate, hcommitted⟩
  · obtain rfl : owner = .host := Option.some.inj (hfirst.symm.trans howner)
    cases step with
    | configure source named =>
        rw [step_configure_of_committed hcommitted (by rw [howner]; rfl)]
        split
        · exact ⟨⟨session.scene.notices, rfl⟩, rfl⟩
        · split
          · exact ⟨⟨session.scene.notices, rfl⟩, rfl⟩
          · exact ⟨⟨_, rfl⟩, rfl⟩
    | configureProcess source named passClock passHost => simp [Step.concerns] at hconcerns
    | _ => simp [Step.configures] at hconfigures
  · obtain rfl : owner = .process := Option.some.inj (hfirst.symm.trans howner)
    cases step with
    | configure source named => simp [Step.concerns] at hconcerns
    | configureProcess source named passClock passHost =>
        rcases hload : Invocation.load source named with fault | call
        · simp only [Session.step, hload]
          exact ⟨⟨session.scene.notices, rfl⟩, rfl⟩
        · obtain ⟨hsame, notices, hscene⟩ := ProcessGate.invoke_of_committed hcommitted
            session.platform (session.passed passClock passHost) call session.scene
          simp only [Session.step, hload, hgate, hsame, hscene]
          generalize (ProcessGate.invoke session.platform (some gate)
            (session.passed passClock passHost) call session.scene).raised = raised
          rcases raised with - | fault
          · refine ⟨⟨notices, ?_⟩, rfl⟩
            simp only [finish, Session.returned, howner, Option.getD_some]
          · refine ⟨⟨notices, ?_⟩, rfl⟩
            simp only [finish]
    | _ => simp [Step.configures] at hconfigures

/-- A move of a manual clock, whether it is allowed or not. -/
theorem moveClock_manual (hclock : session.scene.clock = some ⟨.manual time, readings⟩)
    (name : String) (move : Clock → Except Fault Clock) (answer : Clock → Answer)
    (next : Except Fault Binary64)
    (hmove : move ⟨.manual time, readings⟩ =
      next >>= (⟨.manual time, readings⟩ : Clock).moveTo time) :
    (session.moveClock name move answer).1 =
        { session with scene :=
            { session.scene with clock := some ⟨.manual (timeAfter time next), readings⟩ } } ∧
      (session.moveClock name move answer).2.goesOn = true := by
  have hstays : session = { session with scene :=
      { session.scene with clock := some ⟨.manual time, readings⟩ } } := by
    rw [← hclock]
  rcases next with fault | next
  · have hfailed : move ⟨.manual time, readings⟩ = .error fault := hmove
    simp only [moveClock, hclock, hfailed]
    exact ⟨hstays, rfl⟩
  · have hmoved : move ⟨.manual time, readings⟩ =
        (⟨.manual time, readings⟩ : Clock).moveTo time next := hmove
    by_cases hback : next.lt time = true
    · simp only [moveClock, hclock, hmoved, Clock.moveTo, hback, if_true, timeAfter]
      exact ⟨hstays, rfl⟩
    · simp only [moveClock, hclock, hmoved, Clock.moveTo, hback, timeAfter]
      exact ⟨rfl, rfl⟩

/-- A call that comes to a fault raises it, and one whose level does not pass is dropped. -/
theorem step_log_unwritten (hlogger : session.logger = .ok logger)
    (h : (∃ fault, logger.outcome call = .error fault) ∨ logger.outcome call = .ok none) :
    session.step (.log call site) = (session, endOfOutcome (logger.outcome call)) := by
  have hdoes := logger.does_outcome session.platform call site session.scene
  have hself : { session with scene := session.scene }.setLogger logger = session :=
    setLogger_self hlogger
  rcases h with ⟨fault, houtcome⟩ | houtcome
  · rw [houtcome] at hdoes ⊢
    cases hdoes with
    | raises hcall =>
        simp only [step, hlogger, hcall, hself]
        rfl
  · rw [houtcome] at hdoes ⊢
    cases hdoes with
    | dropped hcall =>
        simp only [step, hlogger, hcall, hself]
        rfl

/-- A call that passes is received by all sinks, and takes the next number. -/
theorem step_log_emitted (hlogger : session.logger = .ok logger)
    (hformat : logger.HasStandardFormat) (hshows : logger.ShowsOwnClock)
    (hclock : session.scene.clock = some ⟨.manual time, readings⟩)
    (hsequence : Value.IsShort (logger.nextSequence : Int))
    (hwritable : (Step.log call site).IsWritable) {level : Int} {text : String}
    (hsinks : ∀ sink ∈ logger.sinks, sink.Takes
      (logger.lineAt logger.nextSequence time level text site) session.scene.outlets)
    (h : logger.outcome call = .ok (some (level, text))) :
    ∃ outlets readings',
      session.step (.log call site) =
        ({ session with scene := { session.scene with
            outlets, clock := some ⟨.manual time, readings'⟩ } }.setLogger
          { logger with nextSequence := logger.nextSequence + 1 }, .answered .nothing) ∧
      session.scene.outlets.Receives (fun handle => repeated (Sink.behind logger.sinks handle)
        (logger.lineAt logger.nextSequence time level text site)) outlets := by
  have hdoes := logger.does_outcome session.platform call site session.scene
  obtain ⟨hlevel, function, line, hsite⟩ := hwritable
  rw [h] at hdoes
  cases hdoes with
  | emits hpasses hresolve hmessage hcall =>
      obtain ⟨outlets, readings', hemit, hreceives⟩ := Logger.emit_of_takes
        session.platform hformat hshows hclock hsinks hpasses
        (Logger.isShort_of_resolveLevel hresolve hlevel) hmessage hsequence hsite
      refine ⟨outlets, readings', ?_, hreceives⟩
      simp only [step, hlogger, hcall, hemit, endOfCall]

/-- A sink is attached to a stream of text. -/
theorem step_attach (hlogger : session.logger = .ok logger) {name : String} {device : Device}
    {stream : Stream}
    (hfind : (session.scene.outlets.ensure name device).find? (.named name) = some stream)
    (htext : stream.device.isBinary = false) :
    session.step (.attach name device) =
      ((session.ensure name device).setLogger (logger.attach ⟨.line, .named name⟩),
        .answered (.sink .line)) := by
  have hsink : Sink.forStream (session.ensure name device).scene.outlets (.named name) =
      ⟨.line, .named name⟩ := by
    simp only [Sink.forStream, Session.ensure, hfind, htext, Bool.false_eq_true, if_false]
  simp only [step, hlogger, hsink]

/-! ### Loggers and sinks on the way -/

/-- A session in which the logger of `owner` was returned first, is this one now, and has a
manual clock beside it that shows this time. -/
structure Logs (owner : Owner) (logger : Logger) (time : Binary64) (session : Session) : Prop where
  first : session.first = some owner
  logger : session.logger = .ok logger
  clock : ∃ readings, session.scene.clock = some ⟨.manual time, readings⟩

/-- An operation on the logger leaves it the one that was returned first. -/
theorem Logs.setLogger {time' : Binary64} (h : Logs owner logger time session) (next : Logger)
    (scene : Scene) (hclock : ∃ readings, scene.clock = some ⟨.manual time', readings⟩) :
    Logs owner next time' ({ session with scene }.setLogger next) := by
  have hlogger : ({ session with scene } : Session).logger = .ok logger := h.logger
  refine ⟨?_, logger_setLogger hlogger next, ?_⟩
  · rw [first_setLogger]
    exact h.first
  · rw [scene_setLogger]
    exact hclock

/-- A move of the clock changes the time at most. -/
theorem Logs.moveClock (h : Logs owner logger time session) (name : String)
    (move : Clock → Except Fault Clock) (answer : Clock → Answer) (next : Except Fault Binary64)
    (hmove : ∀ readings, move ⟨.manual time, readings⟩ =
      next >>= (⟨.manual time, readings⟩ : Clock).moveTo time) :
    Logs owner logger (timeAfter time next) (session.moveClock name move answer).1 ∧
      (session.moveClock name move answer).1.scene.outlets = session.scene.outlets ∧
      (session.moveClock name move answer).2.goesOn = true := by
  obtain ⟨readings, hclock⟩ := h.clock
  obtain ⟨hnext, hgoes⟩ := moveClock_manual hclock name move answer next (hmove readings)
  rw [hnext]
  exact ⟨⟨h.first, h.logger, readings, rfl⟩, rfl, hgoes⟩

/-- Another configuration of the owner's gate changes nothing of this. -/
theorem Logs.repeated (h : Logs owner logger time session) {step : Step}
    (hconfigures : step.configures = true) (hconcerns : step.concerns owner = true) :
    Logs owner logger time (session.step step).1 ∧
      (session.step step).1.scene.outlets = session.scene.outlets ∧
      (session.step step).2.goesOn = true := by
  obtain ⟨⟨notices, hnext⟩, hgoes⟩ := step_repeated h.first h.logger hconfigures hconcerns
  rw [hnext]
  exact ⟨⟨h.first, h.logger, h.clock⟩, rfl, hgoes⟩

/-- The streams of a logger's sinks are there, steps attach sinks to streams of text only, and the
sinks take the lines that are handed to them. -/
structure Takes (sinks : List Sink) (steps : List Step) (events : List Event)
    (outlets : Outlets) : Prop where
  known : ∀ sink ∈ sinks, (outlets.find? sink.handle).isSome
  text : ∀ name device, Step.attach name device ∈ steps → ∃ stream,
    (outlets.prepared steps).find? (.named name) = some stream ∧ stream.device.isBinary = false
  accepted : (outlets.prepared steps).Accepted sinks events

variable {sinks : List Sink} {step : Step} {steps : List Step} {events : List Event}
  {outlets outlets' : Outlets}

/-- A step that writes nothing and attaches nothing leaves the sinks as they are. -/
theorem Takes.tail (h : Takes sinks (step :: steps) events outlets)
    (hstep : outlets.prepared (step :: steps) = outlets.prepared steps) :
    Takes sinks steps events outlets := by
  refine ⟨h.known, fun name device hmem => ?_, hstep ▸ h.accepted⟩
  rw [← hstep]
  exact h.text name device (List.mem_cons_of_mem _ hmem)

/-- A line that comes next is taken by all sinks. -/
theorem Takes.line {line : String} (h : Takes sinks steps (.line line :: events) outlets) :
    ∀ sink ∈ sinks, sink.Takes line outlets := by
  intro sink hmem
  obtain ⟨stream, hfind⟩ := Option.isSome_iff_exists.mp (h.known sink hmem)
  obtain ⟨hkind, stream', hfind', htakes⟩ := h.accepted.1 sink hmem
  obtain rfl : stream = stream' :=
    Option.some.inj ((Outlets.find?_prepared_of_some hfind).symm.trans hfind')
  exact ⟨hkind, stream, hfind, htakes⟩

/-- Behind a line, the sinks take the lines that come later. The streams that will be made go
along with those that have received it. -/
theorem Takes.received {line : String} (h : Takes sinks steps (.line line :: events) outlets)
    (hreceives : outlets.Receives (fun handle => repeated (Sink.behind sinks handle) line)
      outlets') :
    (outlets.prepared steps).Receives (fun handle => repeated (Sink.behind sinks handle) line)
        (outlets'.prepared steps) ∧ Takes sinks steps events outlets' := by
  have hprepared : (outlets.prepared steps).Receives
      (fun handle => repeated (Sink.behind sinks handle) line) (outlets'.prepared steps) := by
    refine hreceives.prepared fun handle hnone => ?_
    have hbehind : Sink.behind sinks handle = 0 := by
      refine List.count_eq_zero.mpr fun hmem => ?_
      obtain ⟨sink, hsink, rfl⟩ := List.mem_map.mp hmem
      have hknown := h.known sink hsink
      rw [hnone] at hknown
      simp at hknown
    rw [hbehind, repeated_zero]
  refine ⟨hprepared, fun sink hmem => ?_, fun name device hmem => ?_,
    h.accepted.2.received hprepared⟩
  · rw [hreceives.streams, Option.isSome_map]
    exact h.known sink hmem
  · obtain ⟨stream, hfind, htext⟩ := h.text name device hmem
    refine ⟨stream.after (repeated (Sink.behind sinks (.named name)) line), ?_, ?_⟩
    · rw [hprepared.streams, hfind]
      rfl
    · rw [Stream.isBinary_after]
      exact htext

/-- A sink that is attached hands text to its stream, and belongs to the others from then on. -/
theorem Takes.attach {name : String} {device : Device}
    (h : Takes sinks (.attach name device :: steps) (.attached (.named name) :: events) outlets) :
    (∃ stream, (outlets.ensure name device).find? (.named name) = some stream ∧
        stream.device.isBinary = false) ∧
      Takes (sinks ++ [⟨.line, .named name⟩]) steps events (outlets.ensure name device) := by
  have hknown := Outlets.known_ensure outlets name device
  obtain ⟨stream, hfind⟩ := Option.isSome_iff_exists.mp hknown
  obtain ⟨stream', hfind', htext⟩ := h.text name device List.mem_cons_self
  have hkept : ((outlets.ensure name device).prepared steps).find? (.named name) = some stream :=
    Outlets.find?_prepared_of_some hfind
  obtain rfl : stream = stream' := Option.some.inj (hkept.symm.trans hfind')
  refine ⟨⟨stream, hfind, htext⟩, fun sink hmem => ?_, fun other device' hmem => ?_, h.accepted⟩
  · rcases List.mem_append.mp hmem with hmem | hmem
    · obtain ⟨there, hthere⟩ := Option.isSome_iff_exists.mp (h.known sink hmem)
      rw [Outlets.find?_ensure_of_some hthere]
      rfl
    · obtain rfl := List.mem_singleton.mp hmem
      exact hknown
  · exact h.text other device' (List.mem_cons_of_mem _ hmem)

end Session

end TraceLog
