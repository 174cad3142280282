import Mathlib.Data.List.Find
import TraceLog.Proofs.Formatting
import TraceLog.Proofs.ProcessWide

/-!
# Ending Where a Failure Is Noted

A record that cannot be formatted is noted under one failure policy, and ends the process under
another. `Gate.strict` and `Logger.strict` put the second policy in the place of the first. What a
strict gate is asked to do it does as the lenient one. A strict logger gives a record to its sinks
as the lenient one does until that notes a failure, which may be when some sinks have the record
already (`FailsBehind`); there it reports the failure on standard error and ends, in the very scene
in which the other one notes the failure and goes on.

## Main results

* `Gate.configure_strict`, `ProcessGate.invoke_strict`: configurations.
* `deliver_strict`: a record that notes no failure.
* `exists_failsBehind`, `FailsBehind.deliver_strict`, `FailsBehind.deliver_eq`: a record that notes
  one.
-/

namespace TraceLog

/-! ### Strict gates and loggers -/

/-- The policy that ends the process where this one notes a failure. -/
def FailurePolicy.strict : FailurePolicy → FailurePolicy
  | .record => .abort
  | policy => policy

/-- The logger that ends the process where this one notes a failure. -/
def Logger.strict (logger : Logger) : Logger :=
  { logger with policy := logger.policy.strict }

/-- The gate whose logger, now or later, ends the process where that of this one notes a failure. -/
def Gate.strict (gate : Gate) : Gate :=
  { gate with policy := gate.policy.strict, committed := gate.committed.map Logger.strict }

/-- The attempt with its gate made strict. -/
def Attempt.strict (attempt : Attempt) : Attempt :=
  { attempt with gate := attempt.gate.strict }

/-! ### Configurations -/

namespace Gate

variable (platform : Platform) (gate : Gate) (options : Options)
  (overrides : Table String Value) (scene : Scene)

/-- A strict gate is configured as the other one is. -/
theorem configure_strict :
    gate.strict.configure platform options overrides scene =
      (gate.configure platform options overrides scene).strict := by
  have hvalidate : gate.strict.validate options overrides = gate.validate options overrides := rfl
  have hmute : ∀ options, gate.strict.muteHost options = gate.muteHost options := fun _ => rfl
  rcases hcommitted : gate.committed with - | logger
  · have hstrict : gate.strict.committed = none := by simp [strict, hcommitted]
    rcases hvalid : gate.validate options overrides with fault | settings
    · simp only [configure, hcommitted, hstrict, hvalidate, hvalid]
      rfl
    rcases hopen : openSink platform settings.options scene with ⟨opened, fault | sink⟩
    · simp only [configure, hcommitted, hstrict, hvalidate, hvalid, hopen]
      rfl
    rcases hmuted : gate.muteHost settings.options opened with ⟨muted, - | fault⟩
    · simp only [configure, hcommitted, hstrict, hvalidate, hvalid, hopen, hmute, hmuted]
      rfl
    · simp only [configure, hcommitted, hstrict, hvalidate, hvalid, hopen, hmute, hmuted]
      rfl
  · have hstrict : gate.strict.committed = some logger.strict := by simp [strict, hcommitted]
    rw [configure_eq_of_committed hcommitted, configure_eq_of_committed hstrict]
    rfl

/-- A strict gate is invoked as the other one is. -/
theorem invoke_strict (call : Invocation) :
    gate.strict.invoke platform call scene = (gate.invoke platform call scene).strict := by
  have hcommitted : gate.strict.committed.isSome = gate.committed.isSome := Option.isSome_map
  simp only [invoke, configure_strict, hcommitted]
  split
  · rfl
  · split
    · rfl
    · rfl

/-- Opening a sink notes no failure. -/
theorem failures_openSink :
    (openSink platform options scene).1.failures = scene.failures := by
  have hopening := opening_openSink platform options scene
  generalize openSink platform options scene = outcome at hopening
  obtain ⟨opened, sink⟩ := outcome
  cases hopening with
  | _ => rfl

/-- Muting the host's logger notes no failure. -/
theorem failures_muteHost : (gate.muteHost options scene).1.failures = scene.failures := by
  rcases hsuppress : options.suppressHost.isTrue with - | -
  · simp only [muteHost, hsuppress]
  rcases hgiven : gate.hostLogger with - | v
  · rcases hhost : scene.host with - | host
    · simp only [muteHost, hsuppress, hgiven, hhost]
    · rcases hset : host.setOutput (scene.outlets.openStream .discard).1
        (scene.outlets.openStream .discard).2 with ⟨delivery, notice⟩
      simp only [muteHost, hsuppress, hgiven, hhost, hset]
      rcases hraised : delivery.raised with - | fault
      · cases notice with
        | none => rfl
        | some notice => rfl
      · cases notice with
        | none => rfl
        | some notice => rfl
  · simp only [muteHost, hsuppress, hgiven]

/-- The notice of a configuration is no failure. -/
theorem failures_announce (settings : Settings) :
    (announce settings scene).1.failures = scene.failures := by
  rcases hname : Level.name settings.threshold with fault | levelName
  · simp only [announce, hname]
  · simp only [announce, hname]
    rfl

/-- **No configuration notes a failure.** -/
theorem failures_configure :
    (gate.configure platform options overrides scene).scene.failures = scene.failures := by
  rcases hcommitted : gate.committed with - | logger
  · have houtcome := outcome_configure hcommitted platform options overrides scene
    have hopened : ∀ {options : Options} {opened : Scene} {outcome : Except Fault Sink},
        openSink platform options scene = (opened, outcome) →
          opened.failures = scene.failures := by
      intro options opened outcome hopen
      have hkept := failures_openSink platform options scene
      rwa [hopen] at hkept
    have hmuted : ∀ {options : Options} {opened muted : Scene} {raised : Option Fault},
        gate.muteHost options opened = (muted, raised) → muted.failures = opened.failures := by
      intro options opened muted raised hmute
      have hkept := failures_muteHost gate options opened
      rwa [hmute] at hkept
    generalize gate.configure platform options overrides scene = attempt at houtcome
    cases houtcome with
    | invalid => rfl
    | unopened _ hopen => exact hopened hopen
    | unmuted _ hopen hmute => exact (hmuted hmute).trans (hopened hopen)
    | committed _ hopen hmute =>
        exact (failures_announce _ _).trans ((hmuted hmute).trans (hopened hopen))
  · rw [configure_eq_of_committed hcommitted]
    rfl

/-- No invocation of a gate notes a failure. -/
theorem failures_invoke (call : Invocation) :
    (gate.invoke platform call scene).scene.failures = scene.failures := by
  simp only [invoke]
  split
  · rfl
  · split
    · rfl
    · exact failures_configure platform gate _ _ scene

end Gate

namespace ProcessGate

/-- What is passed by the strict session: nothing in the place of a policy that notes failures. -/
def strictlyPassed (passed : Passed) : Passed :=
  { passed with
    policy := match passed.policy with
      | some .record => none
      | policy => policy }

variable {passed : Passed} {call : Invocation}

/-- An argument under another name is one of those that are passed, or is not, in both
sessions. -/
theorem contains_strictlyPassed {name : String} (h : name ≠ "failure_strategy") (passed : Passed) :
    (strictlyPassed passed).names.contains name = passed.names.contains name := by
  rcases hpolicy : passed.policy with - | policy
  · simp only [strictlyPassed, Passed.names, hpolicy]
  · cases policy with
    | record => simp [strictlyPassed, Passed.names, hpolicy, h]
    | abort => simp only [strictlyPassed, Passed.names, hpolicy]
    | value v => simp only [strictlyPassed, Passed.names, hpolicy]

/-- The gate of a call's own is strict in the strict session. -/
theorem own_strictlyPassed (h : ∀ argument ∈ call.named, argument.1 ≠ "failure_strategy")
    (passed : Passed) : own (strictlyPassed passed) call = (own passed call).strict := by
  have hnone : Table.find? "failure_strategy" call.named = none :=
    Table.find?_eq_none h
  rcases hpolicy : passed.policy with - | policy
  · simp only [own, strictlyPassed, Passed.orNamed, Gate.strict, hpolicy, hnone]
    rfl
  · cases policy with
    | record =>
        simp only [own, strictlyPassed, Passed.orNamed, Gate.strict, hpolicy, hnone]
        rfl
    | abort =>
        simp only [own, strictlyPassed, Passed.orNamed, Gate.strict, hpolicy, hnone]
        rfl
    | value v =>
        simp only [own, strictlyPassed, Passed.orNamed, Gate.strict, hpolicy, hnone]
        rfl

/-- The gate that a call goes to is strict when the one until now and the call's own are. -/
theorem gateFor_strict (gate? : Option Gate) (own : Gate) :
    gateFor (gate?.map Gate.strict) own.clock own.hostLogger own.policy.strict =
      (gateFor gate? own.clock own.hostLogger own.policy).strict := by
  rcases gate? with - | gate
  · rfl
  · have hcommitted : gate.strict.committed.isSome = gate.committed.isSome := Option.isSome_map
    simp only [gateFor, Option.map_some, hcommitted]
    split
    · rfl
    · rfl

/-- **The process is configured strictly** as it is otherwise. -/
theorem invoke_strict (h : ∀ argument ∈ call.named, argument.1 ≠ "failure_strategy")
    (platform : Platform) (gate? : Option Gate) (passed : Passed) (scene : Scene) :
    invoke platform (gate?.map Gate.strict) (strictlyPassed passed) call scene =
      (invoke platform gate? passed call scene).strict := by
  have hsame : repeated? (strictlyPassed passed) call = repeated? passed call := by
    have hfind : List.find? (fun argument =>
        (strictlyPassed passed).names.contains argument.1) call.named =
          List.find? (fun argument => passed.names.contains argument.1) call.named :=
      List.find?_congr fun argument hmem => contains_strictlyPassed (h argument hmem) passed
    rw [repeated?, repeated?, hfind]
  rcases hrepeated : repeated? passed call with - | fault
  · rw [invoke_of_not_repeated (hsame.trans hrepeated), invoke_of_not_repeated hrepeated,
      own_strictlyPassed h]
    exact (congrArg (Gate.invoke platform · (rest call) scene)
      (gateFor_strict gate? (own passed call))).trans (Gate.invoke_strict platform _ scene _)
  · rw [invoke_of_repeated (hsame.trans hrepeated), invoke_of_repeated hrepeated]
    rcases gate? with - | gate
    · rfl
    · rfl

/-- No configuration of the process notes a failure. -/
theorem failures_invoke (platform : Platform) (gate? : Option Gate) (passed : Passed)
    (call : Invocation) (scene : Scene) :
    (invoke platform gate? passed call scene).scene.failures = scene.failures := by
  rcases hrepeated : repeated? passed call with - | fault
  · rw [invoke_of_not_repeated hrepeated]
    exact Gate.failures_invoke platform _ scene _
  · rw [invoke_of_repeated hrepeated]

end ProcessGate

/-! ### Records -/

/-- The clock is no part of the failures. -/
theorem Scene.failures_setClockFor (scene : Scene) (given : Collaborator) (clock : Option Clock) :
    (scene.setClockFor given clock).failures = scene.failures := by
  cases given with
  | own => rfl
  | value v => rfl

/-- A fault that is met is no failure. -/
theorem Scene.failures_meet (record : Record) (fault : Fault) (scene : Scene) :
    (scene.meet record fault).1.failures = scene.failures := by
  simp only [Scene.meet]
  split
  · rfl
  · rfl

/-- A failure that ends the process, or is to end it, is not noted. -/
theorem failures_endProcess (record : Record) (fault : FormattingFault) (scene : Scene) :
    (endProcess record fault scene).1.failures = scene.failures := by
  rcases hreport : scene.reportEnd record fault with ⟨reported, - | hindrance⟩
  · simp only [endProcess, hreport]
    exact (congrArg (fun outcome => outcome.1.failures) hreport).symm
  · simp only [endProcess, hreport, raising, Scene.failures_meet]
    exact (congrArg (fun outcome => outcome.1.failures) hreport).symm

section Delivery

variable {platform : Platform} {logger : Logger} {record : Record} {line : String} {sink : Sink}
  {sinks front rest : List Sink} {scene reached moment : Scene} {fault : FormattingFault}
  {clock : Option Clock}

/-- What is given to a sink leaves the failures alone, or adds the one of the record if they are
noted at all. -/
theorem failures_give (platform : Platform) (logger : Logger) (record : Record) (sink : Sink)
    (scene : Scene) :
    (sink.give platform logger record scene).1.failures = scene.failures ∧
        sink.give platform logger.strict record scene = sink.give platform logger record scene ∨
      logger.policy = .record ∧ ∃ fault clock,
        logger.layout.format record (scene.clockFor logger.clock) = (.error fault, clock) ∧
        (sink.give platform logger record scene).1.failures = scene.failures ++ [fault] ∧
        sink.give platform logger.strict record scene =
          endProcess record fault (scene.setClockFor logger.clock clock) := by
  have hwritten : ∀ line (scene : Scene),
      (raising (writeThrough platform.lineEnd record line sink scene)).1.failures =
        scene.failures :=
    fun line scene => (formatted_writeThrough platform.lineEnd record line sink scene).1.failures
  rcases hformat : logger.layout.format record (scene.clockFor logger.clock) with
    ⟨fault | line, clock⟩
  · have hset := scene.failures_setClockFor logger.clock clock
    rcases hpolicy : logger.policy with - | - | v
    · refine .inr ⟨rfl, fault, clock, rfl, ?_, ?_⟩
      · simp only [Sink.give, hformat, hpolicy, hwritten, Scene.noteFailure, hset]
      · simp only [Sink.give, Logger.strict, hformat, hpolicy, FailurePolicy.strict]
    · refine .inl ⟨?_, ?_⟩
      · simp only [Sink.give, hformat, hpolicy, failures_endProcess, hset]
      · simp only [Sink.give, Logger.strict, hformat, hpolicy, FailurePolicy.strict]
    · refine .inl ⟨?_, ?_⟩
      · simp only [Sink.give, hformat, hpolicy, raising, Scene.failures_meet, hset]
      · simp only [Sink.give, Logger.strict, hformat, hpolicy, FailurePolicy.strict]
  · refine .inl ⟨?_, ?_⟩
    · simp only [Sink.give, hformat, hwritten, scene.failures_setClockFor]
    · simp only [Sink.give, Logger.strict, hformat]

/-- Failures that were noted stay noted. -/
theorem failures_prefix_deliver (platform : Platform) (logger : Logger) (record : Record)
    (sinks : List Sink) (scene : Scene) :
    scene.failures <+: (deliver platform logger record sinks scene).1.failures := by
  induction sinks generalizing scene with
  | nil => exact List.prefix_rfl
  | cons sink sinks ih =>
      have hgiven : scene.failures <+: (sink.give platform logger record scene).1.failures := by
        rcases failures_give platform logger record sink scene with
          ⟨hsame, -⟩ | ⟨-, fault, clock, -, hnoted, -⟩
        · exact hsame.symm ▸ List.prefix_rfl
        · rw [hnoted]
          exact List.prefix_append _ _
      rcases hgive : sink.give platform logger record scene with ⟨next, - | ending⟩
      · rw [hgive] at hgiven
        simp only [deliver, hgive]
        exact hgiven.trans (ih next)
      · rw [hgive] at hgiven
        simp only [deliver, hgive]
        exact hgiven

/-- A fault that is raised ends a call, and is no return. -/
theorem raising_ne_returned (outcome : Scene × Option Fault) :
    (raising outcome).2 ≠ some .returned := by
  simp [raising]

/-- What ends a call early is no return. -/
theorem give_ne_returned (platform : Platform) (logger : Logger) (record : Record) (sink : Sink)
    (scene : Scene) : (sink.give platform logger record scene).2 ≠ some .returned := by
  rcases hformat : logger.layout.format record (scene.clockFor logger.clock) with
    ⟨fault | line, clock⟩
  · rcases hpolicy : logger.policy with - | - | v
    · simp only [Sink.give, hformat, hpolicy]
      exact raising_ne_returned _
    · simp only [Sink.give, hformat, hpolicy]
      rcases hreport : (scene.setClockFor logger.clock clock).reportEnd record fault with
        ⟨reported, - | hindrance⟩
      · simp [endProcess, hreport]
      · simp only [endProcess, hreport]
        exact raising_ne_returned _
    · simp only [Sink.give, hformat, hpolicy]
      exact raising_ne_returned _
  · simp only [Sink.give, hformat]
    exact raising_ne_returned _

/-- A delivery that returns has been given to every sink. -/
theorem deliver_cons_eq_returned_iff :
    deliver platform logger record (sink :: sinks) scene = (reached, .returned) ↔
      ∃ next, sink.give platform logger record scene = (next, none) ∧
        deliver platform logger record sinks next = (reached, .returned) := by
  rcases hgive : sink.give platform logger record scene with ⟨next, - | ending⟩
  · simp [deliver, hgive]
  · have hne := give_ne_returned platform logger record sink scene
    rw [hgive] at hne
    simp only [ne_eq, Option.some.injEq] at hne
    simp [deliver, hgive, hne]

/-- A record is given to the other sinks behind those that are done. -/
theorem deliver_append_of_returned
    (h : deliver platform logger record front scene = (reached, .returned)) (rest : List Sink) :
    deliver platform logger record (front ++ rest) scene =
      deliver platform logger record rest reached := by
  induction front generalizing scene with
  | nil =>
      obtain rfl : scene = reached := congrArg Prod.fst h
      rfl
  | cons sink front ih =>
      obtain ⟨next, hgive, hrest⟩ := deliver_cons_eq_returned_iff.mp h
      simp only [List.cons_append, deliver, hgive, ih hrest]

/-- **A delivery that notes no failure** is the same in the strict session. -/
theorem deliver_strict
    (h : (deliver platform logger record sinks scene).1.failures = scene.failures) :
    deliver platform logger.strict record sinks scene =
      deliver platform logger record sinks scene := by
  induction sinks generalizing scene with
  | nil => rfl
  | cons sink sinks ih =>
      simp only [deliver] at h ⊢
      rcases failures_give platform logger record sink scene with
        ⟨hsame, hstrict⟩ | ⟨-, fault, clock, -, hnoted, -⟩
      · rw [hstrict]
        rcases hgive : sink.give platform logger record scene with ⟨next, - | ending⟩
        · simp only [hgive] at h hsame
          exact ih (h.trans hsame.symm)
        · rfl
      · -- the failure that this sink notes would stay noted
        exfalso
        rcases hgive : sink.give platform logger record scene with ⟨next, - | ending⟩
        · have hkept := failures_prefix_deliver platform logger record sinks next
          simp only [hgive] at h hnoted
          rw [h, hnoted] at hkept
          simpa using hkept.length_le
        · simp only [hgive] at h hnoted
          rw [h] at hnoted
          simpa using congrArg List.length hnoted

/-- The first failure of a record that is given to sinks: those in `front` are done with it, and
none of them notes a failure; then it cannot be formatted for the next one. In `moment` the clock
has been read for that sink, and nothing is written through it yet. -/
inductive FailsBehind (platform : Platform) (logger : Logger) (record : Record)
    (front : List Sink) (scene : Scene) : Scene → FormattingFault → Prop
  | intro {reached : Scene} {clock : Option Clock} {fault : FormattingFault} :
      deliver platform logger record front scene = (reached, .returned) →
      reached.failures = scene.failures →
      logger.layout.format record (reached.clockFor logger.clock) = (.error fault, clock) →
      FailsBehind platform logger record front scene (reached.setClockFor logger.clock clock)
        fault

/-- A delivery that notes a failure has a first one. -/
theorem exists_failsBehind
    (h : (deliver platform logger record sinks scene).1.failures ≠ scene.failures) :
    logger.policy = .record ∧ ∃ front sink rest moment fault, sinks = front ++ sink :: rest ∧
      FailsBehind platform logger record front scene moment fault := by
  induction sinks generalizing scene with
  | nil => exact absurd rfl h
  | cons sink sinks ih =>
      rcases failures_give platform logger record sink scene with
        ⟨hsame, -⟩ | ⟨hpolicy, fault, clock, hformat, -, -⟩
      · rcases hgive : sink.give platform logger record scene with ⟨next, - | ending⟩
        · simp only [deliver, hgive] at h hsame
          obtain ⟨hpolicy, front, failing, rest, moment, fault, rfl, hfails⟩ :=
            ih fun hrest => h (hrest.trans hsame)
          refine ⟨hpolicy, sink :: front, failing, rest, moment, fault, rfl, ?_⟩
          obtain ⟨hreached, hunnoted, hformat⟩ := hfails
          exact .intro (deliver_cons_eq_returned_iff.mpr ⟨next, hgive, hreached⟩)
            (hunnoted.trans hsame) hformat
        · simp only [deliver, hgive] at h hsame
          exact absurd hsame h
      · exact ⟨hpolicy, [], sink, sinks, _, fault, rfl, .intro rfl rfl hformat⟩

/-- What comes of a record behind one sink: the call has ended, or the record is given to the
others. -/
def deliverBehind (platform : Platform) (logger : Logger) (record : Record) (rest : List Sink) :
    Scene × Option CallEnd → Scene × CallEnd
  | (scene, some ending) => (scene, ending)
  | (scene, none) => deliver platform logger record rest scene

/-- **The strict session reports the first failure**, in the scene in which the other one notes it,
and ends with that, unless something keeps it from ending. -/
theorem FailsBehind.deliver_strict (hpolicy : logger.policy = .record)
    (h : FailsBehind platform logger record front scene moment fault) (sink : Sink)
    (rest : List Sink) :
    deliver platform logger.strict record (front ++ sink :: rest) scene =
      deliverBehind platform logger.strict record rest (endProcess record fault moment) := by
  obtain @⟨reached, clock, fault, hreached, hunnoted, hformat⟩ := h
  have hfront : deliver platform logger.strict record front scene = (reached, .returned) :=
    (TraceLog.deliver_strict (by rw [hreached]; exact hunnoted)).trans hreached
  have hgive : sink.give platform logger.strict record reached =
      endProcess record fault (reached.setClockFor logger.clock clock) := by
    simp only [Sink.give, Logger.strict, hformat, hpolicy, FailurePolicy.strict]
  rw [deliver_append_of_returned hfront, deliver, hgive]
  rcases endProcess record fault (reached.setClockFor logger.clock clock) with ⟨next, - | ending⟩
  · rfl
  · rfl

/-- The other session notes the failure in this scene, writes nothing through the sink, and goes
on. -/
theorem FailsBehind.deliver_eq (hpolicy : logger.policy = .record)
    (h : FailsBehind platform logger record front scene moment fault) (sink : Sink)
    (rest : List Sink) :
    deliver platform logger record (front ++ sink :: rest) scene =
      deliverBehind platform logger record rest
        (raising (writeThrough platform.lineEnd record "" sink (moment.noteFailure fault))) := by
  obtain @⟨reached, clock, fault, hreached, -, hformat⟩ := h
  have hgive : sink.give platform logger record reached =
      raising (writeThrough platform.lineEnd record "" sink
        ((reached.setClockFor logger.clock clock).noteFailure fault)) := by
    simp only [Sink.give, hformat, hpolicy]
  rw [deliver_append_of_returned hreached, deliver, hgive]
  rcases raising (writeThrough platform.lineEnd record "" sink
    ((reached.setClockFor logger.clock clock).noteFailure fault)) with ⟨next, - | ending⟩
  · rfl
  · rfl

/-- The failure is not noted yet. -/
theorem FailsBehind.failures_moment
    (h : FailsBehind platform logger record front scene moment fault) :
    moment.failures = scene.failures := by
  obtain ⟨-, hunnoted, -⟩ := h
  rw [Scene.failures_setClockFor, hunnoted]

/-- The failure is the first one that is noted. -/
theorem FailsBehind.exists_failures (hpolicy : logger.policy = .record)
    (h : FailsBehind platform logger record front scene moment fault) (sink : Sink)
    (rest : List Sink) :
    ∃ more, (deliver platform logger record (front ++ sink :: rest) scene).1.failures =
      scene.failures ++ fault :: more := by
  have hwritten : (raising (writeThrough platform.lineEnd record "" sink
      (moment.noteFailure fault))).1.failures = (moment.noteFailure fault).failures :=
    (formatted_writeThrough platform.lineEnd record "" sink (moment.noteFailure fault)).1.failures
  have hnoted : (moment.noteFailure fault).failures = scene.failures ++ [fault] :=
    congrArg (· ++ [fault]) h.failures_moment
  rw [h.deliver_eq hpolicy]
  rcases hraising : raising (writeThrough platform.lineEnd record "" sink
    (moment.noteFailure fault)) with ⟨written, - | ending⟩
  · rw [hraising, hnoted] at hwritten
    obtain ⟨more, hmore⟩ := failures_prefix_deliver platform logger record rest written
    refine ⟨more, ?_⟩
    simp only [deliverBehind]
    rw [← hmore, hwritten, List.append_assoc]
    rfl
  · rw [hraising, hnoted] at hwritten
    exact ⟨[], hwritten⟩

end Delivery

end TraceLog
