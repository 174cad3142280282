import TraceLog.Proofs.Steps

/-!
# What a Run Writes

The streams of a run receive the transcript of the run. `Session.Transcribes` says of a session
what a run from there does, and `Session.Ready` what has to hold for it. Each kind of step keeps
`Ready`, and carries `Transcribes` from the state behind the step to the one in front of it; runs
follow by induction.

## Main results

* `Session.Ready.line`, `Session.Ready.attached`, `Session.Ready.unwritten`,
  `Session.Ready.quiet`: what single steps keep.
* `Session.transcribes`: what a run does, from any moment of a logger's life on.
* `Session.built_of_configure`: the logger that a configuration commits.
* `Session.transcript_received`: what a run does from the commitment on, for each stream and for
  files.
-/

namespace TraceLog

open Number

namespace Session

variable {session : Session} {owner : Owner} {time : Binary64} {call : Logger.Call}
  {site : CallSite}

/-! ### What a run does -/

/-- What a run of steps does from here, with these sinks, this number of the next record and this
time of the clock: the streams receive its transcript, the logger has its sinks and has counted
its lines, and every logging call ends as it must. -/
structure Transcribes (base : Logger) (sinks : List Sink) (sequence : Nat) (time : Binary64)
    (steps : List Step) (session : Session) : Prop where
  logger : (session.final steps).logger = .ok { base with
    sinks := sinks ++ attachedSinks (base.transcript sequence time steps)
    nextSequence := sequence + (lines (base.transcript sequence time steps)).length }
  streams : (session.scene.outlets.prepared steps).Receives
    (fun handle => received handle (Sink.behind sinks handle)
      (base.transcript sequence time steps))
    (session.final steps).scene.outlets
  endings : List.Forall₂ (fun step entry => ∀ call site, step = .log call site →
    entry.2 = endOfOutcome (base.outcome call)) steps (session.run steps)

variable {base : Logger} {sinks : List Sink} {sequence : Nat} {time' : Binary64} {step : Step}
  {steps : List Step} {next : Session}

/-- A step that writes nothing and attaches nothing leaves all to the rest of the run. -/
theorem Transcribes.quiet (h : Transcribes base sinks sequence time' steps (session.step step).1)
    (hgoes : (session.step step).2.goesOn = true)
    (houtlets : (session.step step).1.scene.outlets = session.scene.outlets)
    (hprepared : session.scene.outlets.prepared (step :: steps) =
      session.scene.outlets.prepared steps)
    (htranscript : base.transcript sequence time (step :: steps) =
      base.transcript sequence time' steps)
    (hending : ∀ call site, step = .log call site →
      (session.step step).2 = endOfOutcome (base.outcome call)) :
    Transcribes base sinks sequence time (step :: steps) session := by
  constructor
  · rw [final_cons hgoes, htranscript]
    exact h.logger
  · rw [final_cons hgoes, htranscript, hprepared, ← houtlets]
    exact h.streams
  · rw [run_cons hgoes]
    exact .cons hending h.endings

/-- A logging call that comes to a fault or does not pass leaves all to the rest of the run. -/
theorem Transcribes.unwritten (h : Transcribes base sinks sequence time steps session)
    (hnext : session.step (.log call site) = (session, endOfOutcome (base.outcome call)))
    (houtcome : (∃ fault, base.outcome call = .error fault) ∨ base.outcome call = .ok none) :
    Transcribes base sinks sequence time (.log call site :: steps) session := by
  have hgoes : (endOfOutcome (base.outcome call)).goesOn = true := by
    rcases base.outcome call with fault | passed
    · rfl
    · rfl
  refine .quiet (by rw [hnext]; exact h) (by rw [hnext]; exact hgoes) (by rw [hnext]) rfl
    (Logger.transcript_of_unwritten houtcome sequence time site steps) ?_
  rintro call' site' ⟨⟩
  rw [hnext]

/-- A logging call that passes comes before what the rest of the run does. -/
theorem Transcribes.line {level : Int} {text : String}
    (h : Transcribes base sinks (sequence + 1) time steps next)
    (hnext : session.step (.log call site) = (next, .answered .nothing))
    (houtcome : base.outcome call = .ok (some (level, text)))
    (hreceives : (session.scene.outlets.prepared steps).Receives
      (fun handle => repeated (Sink.behind sinks handle)
        (base.lineAt sequence time level text site))
      (next.scene.outlets.prepared steps)) :
    Transcribes base sinks sequence time (.log call site :: steps) session := by
  have hgoes : (session.step (.log call site)).2.goesOn = true := by
    rw [hnext]
    rfl
  have htranscript := Logger.transcript_of_written houtcome sequence time site steps
  constructor
  · rw [final_cons hgoes, hnext, htranscript, h.logger, attachedSinks, lines, List.length_cons,
      Nat.add_right_comm, Nat.add_assoc]
  · rw [final_cons hgoes, hnext, htranscript]
    exact hreceives.trans h.streams
  · rw [run_cons hgoes, hnext]
    refine .cons ?_ h.endings
    rintro call' site' ⟨⟩
    rw [houtcome]
    rfl

/-- A sink that is attached has part in what the rest of the run does. -/
theorem Transcribes.attached {name : String} {device : Device} {answer : Answer}
    (h : Transcribes base (sinks ++ [⟨.line, .named name⟩]) sequence time steps next)
    (hnext : session.step (.attach name device) = (next, .answered answer))
    (houtlets : next.scene.outlets = session.scene.outlets.ensure name device) :
    Transcribes base sinks sequence time (.attach name device :: steps) session := by
  have hgoes : (session.step (.attach name device)).2.goesOn = true := by
    rw [hnext]
    rfl
  have hbehind : ∀ handle, Sink.behind (sinks ++ [⟨.line, .named name⟩]) handle =
      if .named name = handle then Sink.behind sinks handle + 1
      else Sink.behind sinks handle := by
    intro handle
    rw [Sink.behind_append, Sink.behind_cons]
    by_cases hhandle : .named name = handle
    · rw [if_pos hhandle, if_pos hhandle]
      rfl
    · rw [if_neg hhandle, if_neg hhandle]
      rfl
  constructor
  · rw [final_cons hgoes, hnext, h.logger, Logger.transcript, attachedSinks, lines,
      List.append_assoc]
    rfl
  · rw [final_cons hgoes, hnext]
    have hstreams := h.streams
    rw [houtlets] at hstreams
    simp only [hbehind] at hstreams
    exact hstreams
  · rw [run_cons hgoes, hnext]
    exact .cons (by rintro call site ⟨⟩) h.endings

/-! ### What a run keeps -/

/-- What holds of a session before the steps of a run: its logger has these sinks and this
number of the next record, the clock shows this time, and the steps are such as this module is
about. -/
structure Ready (owner : Owner) (base : Logger) (sinks : List Sink) (sequence : Nat)
    (time : Binary64) (steps : List Step) (session : Session) : Prop where
  logs : Logs owner { base with sinks, nextSequence := sequence } time session
  takes : Takes sinks steps (base.transcript sequence time steps) session.scene.outlets
  allowed : ∀ step ∈ steps, step.concerns owner = true ∧ step.IsWritable
  short : Value.IsShort ((sequence + steps.length : Nat) : Int)

/-- The outcome of a call does not depend on the sinks and the numbers. -/
theorem outcome_setSinks (base : Logger) (sinks : List Sink) (sequence : Nat)
    (call : Logger.Call) :
    ({ base with sinks, nextSequence := sequence } : Logger).outcome call = base.outcome call := by
  cases call with
  | _ => rfl

/-- A step that writes nothing and attaches nothing keeps this. -/
theorem Ready.quiet (h : Ready owner base sinks sequence time (step :: steps) session)
    (hlogs : Logs owner { base with sinks, nextSequence := sequence } time' (session.step step).1)
    (houtlets : (session.step step).1.scene.outlets = session.scene.outlets)
    (hprepared : session.scene.outlets.prepared (step :: steps) =
      session.scene.outlets.prepared steps)
    (htranscript : base.transcript sequence time (step :: steps) =
      base.transcript sequence time' steps) :
    Ready owner base sinks sequence time' steps (session.step step).1 where
  logs := hlogs
  takes := by
    rw [houtlets, ← htranscript]
    exact h.takes.tail hprepared
  allowed := (List.forall_mem_cons.mp h.allowed).2
  short := Value.isShort_of_le (by simp) h.short

/-- A call that comes to a fault or does not pass keeps this. -/
theorem Ready.unwritten (h : Ready owner base sinks sequence time (.log call site :: steps) session)
    (houtcome : (∃ fault, base.outcome call = .error fault) ∨ base.outcome call = .ok none) :
    session.step (.log call site) = (session, endOfOutcome (base.outcome call)) ∧
      Ready owner base sinks sequence time steps session := by
  have hnext : session.step (.log call site) =
      (session, endOfOutcome (base.outcome call)) := by
    rw [← outcome_setSinks base sinks sequence] at houtcome ⊢
    exact step_log_unwritten h.logs.logger houtcome
  have hready : Ready owner base sinks sequence time steps (session.step (.log call site)).1 :=
    h.quiet (by rw [hnext]; exact h.logs) (by rw [hnext]) rfl
      (Logger.transcript_of_unwritten houtcome sequence time site steps)
  rw [hnext] at hready
  exact ⟨hnext, hready⟩

/-- A call that passes is received by all sinks, and keeps this with the next number. -/
theorem Ready.line (hformat : base.HasStandardFormat) (hshows : base.ShowsOwnClock)
    (h : Ready owner base sinks sequence time (.log call site :: steps) session) {level : Int}
    {text : String} (houtcome : base.outcome call = .ok (some (level, text))) :
    ∃ next, session.step (.log call site) = (next, .answered .nothing) ∧
      (session.scene.outlets.prepared steps).Receives
        (fun handle => repeated (Sink.behind sinks handle)
          (base.lineAt sequence time level text site))
        (next.scene.outlets.prepared steps) ∧
      Ready owner base sinks (sequence + 1) time steps next := by
  obtain ⟨⟨-, hwritable⟩, hrest⟩ := List.forall_mem_cons.mp h.allowed
  obtain ⟨readings, hclock⟩ := h.logs.clock
  have htakes := h.takes.tail rfl
  rw [Logger.transcript_of_written houtcome] at htakes
  obtain ⟨outlets, readings', hnext, hreceives⟩ := step_log_emitted h.logs.logger
    ⟨hformat.names, hformat.fields⟩ hshows hclock
    (Value.isShort_of_le (Nat.le_add_right sequence _) h.short) hwritable htakes.line
    ((outcome_setSinks base sinks sequence call).trans houtcome)
  obtain ⟨hprepared, htakes'⟩ := htakes.received hreceives
  have hlogs := h.logs.setLogger { base with sinks, nextSequence := sequence + 1 }
    { session.scene with outlets, clock := some ⟨.manual time, readings'⟩ } ⟨readings', rfl⟩
  refine ⟨_, hnext, ?_, hlogs, ?_, hrest, Value.isShort_of_le (by simp; omega) h.short⟩
  · rw [scene_setLogger]
    exact hprepared
  · rw [scene_setLogger]
    exact htakes'

/-- A sink that is attached keeps this, with one more sink. -/
theorem Ready.attached {name : String} {device : Device}
    (h : Ready owner base sinks sequence time (.attach name device :: steps) session) :
    ∃ next, session.step (.attach name device) = (next, .answered (.sink .line)) ∧
      next.scene.outlets = session.scene.outlets.ensure name device ∧
      Ready owner base (sinks ++ [⟨.line, .named name⟩]) sequence time steps next := by
  obtain ⟨⟨stream, hfind, htext⟩, htakes⟩ := h.takes.attach
  have hlogs := h.logs.setLogger
    { base with sinks := sinks ++ [⟨.line, .named name⟩], nextSequence := sequence }
    (session.ensure name device).scene h.logs.clock
  refine ⟨_, step_attach h.logs.logger hfind htext, ?_, hlogs, ?_,
    (List.forall_mem_cons.mp h.allowed).2, Value.isShort_of_le (by simp) h.short⟩
  · rw [scene_setLogger]
    rfl
  · rw [scene_setLogger]
    exact htakes

/-! ### Runs -/

/-- **A run writes its transcript**, from any moment of a logger's life on. -/
theorem transcribes (hformat : base.HasStandardFormat) (hshows : base.ShowsOwnClock)
    (h : Ready owner base sinks sequence time steps session) :
    Transcribes base sinks sequence time steps session := by
  induction steps generalizing session sinks sequence time with
  | nil =>
      refine ⟨?_, .refl _, .nil⟩
      rw [final_nil, h.logs.logger, Logger.transcript, attachedSinks, List.append_nil]
      rfl
  | cons step steps ih =>
      have hconcerns : step.concerns owner = true := (h.allowed step List.mem_cons_self).1
      -- clock moves and configurations differ in the time that they leave only
      have hsilent : ∀ {time' : Binary64},
          Logs owner { base with sinks, nextSequence := sequence } time' (session.step step).1 ∧
            (session.step step).1.scene.outlets = session.scene.outlets ∧
            (session.step step).2.goesOn = true →
          session.scene.outlets.prepared (step :: steps) =
            session.scene.outlets.prepared steps →
          base.transcript sequence time (step :: steps) = base.transcript sequence time' steps →
          (∀ call site, step ≠ .log call site) →
          Transcribes base sinks sequence time (step :: steps) session := by
        rintro time' ⟨hlogs, houtlets, hgoes⟩ hprepared htranscript hlog
        exact (ih (h.quiet hlogs houtlets hprepared htranscript)).quiet hgoes houtlets hprepared
          htranscript fun call site heq => absurd heq (hlog call site)
      cases step with
      | log call site =>
          rcases houtcome : base.outcome call with fault | - | ⟨level, text⟩
          · obtain ⟨hnext, hready⟩ := h.unwritten (.inl ⟨fault, houtcome⟩)
            exact (ih hready).unwritten hnext (.inl ⟨fault, houtcome⟩)
          · obtain ⟨hnext, hready⟩ := h.unwritten (.inr houtcome)
            exact (ih hready).unwritten hnext (.inr houtcome)
          · obtain ⟨next, hnext, hreceives, hready⟩ := h.line hformat hshows houtcome
            exact (ih hready).line hnext houtcome hreceives
      | attach name device =>
          obtain ⟨next, hnext, houtlets, hready⟩ := h.attached
          exact (ih hready).attached hnext houtlets
      | setClock value =>
          have hmoved := h.logs.moveClock "set" (Clock.set · value) (fun _ => .nothing)
            value.toReal fun _ => rfl
          exact hsilent hmoved rfl rfl (by simp)
      | advanceClock delta =>
          have hmoved := h.logs.moveClock "advance" (Clock.advance · delta) timeShown
            (delta.addTo time) fun _ => rfl
          exact hsilent hmoved rfl rfl (by simp)
      | configure source named =>
          exact hsilent (h.logs.repeated rfl hconcerns) rfl rfl (by simp)
      | configureProcess source named passClock passHost =>
          exact hsilent (h.logs.repeated rfl hconcerns) rfl rfl (by simp)
      | _ => simp [Step.concerns] at hconcerns

/-! ### From the commitment on -/

/-- A configuration of the host's gate that succeeds commits the logger that its settings
describe. When it is the first one, that is the logger which was returned first. -/
theorem built_of_configure (hgate : session.gate.committed = none) (hfirst : session.first = none)
    {source : Option OptionSource} {named : Table String Value} {options : Options}
    {overrides : Table String Value}
    (hattempted : attempted source named = .ok (options, overrides))
    (hraised : (session.gate.configure session.platform options overrides
      session.scene).raised = none) :
    ∃ settings sink, session.gate.validate options overrides = .ok settings ∧
      (session.step (.configure source named)).1.first = some .host ∧
      (session.step (.configure source named)).1.logger =
        .ok (session.gate.build settings sink) := by
  have houtcome := Gate.outcome_configure hgate session.platform options overrides session.scene
  rw [step_configure_of_attempted hgate hattempted]
  generalize session.gate.configure session.platform options overrides session.scene = attempt
    at hraised houtcome
  cases houtcome with
  | invalid => simp at hraised
  | unopened => simp at hraised
  | unmuted => simp at hraised
  | @committed settings opened muted sink hvalid hopen hmute =>
      have hreported : (Gate.announce settings muted).2 = none := hraised
      refine ⟨settings, sink, hvalid, ?_, ?_⟩
      · simp only [hreported, finish, Session.returned, hfirst]
        rfl
      · simp only [hreported, finish, Session.returned, hfirst, Session.logger]
        rfl

/-- **The streams of a run receive the transcript of the run.** Take a session with a logger as a
gate builds it, beside a manual clock, and any run of logging calls, sinks, clock moves and
further configurations of the gate that comes to no text with a surrogate, where all sinks are sinks
of text and take the lines that are handed to them.

* The run goes through to its end. A call that comes to a fault raises it; the others return.
* The logger has the sinks in the order of their attachment, and has counted the lines. Nothing is
  reported on standard error.
* A stream has received each line of the transcript as often as there were sinks behind the
  stream by then, and nothing else.
* A file has the bytes of what its stream received behind the ones that it had, as long as the
  stream stood at its end and no other stream of the file has a sink. -/
theorem transcript_received {gate : Gate} {options : Options} {overrides : Table String Value}
    {settings : Settings} {sink : Sink} {readings : Nat}
    (hsettings : gate.validate options overrides = .ok settings)
    (hfirst : session.first = some owner)
    (hlogger : session.logger = .ok (gate.build settings sink))
    (hclock : session.scene.clock = some ⟨.manual time, readings⟩)
    (hshows : (gate.build settings sink).ShowsOwnClock)
    (hsteps : ∀ step ∈ steps, step.concerns owner = true ∧ step.IsWritable)
    (htakes : Takes [sink] steps ((gate.build settings sink).transcript 0 time steps)
      session.scene.outlets)
    (hshort : Value.IsShort (steps.length : Int)) (_hsettled : session.Settled steps) :
    let built := gate.build settings sink
    let events := built.transcript 0 time steps
    let last := session.final steps
    List.Forall₂ (fun step entry => ∀ call site, step = .log call site →
      entry.2 = endOfOutcome (built.outcome call)) steps (session.run steps) ∧
    last.logger = .ok { built with
      sinks := sink :: attachedSinks events
      nextSequence := (lines events).length } ∧
    last.scene.outlets.reports = session.scene.outlets.reports ∧
    (∀ handle, last.scene.outlets.find? handle =
      ((session.scene.outlets.prepared steps).find? handle).map
        (Stream.after (received handle (Sink.behind [sink] handle) events))) ∧
    ∀ handle place content,
      (session.scene.outlets.prepared steps).find? handle =
        some ⟨.file place content.length, false⟩ →
      session.scene.outlets.files.content? place = some content →
      (∀ other stream, other ≠ handle →
        (session.scene.outlets.prepared steps).find? other = some stream →
        stream.device.place? = some place →
        Sink.behind (sink :: attachedSinks events) other = 0) →
      last.scene.outlets.files.content? place = some (content ++
        Text.encode (received handle (Sink.behind [sink] handle) events).toList) := by
  intro built events last
  have hready : Ready owner built [sink] 0 time steps session :=
    ⟨⟨hfirst, hlogger, readings, hclock⟩, htakes, hsteps, by rw [Nat.zero_add]; exact hshort⟩
  have hrun : Transcribes built [sink] 0 time steps session :=
    transcribes (Logger.hasStandardFormat_build hsettings sink) hshows hready
  refine ⟨hrun.endings, ?_, ?_, hrun.streams.streams, ?_⟩
  · rw [hrun.logger, Nat.zero_add]
    rfl
  · exact hrun.streams.reports.trans (Outlets.reports_prepared _ steps)
  · intro handle place content hstream hcontent hothers
    rw [← Outlets.files_prepared _ steps] at hcontent
    refine hrun.streams.files handle place content hstream hcontent ?_
    intro other stream hne hfind hplace
    have hbehind : Sink.behind [sink] other + Sink.behind (attachedSinks events) other = 0 :=
      (Sink.behind_append [sink] _ other).symm.trans (hothers other stream hne hfind hplace)
    obtain ⟨hsink, hattached⟩ := Nat.add_eq_zero_iff.mp hbehind
    rw [hsink]
    exact received_zero_of_not_attached hattached

/-- A session whose gate has built its logger from these options, with the time, the number and
the message on each line. -/
def timed : Session :=
  (({ gate := { clock := .own }, scene := { clock := some (.manual .zero) } } : Session).step
    (.configure (some (.fields
      [("clock_prefix", .bool true), ("format", .text "sequence;message")])) [])).1

/-- A sink that is attached late, a template that cannot be filled and a configuration that comes
too late, between two lines at different times. -/
theorem transcript_received_by_late_sink :
    let site : CallSite := { file := "d.py", function := .text "f", line := .int 1 }
    let steps : List Step :=
      [.log (.print (.text "a") .null) site, .attach "late" (.text ""), .setClock (.int 1),
        .log (.printf .null (.text "%d") [.text "x"]) site, .configure none [("level", .bool true)],
        .log (.printf .null (.text "%d") [.int 7]) site]
    let last := timed.final steps
    last.scene.outlets.find? .console = some ⟨.text "0.00\t0\ta\n1.00\t1\t7\n", false⟩ ∧
      last.scene.outlets.find? (.named "late") = some ⟨.text "1.00\t1\t7\n", false⟩ := by
  intro site steps last
  have hsite : ∃ function line, site.Shown function line :=
    ⟨"f", "1", rfl, Value.text?_of_isShort (Value.isShort_of_lt (by decide))⟩
  have hlevel : Value.null.IsShortLevel := by
    rintro n ⟨⟩
  have hsteps : ∀ step ∈ steps, step.concerns .host = true ∧ step.IsWritable := by
    simp [steps, Step.concerns, Step.IsWritable, hsite, hlevel, Logger.Call.level]
  have hstreams : ∀ name device, Step.attach name device ∈ steps →
      (timed.scene.outlets.prepared steps).find? (.named name) = some ⟨.text "", false⟩ := by
    intro name device hmem
    have hattach : Step.attach name device = .attach "late" (.text "") := by
      simpa [steps] using hmem
    obtain ⟨rfl, rfl⟩ := Step.attach.inj hattach
    rfl
  have hvalid : Gate.validate { clock := .own }
      { clockPrefix := .bool true, format := .text "sequence;message" } [] = .ok _ := rfl
  have htakes : ∀ {logger : Logger},
      Takes [⟨.line, .console⟩] steps (logger.transcript 0 .zero steps) timed.scene.outlets := by
    intro logger
    refine ⟨by simp; rfl, fun name device hmem => ⟨_, hstreams name device hmem, rfl⟩,
      Outlets.accepted_of_takes fun sink hmem s => ?_⟩
    rcases List.mem_append.mp hmem with hmem | hmem
    · obtain rfl := List.mem_singleton.mp hmem
      exact ⟨by simp, ⟨.text "", false⟩, rfl, rfl⟩
    · obtain ⟨name, device, hattach, rfl⟩ := Logger.attach_of_mem_transcript hmem
      exact ⟨by simp, _, hstreams name device hattach, rfl⟩
  have hrun := transcript_received hvalid (show timed.first = some .host from rfl)
    (show timed.logger = .ok _ from rfl)
    (show timed.scene.clock = some ⟨.manual .zero, 0⟩ from rfl)
    (fun _ => ⟨rfl, rfl⟩) hsteps htakes (Value.isShort_of_lt (by decide)) (by decide +kernel)
  obtain ⟨-, -, -, hreceived, -⟩ := hrun
  constructor
  · rw [hreceived .console]
    decide +kernel
  · rw [hreceived (.named "late")]
    decide +kernel

end Session

end TraceLog
