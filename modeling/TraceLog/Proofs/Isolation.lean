import TraceLog.Proofs.Logging
import TraceLog.Proofs.Reachable
import TraceLog.Proofs.Sparing
import TraceLog.Proofs.SteadyClock

/-!
# Failing Sinks Are Isolated

A run is compared with the run in which some sinks are never attached, those whose streams have a
dropped name. `Session.Twins` relates the states of both: the logger has the same number of the next
record and no sinks but the spared ones, the clock shows the same, and the outlets are alike
(`Outlets.Alike`). Each kind of step keeps this where standard error hears all reports, a sink that
is attached to a dropped stream on the first side alone, and so do runs.

What one logging call does to its sinks and how it ends, whatever the sinks do and whether or not
reports are heard, is `Session.Isolates`.

## Main results

* `Session.Twins.log`, `Session.Twins.step`, `Session.Twins.run`: what calls, steps and runs keep.
* `Session.isolates`: one logging call.
* `Session.standing_final`: the clock and standard error behind a run.
* `Session.failures_isolated`: runs with and without some sinks.
* `Session.broken_sinks_are_noticed`: a clock that its readings change, and a closed standard error.
-/

namespace TraceLog

open Number

/-! ### Steps -/

/-- Whether a step attaches no sink to a dropped stream. -/
def Step.isSpared (dropped : List String) : Step → Bool
  | .attach name _ => (Handle.named name).isSpared dropped
  | _ => true

/-- The streams of the sinks that steps attach. -/
def attachments : List Step → List Handle
  | [] => []
  | .attach name _ :: steps => .named name :: attachments steps
  | _ :: steps => attachments steps

namespace Outlets

variable {outlets outlets' : Outlets} {dropped : List String}

/-- The outlets with all streams that steps make. -/
def foreseen (outlets : Outlets) : List Step → Outlets
  | [] => outlets
  | .attach name device :: steps => (outlets.ensure name device).foreseen steps
  | .close name :: steps => (outlets.ensure name (.text "")).foreseen steps
  | _ :: steps => outlets.foreseen steps

/-- What is made depends on what is there only. -/
theorem roles_ensure_congr (h : outlets'.roles = outlets.roles) (name : String)
    (device : Device) :
    (outlets'.ensure name device).roles = (outlets.ensure name device).roles := by
  funext handle
  have hhandle : (outlets'.find? handle).map Stream.role = (outlets.find? handle).map Stream.role :=
    congrFun h handle
  rw [roles, roles, find?_ensure, find?_ensure]
  split
  · rcases hfind : outlets.find? handle with - | stream
    · rw [hfind, Option.map_none, Option.map_eq_none_iff] at hhandle
      rw [hhandle]
    · rw [hfind] at hhandle
      obtain ⟨stream', hfind', hrole⟩ := Option.map_eq_some_iff.mp hhandle
      rw [hfind']
      exact congrArg some hrole
  · exact hhandle

/-- What is foreseen is settled by the roles of streams. -/
theorem roles_foreseen_congr (h : outlets'.roles = outlets.roles) (steps : List Step) :
    (outlets'.foreseen steps).roles = (outlets.foreseen steps).roles := by
  induction steps generalizing outlets outlets' with
  | nil => exact h
  | cons step steps ih =>
      cases step with
      | attach name device => exact ih (roles_ensure_congr h name device)
      | close name => exact ih (roles_ensure_congr h name _)
      | _ => exact ih h

/-- A stream that is there stays what it is. -/
theorem roles_foreseen_of_some {handle : Handle} {role : Bool × Option Place}
    (h : outlets.roles handle = some role) (steps : List Step) :
    (outlets.foreseen steps).roles handle = some role := by
  induction steps generalizing outlets with
  | nil => exact h
  | cons step steps ih =>
      cases step with
      | attach name device => exact ih (roles_ensure_of_some h name device)
      | close name => exact ih (roles_ensure_of_some h name _)
      | _ => exact ih h

/-- Sinks that are sheltered in all that is to come are so now. -/
theorem Sheltered.of_foreseen {handles later : List Handle} {steps : List Step}
    (h : (outlets.foreseen steps).Sheltered dropped (handles ++ later)) :
    outlets.Sheltered dropped handles := by
  refine (List.pairwise_append.mp h).1.imp fun himp hrecurses => himp ?_
  rw [recurses_iff_roles, Option.map_eq_some_iff] at hrecurses ⊢
  obtain ⟨role, hrole, hfails⟩ := hrecurses
  exact ⟨role, roles_foreseen_of_some hrole steps, hfails⟩

end Outlets

/-! ### Records -/

/-- Whether a call goes on that ends so: no fault of formatting ends the process. -/
def CallEnd.goesOn : CallEnd → Bool
  | .returned | .raised _ => true
  | .aborted _ => false

/-- A run goes on behind a handover unless that ends the process. -/
theorem goesOn_endOfHandover (stopped : Bool) (fault? : Option FormattingFault) :
    (endOfHandover stopped fault?).goesOn = (stopped || fault?.isNone) := by
  rcases stopped with - | -
  · rcases fault? with - | fault
    · rfl
    · rfl
  · rfl

/-- **A record that is given to sinks, and to the spared ones of them**, beside clocks that show the
same and stand still. It goes on on both sides or on none. -/
theorem deliver_spared {platform platform' : Platform} (logger logger' : Logger) (record : Record)
    {dropped : List String} {sinks : List Sink} {scene scene' : Scene}
    (hplatform : platform' = platform) (hpolicy : logger'.policy = logger.policy)
    (hformatted : ∀ own, logger'.formatted record own = logger.formatted record own)
    (halike : scene.outlets.Alike dropped scene'.outlets) (hstands : StandsStill scene.clock)
    (hclocks : SameTime scene.clock scene'.clock) (hhears : scene.outlets.Hears)
    (hkept : ∃ sink ∈ sinks, sink.handle.isSpared dropped = true)
    (hsheltered : scene.outlets.Sheltered dropped (sinks.map Sink.handle)) :
    let delivered := deliver platform logger record sinks scene
    let delivered' := deliver platform' logger' record
      (sinks.filter fun sink => sink.handle.isSpared dropped) scene'
    delivered.1.outlets.Alike dropped delivered'.1.outlets ∧
      delivered.1.outlets.blanks = scene.outlets.blanks ∧
      delivered'.2.goesOn = delivered.2.goesOn := by
  subst hplatform
  intro delivered delivered'
  have hblanks : delivered.1.outlets.blanks = scene.outlets.blanks :=
    (delivers_deliver platform' logger record sinks scene).blanks
  obtain ⟨houtlets, hend⟩ := deliver_of_standsStill platform' logger record sinks hstands
    (.inl hhears)
  obtain ⟨houtlets', hend'⟩ := deliver_of_standsStill platform' logger' record
    (sinks.filter fun sink => sink.handle.isSpared dropped) (hclocks.standsStill hstands)
    (.inl (halike.hears_iff.mpr hhears))
  have hresult : (logger'.formatted record scene'.clock).1 =
      (logger.formatted record scene.clock).1 := by
    rw [hformatted, (logger.formatted_of_sameTime record hclocks).1]
  rw [hresult, hpolicy] at houtlets'
  rw [hresult, hpolicy, Outlets.takesEnd_congr halike.console] at hend'
  generalize (logger.formatted record scene.clock).1 = result at houtlets hend houtlets' hend'
  obtain ⟨sink, hmem, hspared⟩ := hkept
  have hmem' : sink ∈ sinks.filter fun sink => sink.handle.isSpared dropped :=
    List.mem_filter.mpr ⟨hmem, hspared⟩
  rw [FailurePolicy.ends?_replicate _ _ (List.length_pos_of_mem hmem).ne'] at hend
  rw [FailurePolicy.ends?_replicate _ _ (List.length_pos_of_mem hmem').ne'] at hend'
  refine ⟨?_, hblanks, ?_⟩
  · rw [← Outlets.alike_withoutReports_iff, houtlets, houtlets']
    have halike := Outlets.alike_withoutReports_iff.mpr halike
    rcases logger.policy.line? result with - | line
    · exact halike
    · have hhandles : (sinks.map (·, line)).map (fun given => given.1.handle) =
          sinks.map Sink.handle := by
        rw [List.map_map]
        rfl
      have hfilter : (sinks.map (·, line)).filter
            (fun given => given.1.handle.isSpared dropped) =
          (sinks.filter fun sink => sink.handle.isSpared dropped).map (·, line) :=
        List.filter_map
      have hhanded := halike.handOver platform'.lineEnd (hhandles ▸ hsheltered)
      rwa [hfilter] at hhanded
  · rw [hend, hend', goesOn_endOfHandover, goesOn_endOfHandover]
    rcases hline : logger.policy.line? result with - | line
    · rfl
    · simp [FailurePolicy.end?_of_line? hline]

/-! ### Clocks -/

namespace Clock

variable {clock clock' : Clock}

/-- A move to a time leaves a clock that stands still. -/
theorem standsStill_of_moveTo {current time : Binary64}
    (h : clock.moveTo current time = .ok clock') : clock'.StandsStill := by
  rw [StandsStill, source_of_moveTo h]
  rfl

/-- A move to a time does not depend on how often the clock was read. -/
theorem map_source_moveTo (clock clock' : Clock) (current time : Binary64) :
    (clock.moveTo current time).map Clock.source =
      (clock'.moveTo current time).map Clock.source := by
  rw [moveTo, moveTo]
  split
  · rfl
  · rfl

/-- What a clock is set to is settled by its source. -/
theorem map_source_set (value : Value) (h : clock.source = clock'.source) :
    (clock.set value).map Clock.source = (clock'.set value).map Clock.source := by
  rw [set, set, h]
  rcases clock'.source with current | next | kind
  · rcases value.toReal with fault | time
    · rfl
    · exact map_source_moveTo _ _ current time
  · rfl
  · rfl

/-- So is what it is advanced to. -/
theorem map_source_advance (delta : Value) (h : clock.source = clock'.source) :
    (clock.advance delta).map Clock.source = (clock'.advance delta).map Clock.source := by
  rw [advance, advance, h]
  rcases clock'.source with current | next | kind
  · rcases hsum : delta.addTo current with fault | time
    · simp only [hsum]
      rfl
    · simp only [hsum]
      exact map_source_moveTo _ _ current time
  · rfl
  · rfl

/-- A clock that was set stands still. -/
theorem standsStill_of_set {value : Value} (h : clock.set value = .ok clock') :
    clock'.StandsStill := by
  rw [set] at h
  split at h
  · obtain ⟨time, -, hmove⟩ := bind_eq_ok.mp h
    exact standsStill_of_moveTo hmove
  · simp at h
  · simp at h

/-- So does one that was advanced. -/
theorem standsStill_of_advance {delta : Value} (h : clock.advance delta = .ok clock') :
    clock'.StandsStill := by
  rw [advance] at h
  split at h
  · obtain ⟨time, -, hmove⟩ := bind_eq_ok.mp h
    exact standsStill_of_moveTo hmove
  · simp at h
  · simp at h

end Clock

/-- The sink for a stream writes to this stream. -/
@[simp] theorem handle_forStream (outlets : Outlets) (handle : Handle) :
    (Sink.forStream outlets handle).handle = handle := by
  rw [Sink.forStream]
  split
  · rfl
  · rfl

namespace Session

variable {session spared : Session} {owner : Owner} {base logger : Logger} {dropped : List String}
  {sinks : List Sink} {call : Logger.Call} {site : CallSite}

/-- The platform does not depend on the logger. -/
theorem platform_setLogger (session : Session) (logger : Logger) :
    (session.setLogger logger).platform = session.platform := by
  rcases howner : session.first with - | - | -
  · simp only [setLogger, howner]
  · simp only [setLogger, howner]
  · simp only [setLogger, howner]

/-- A step raises what its call raises. -/
theorem endOfCall_eq_raised_iff {ending : CallEnd} {fault : Fault} :
    endOfCall ending = .raised fault ↔ ending = .raised fault := by
  cases ending with
  | _ => simp [endOfCall]

/-- A run goes on behind a call unless that ends the process. -/
theorem goesOn_endOfCall (ending : CallEnd) : (endOfCall ending).goesOn = ending.goesOn := by
  cases ending with
  | _ => rfl

/-- A call that makes no record changes the number of the next one at most. -/
theorem step_log_of_unmade (hlogger : session.logger = .ok logger) {taken : Nat}
    {fault? : Option Fault} (hdraft : logger.draft call site = .unmade taken fault?) :
    session.step (.log call site) =
      (session.setLogger { logger with nextSequence := logger.nextSequence + taken },
        fault?.elim (.answered .nothing) .raised) := by
  have hcall := logger.call_eq_draft session.platform call site session.scene
  rw [hdraft] at hcall
  simp only [step, hlogger, hcall]
  rcases fault? with - | fault
  · rfl
  · rfl

/-- A call that makes a record gives it to all sinks, and takes a number. -/
theorem step_log_of_made (hlogger : session.logger = .ok logger) {record : Record}
    (hdraft : logger.draft call site = .made record) :
    session.step (.log call site) =
      let delivered := deliver session.platform logger record logger.sinks session.scene
      ({ session with scene := delivered.1 }.setLogger
        { logger with nextSequence := logger.nextSequence + 1 }, endOfCall delivered.2) := by
  have hcall := logger.call_eq_draft session.platform call site session.scene
  rw [hdraft] at hcall
  simp only [step, hlogger, hcall]

/-! ### Twins -/

/-- A session and its twin without the dropped sinks. -/
structure Twins (owner : Owner) (base : Logger) (dropped : List String) (sinks : List Sink)
    (session spared : Session) : Prop where
  platform : spared.platform = session.platform
  first : session.first = some owner
  first' : spared.first = some owner
  loggers : ∃ next, session.logger = .ok { base with sinks, nextSequence := next } ∧
    spared.logger = .ok { base with
      sinks := sinks.filter fun sink => sink.handle.isSpared dropped
      nextSequence := next }
  outlets : session.scene.outlets.Alike dropped spared.scene.outlets
  hears : session.scene.outlets.Hears
  stands : StandsStill session.scene.clock
  clocks : SameTime session.scene.clock spared.scene.clock

/-- Scenes that are alike may change on both sides. -/
theorem Twins.setScene (h : Twins owner base dropped sinks session spared) (scene scene' : Scene)
    (houtlets : scene.outlets.Alike dropped scene'.outlets) (hhears : scene.outlets.Hears)
    (hstands : StandsStill scene.clock) (hclocks : SameTime scene.clock scene'.clock) :
    Twins owner base dropped sinks { session with scene } { spared with scene := scene' } :=
  ⟨h.platform, h.first, h.first', h.loggers, houtlets, hhears, hstands, hclocks⟩

/-- The loggers may change alike on both sides. -/
theorem Twins.setLoggers (h : Twins owner base dropped sinks session spared) (sinks' : List Sink)
    (next : Nat) :
    Twins owner base dropped sinks'
      (session.setLogger { base with sinks := sinks', nextSequence := next })
      (spared.setLogger { base with
        sinks := sinks'.filter fun sink => sink.handle.isSpared dropped
        nextSequence := next }) := by
  obtain ⟨number, hlogger, hspared⟩ := h.loggers
  constructor
  · rw [platform_setLogger, platform_setLogger, h.platform]
  · rw [first_setLogger, h.first]
  · rw [first_setLogger, h.first']
  · exact ⟨next, logger_setLogger hlogger _, logger_setLogger hspared _⟩
  · rw [scene_setLogger, scene_setLogger]
    exact h.outlets
  · rw [scene_setLogger]
    exact h.hears
  · rw [scene_setLogger]
    exact h.stands
  · rw [scene_setLogger, scene_setLogger]
    exact h.clocks

/-- **A logging call** keeps twins twins. It goes on on both sides or on none. -/
theorem Twins.log (h : Twins owner base dropped sinks session spared)
    (hkept : ∃ sink ∈ sinks, sink.handle.isSpared dropped = true)
    (hsheltered : session.scene.outlets.Sheltered dropped (sinks.map Sink.handle))
    (call : Logger.Call) (site : CallSite) :
    Twins owner base dropped sinks (session.step (.log call site)).1
        (spared.step (.log call site)).1 ∧
      (session.step (.log call site)).1.scene.outlets.roles = session.scene.outlets.roles ∧
      (spared.step (.log call site)).2.goesOn = (session.step (.log call site)).2.goesOn := by
  obtain ⟨next, hlogger, hspared⟩ := h.loggers
  generalize hfirst : ({ base with sinks, nextSequence := next } : Logger) = first at hlogger
  generalize hsecond : ({ base with
      sinks := sinks.filter fun sink => sink.handle.isSpared dropped
      nextSequence := next } : Logger) = second at hspared
  have hsame : second.draft call site = first.draft call site := by
    rw [← hfirst, ← hsecond]
    rfl
  rcases hdraft : first.draft call site with ⟨taken, fault?⟩ | record
  · rw [step_log_of_unmade hlogger hdraft, step_log_of_unmade hspared (hsame.trans hdraft)]
    refine ⟨?_, by rw [scene_setLogger], rfl⟩
    rw [← hfirst, ← hsecond]
    exact h.setLoggers sinks (next + taken)
  · rw [step_log_of_made hlogger hdraft, step_log_of_made hspared (hsame.trans hdraft)]
    have hsinks : first.sinks = sinks := by
      rw [← hfirst]
    have hsinks' : second.sinks = sinks.filter fun sink => sink.handle.isSpared dropped := by
      rw [← hsecond]
    rw [hsinks, hsinks']
    obtain ⟨halike, hblanks, hgoes⟩ := deliver_spared first second record h.platform
      (by rw [← hfirst, ← hsecond]) (by rw [← hfirst, ← hsecond]; exact fun _ => rfl)
      h.outlets h.stands h.clocks h.hears hkept hsheltered
    have hclock := sameTime_deliver session.platform first record sinks h.stands
    have hclock' := sameTime_deliver spared.platform second record
      (sinks.filter fun sink => sink.handle.isSpared dropped) (h.clocks.standsStill h.stands)
    have hhears := (Outlets.hears_congr (congrFun hblanks .console)).mpr h.hears
    have htwins := (h.setScene _ _ halike hhears (hclock.symm.standsStill h.stands)
      ((hclock.trans h.clocks).trans hclock'.symm)).setLoggers sinks (next + 1)
    refine ⟨?_, ?_, ?_⟩
    · subst hfirst hsecond
      exact htwins
    · rw [scene_setLogger]
      exact Outlets.roles_eq_of_blanks hblanks
    · rw [goesOn_endOfCall, goesOn_endOfCall]
      exact hgoes

/-- A sink that is attached belongs to the others from then on. -/
theorem step_attach_eq (hlogger : session.logger = .ok logger) (name : String) (device : Device) :
    session.step (.attach name device) =
      let sink := Sink.forStream (session.scene.outlets.ensure name device) (.named name)
      ((session.ensure name device).setLogger (logger.attach sink),
        .answered (.sink sink.kind)) := by
  simp only [step, hlogger]
  rfl

/-- A spared sink that is attached is attached on both sides. -/
theorem Twins.attach (h : Twins owner base dropped sinks session spared) {name : String}
    (hspared : (Handle.named name).isSpared dropped = true) (device : Device) :
    Twins owner base dropped
      (sinks ++ [Sink.forStream (session.scene.outlets.ensure name device) (.named name)])
      (session.step (.attach name device)).1 (spared.step (.attach name device)).1 := by
  obtain ⟨next, hlogger, hlogger'⟩ := h.loggers
  have halike := h.outlets.ensure name device
  have hsink : Sink.forStream (spared.scene.outlets.ensure name device) (.named name) =
      Sink.forStream (session.scene.outlets.ensure name device) (.named name) := by
    rw [Sink.forStream, Sink.forStream, halike.streams _ hspared]
  have htwins := (h.setScene (session.ensure name device).scene (spared.ensure name device).scene
    halike ((Outlets.hears_ensure _ name device).mpr h.hears) h.stands h.clocks).setLoggers
      (sinks ++ [Sink.forStream (session.scene.outlets.ensure name device) (.named name)]) next
  rw [List.filter_append, List.filter_cons_of_pos (by rw [handle_forStream, hspared]),
    List.filter_nil] at htwins
  rw [step_attach_eq hlogger, step_attach_eq hlogger', hsink]
  exact htwins

/-- A dropped sink is attached on the first side alone. -/
theorem Twins.attach_dropped (h : Twins owner base dropped sinks session spared) {name : String}
    (hdropped : (Handle.named name).isSpared dropped = false) (device : Device) :
    Twins owner base dropped
      (sinks ++ [Sink.forStream (session.scene.outlets.ensure name device) (.named name)])
      (session.step (.attach name device)).1 spared := by
  obtain ⟨next, hlogger, hlogger'⟩ := h.loggers
  have htwins := (h.setScene (session.ensure name device).scene spared.scene
    (h.outlets.ensure_dropped hdropped device)
    ((Outlets.hears_ensure _ name device).mpr h.hears) h.stands h.clocks).setLoggers
      (sinks ++ [Sink.forStream (session.scene.outlets.ensure name device) (.named name)]) next
  rw [List.filter_append, List.filter_cons_of_neg (by rw [handle_forStream, hdropped]; decide),
    List.filter_nil, List.append_nil] at htwins
  have hself : spared.setLogger { base with
      sinks := sinks.filter fun sink => sink.handle.isSpared dropped
      nextSequence := next } = spared := setLogger_self hlogger'
  rw [step_attach_eq hlogger]
  exact hself ▸ htwins

/-- A move of the clock moves it on both sides. -/
theorem Twins.moveClock (h : Twins owner base dropped sinks session spared) (name : String)
    (move : Clock → Except Fault Clock) (answer : Clock → Answer)
    (hsame : ∀ clock clock', clock.source = clock'.source →
      (move clock).map Clock.source = (move clock').map Clock.source)
    (hstands : ∀ clock clock', move clock = .ok clock' → clock'.StandsStill) :
    Twins owner base dropped sinks (session.moveClock name move answer).1
        (spared.moveClock name move answer).1 ∧
      (session.moveClock name move answer).1.scene.outlets = session.scene.outlets ∧
      (session.moveClock name move answer).2.goesOn = true ∧
      (spared.moveClock name move answer).2.goesOn = true := by
  have hclocks := h.clocks
  rcases hclock : session.scene.clock with - | clock
  · rcases hclock' : spared.scene.clock with - | clock'
    · simp only [Session.moveClock, hclock, hclock']
      exact ⟨h, trivial, rfl, rfl⟩
    · simp [SameTime, hclock, hclock'] at hclocks
  rcases hclock' : spared.scene.clock with - | clock'
  · simp [SameTime, hclock, hclock'] at hclocks
  have hmoves := hsame clock clock' (by simpa [SameTime, hclock, hclock'] using hclocks)
  rcases hmove : move clock with fault | moved
  · rcases hmove' : move clock' with fault' | moved'
    · simp only [Session.moveClock, hclock, hclock', hmove, hmove']
      exact ⟨h, trivial, rfl, rfl⟩
    · simp [hmove, hmove', Except.map] at hmoves
  · rcases hmove' : move clock' with fault' | moved'
    · simp [hmove, hmove', Except.map] at hmoves
    · rw [hmove, hmove'] at hmoves
      simp only [Session.moveClock, hclock, hclock', hmove, hmove']
      refine ⟨h.setScene _ _ h.outlets h.hears ?_ (congrArg some (Except.ok.inj hmoves)),
        trivial, rfl, rfl⟩
      rintro given ⟨⟩
      exact hstands clock _ hmove

/-- A stream that is closed is closed on both sides. -/
theorem Twins.close (h : Twins owner base dropped sinks session spared) (name : String) :
    Twins owner base dropped sinks (session.step (.close name)).1 (spared.step (.close name)).1 :=
  h.setScene _ _ ((h.outlets.ensure name (.text "")).close (.named name))
    ((Outlets.hears_close _ name).mpr ((Outlets.hears_ensure _ name _).mpr h.hears)) h.stands
    h.clocks

/-- A configuration that comes too late comes too late on both sides. -/
theorem Twins.repeated (h : Twins owner base dropped sinks session spared) {step : Step}
    (hconfigures : step.configures = true) (hconcerns : step.concerns owner = true) :
    Twins owner base dropped sinks (session.step step).1 (spared.step step).1 ∧
      (session.step step).1.scene.outlets = session.scene.outlets ∧
      (session.step step).2.goesOn = true ∧ (spared.step step).2.goesOn = true := by
  obtain ⟨next, hlogger, hlogger'⟩ := h.loggers
  obtain ⟨⟨notices, hnext⟩, hgoes⟩ := step_repeated h.first hlogger hconfigures hconcerns
  obtain ⟨⟨notices', hnext'⟩, hgoes'⟩ := step_repeated h.first' hlogger' hconfigures hconcerns
  rw [hnext, hnext']
  exact ⟨h.setScene _ _ h.outlets h.hears h.stands h.clocks, rfl, hgoes, hgoes'⟩

/-! ### Runs -/

/-- Twins in front of steps: there is a spared sink, and the spared sinks are sheltered from the
faults of recursion of the others, now and later. -/
structure Paired (owner : Owner) (base : Logger) (dropped : List String) (steps : List Step)
    (sinks : List Sink) (session spared : Session) : Prop where
  twins : Twins owner base dropped sinks session spared
  kept : ∃ sink ∈ sinks, sink.handle.isSpared dropped = true
  sheltered : (session.scene.outlets.foreseen steps).Sheltered dropped
    (sinks.map Sink.handle ++ attachments steps)

variable {steps : List Step}

/-- A step that attaches nothing leaves the sinks as they are, and what is made later. -/
theorem Paired.plain {step : Step}
    (h : Paired owner base dropped (step :: steps) sinks session spared)
    (hnone : attachments (step :: steps) = attachments steps) {made : Outlets}
    (hforeseen : session.scene.outlets.foreseen (step :: steps) = made.foreseen steps)
    (htwins : Twins owner base dropped sinks (session.step step).1 (spared.step step).1)
    (hroles : (session.step step).1.scene.outlets.roles = made.roles) :
    Paired owner base dropped steps sinks (session.step step).1 (spared.step step).1 := by
  have hsheltered := h.sheltered
  rw [hnone, hforeseen] at hsheltered
  exact ⟨htwins, h.kept, hsheltered.congr (Outlets.roles_foreseen_congr hroles steps)⟩

/-- A sink that is attached belongs to the others from then on. -/
theorem Paired.attached {name : String} {device : Device}
    (h : Paired owner base dropped (.attach name device :: steps) sinks session spared)
    {spared' : Session}
    (htwins : Twins owner base dropped
      (sinks ++ [Sink.forStream (session.scene.outlets.ensure name device) (.named name)])
      (session.step (.attach name device)).1 spared') :
    Paired owner base dropped steps
      (sinks ++ [Sink.forStream (session.scene.outlets.ensure name device) (.named name)])
      (session.step (.attach name device)).1 spared' := by
  obtain ⟨next, hlogger, -⟩ := h.twins.loggers
  obtain ⟨sink, hmem, hspared⟩ := h.kept
  have hnext : (session.step (.attach name device)).1.scene.outlets =
      session.scene.outlets.ensure name device := by
    rw [step_attach_eq hlogger, scene_setLogger]
    rfl
  refine ⟨htwins, ⟨sink, List.mem_append_left _ hmem, hspared⟩, ?_⟩
  rw [hnext]
  simpa [attachments, Outlets.foreseen] using h.sheltered

/-- **A spared step** is made on both sides. It goes on on both or on none. -/
theorem Paired.step {step : Step}
    (h : Paired owner base dropped (step :: steps) sinks session spared)
    (hstep : step.concerns owner = true ∨ ∃ name, step = .close name)
    (hspared : step.isSpared dropped = true) :
    (∃ sinks', Paired owner base dropped steps sinks' (session.step step).1 (spared.step step).1) ∧
      (spared.step step).2.goesOn = (session.step step).2.goesOn := by
  -- clock moves and configurations that come too late leave the outlets alone
  have hsilent : attachments (step :: steps) = attachments steps →
      session.scene.outlets.foreseen (step :: steps) = session.scene.outlets.foreseen steps →
      Twins owner base dropped sinks (session.step step).1 (spared.step step).1 ∧
        (session.step step).1.scene.outlets = session.scene.outlets ∧
        (session.step step).2.goesOn = true ∧ (spared.step step).2.goesOn = true →
      (∃ sinks', Paired owner base dropped steps sinks' (session.step step).1
        (spared.step step).1) ∧ (spared.step step).2.goesOn = (session.step step).2.goesOn := by
    rintro hnone hforeseen ⟨htwins, houtlets, hgoes, hgoes'⟩
    exact ⟨⟨sinks, h.plain hnone hforeseen htwins (by rw [houtlets])⟩, hgoes'.trans hgoes.symm⟩
  cases step with
  | log call site =>
      obtain ⟨htwins, hroles, hgoes⟩ := h.twins.log h.kept h.sheltered.of_foreseen call site
      exact ⟨⟨sinks, h.plain rfl rfl htwins hroles⟩, hgoes⟩
  | attach name device =>
      obtain ⟨next, hlogger, hlogger'⟩ := h.twins.loggers
      refine ⟨⟨_, h.attached (h.twins.attach hspared device)⟩, ?_⟩
      rw [step_attach_eq hlogger, step_attach_eq hlogger']
      rfl
  | setClock value =>
      exact hsilent rfl rfl (h.twins.moveClock "set" (Clock.set · value) (fun _ => .nothing)
        (fun _ _ => Clock.map_source_set value) fun _ _ => Clock.standsStill_of_set)
  | advanceClock delta =>
      exact hsilent rfl rfl (h.twins.moveClock "advance" (Clock.advance · delta) timeShown
        (fun _ _ => Clock.map_source_advance delta) fun _ _ => Clock.standsStill_of_advance)
  | close name =>
      exact ⟨⟨sinks, h.plain rfl rfl (h.twins.close name) (Outlets.roles_close _ _)⟩, rfl⟩
  | configure source named =>
      exact hsilent rfl rfl (h.twins.repeated rfl (hstep.resolve_right (by simp)))
  | configureProcess source named passClock passHost =>
      exact hsilent rfl rfl (h.twins.repeated rfl (hstep.resolve_right (by simp)))
  | _ => simp [Step.concerns] at hstep

/-- **A step that is not spared** attaches a dropped sink, on the first side alone. -/
theorem Paired.step_dropped {step : Step}
    (h : Paired owner base dropped (step :: steps) sinks session spared)
    (hdropped : step.isSpared dropped = false) :
    (∃ sinks', Paired owner base dropped steps sinks' (session.step step).1 spared) ∧
      (session.step step).2.goesOn = true := by
  cases step with
  | attach name device =>
      obtain ⟨next, hlogger, -⟩ := h.twins.loggers
      refine ⟨⟨_, h.attached (h.twins.attach_dropped hdropped device)⟩, ?_⟩
      rw [step_attach_eq hlogger]
      rfl
  | _ => simp [Step.isSpared] at hdropped

/-- **Runs keep twins twins.** -/
theorem Paired.run (h : Paired owner base dropped steps sinks session spared)
    (hsteps : ∀ step ∈ steps, step.concerns owner = true ∨ ∃ name, step = .close name) :
    ∃ sinks', Twins owner base dropped sinks' (session.final steps)
      (spared.final (steps.filter (Step.isSpared dropped))) := by
  induction steps generalizing sinks session spared with
  | nil => exact ⟨sinks, h.twins⟩
  | cons step steps ih =>
      obtain ⟨hstep, hrest⟩ := List.forall_mem_cons.mp hsteps
      rcases hspared : step.isSpared dropped with - | -
      · obtain ⟨⟨sinks', hpaired⟩, hgoes⟩ := h.step_dropped hspared
        rw [List.filter_cons_of_neg (by simp [hspared]), final_cons hgoes]
        exact ih hpaired hrest
      · obtain ⟨⟨sinks', hpaired⟩, hsame⟩ := h.step hstep hspared
        rw [List.filter_cons_of_pos hspared]
        rcases hgoes : (session.step step).2.goesOn with - | -
        · rw [final_cons_of_aborted hgoes, final_cons_of_aborted (hsame.trans hgoes)]
          exact ⟨sinks', hpaired.twins⟩
        · rw [final_cons hgoes, final_cons (hsame.trans hgoes)]
          exact ih hpaired hrest

/-! ### Single calls -/

/-- What a call leaves that has brought the line of its record to these sinks and to no others: they
have received it, and the number of the record is spent. -/
structure Brings (session : Session) (logger : Logger) (call : Logger.Call) (site : CallSite)
    (front : List Sink) : Prop where
  number : (session.step (.log call site)).1.logger =
    .ok { logger with nextSequence := logger.nextSequence + 1 }
  streams : ∀ record line, logger.draft call site = .made record →
    logger.policy.line? (logger.formatted record session.scene.clock).1 = some line →
    ∀ handle stream, session.scene.outlets.find? handle = some stream →
      (∀ first ∈ front, first.handle = handle → first.Feeds line stream) →
      (session.step (.log call site)).1.scene.outlets.find? handle = some
        (stream.fed session.platform.lineEnd (repeated (Sink.behind front handle) line))

/-- What one logging call does, whatever its sinks do. It raises a fault of its own, or it stops at
a sink whose stream fails with a fault of recursion, or at one whose fault standard error refuses to
hear of. Where all reports are heard, it stops at a sink of the first kind. The sinks in front have
received the line then, and those behind have not. -/
structure Isolates (session : Session) (logger : Logger) (call : Logger.Call) (site : CallSite) :
    Prop where
  raised : ∀ fault, (session.step (.log call site)).2 = .raised fault →
    (∃ taken, logger.draft call site = .unmade taken (some fault)) ∨
      ∃ front sink back, logger.sinks = front ++ sink :: back ∧
        session.Brings logger call site front ∧
        (fault = .stream (.failed .recursion) ∧ session.scene.outlets.Recurses sink.handle ∨
          session.scene.outlets.Refuses fault)
  stopped : session.scene.outlets.Hears → ∀ record line front sink back,
    logger.draft call site = .made record →
    logger.policy.line? (logger.formatted record session.scene.clock).1 = some line →
    logger.sinks = front ++ sink :: back →
    (∀ first ∈ front, ¬ session.scene.outlets.Recurses first.handle) →
    session.scene.outlets.Recurses sink.handle →
    (session.step (.log call site)).2 = .raised (.stream (.failed .recursion)) ∧
      session.Brings logger call site front

/-- A record that was handed to these sinks. -/
theorem brings_of_handOver (hlogger : session.logger = .ok logger) {record : Record}
    (hdraft : logger.draft call site = .made record) {front : List Sink}
    (hhanded : ∀ line,
      logger.policy.line? (logger.formatted record session.scene.clock).1 = some line →
      (∀ sink ∈ front, ¬ session.scene.outlets.Recurses sink.handle) ∧
      (deliver session.platform logger record logger.sinks session.scene).1.outlets.withoutReports =
        (handOver session.platform.lineEnd (front.map (·, line))
          session.scene.outlets.withoutReports).1) :
    session.Brings logger call site front := by
  have hthere : ∀ scene, ({ session with scene } : Session).logger = .ok logger :=
    fun _ => hlogger
  constructor
  · rw [step_log_of_made hlogger hdraft]
    exact logger_setLogger (hthere _) _
  · intro record' line hdraft' hline handle stream hfind hfeeds
    obtain rfl : record = record' := Logger.Draft.made.inj (hdraft.symm.trans hdraft')
    obtain ⟨hfront, houtlets⟩ := hhanded line hline
    rw [step_log_of_made hlogger hdraft, scene_setLogger, ← Outlets.find?_withoutReports,
      houtlets, ← handedTo_map]
    have hfront' : ∀ given ∈ front.map (·, line),
        ¬ session.scene.outlets.withoutReports.Recurses given.1.handle := by
      simpa using hfront
    refine find?_handOver_of_feeds hfind ?_ hfront'
    simpa using hfeeds

/-- A call raises a fault of its own, or one that it comes to when its record is given to the
sinks. -/
theorem raised_of_step_log (hlogger : session.logger = .ok logger) {fault : Fault}
    (h : (session.step (.log call site)).2 = .raised fault) :
    (∃ taken, logger.draft call site = .unmade taken (some fault)) ∨
      ∃ record, logger.draft call site = .made record ∧
        (deliver session.platform logger record logger.sinks session.scene).2 = .raised fault := by
  rcases hdraft : logger.draft call site with ⟨taken, own?⟩ | record
  · rw [step_log_of_unmade hlogger hdraft] at h
    rcases own? with - | own
    · simp at h
    · obtain rfl : own = fault := by simpa using h
      exact .inl ⟨taken, rfl⟩
  · rw [step_log_of_made hlogger hdraft] at h
    exact .inr ⟨record, rfl, endOfCall_eq_raised_iff.mp h⟩

/-- A record that ends its call with a fault stops at a sink, beside a clock that stands still. -/
theorem exists_brings_of_raised (hlogger : session.logger = .ok logger)
    (hstands : StandsStill session.scene.clock) {record : Record}
    (hdraft : logger.draft call site = .made record) {fault : Fault}
    (h : (deliver session.platform logger record logger.sinks session.scene).2 = .raised fault) :
    ∃ front sink back, logger.sinks = front ++ sink :: back ∧
      session.Brings logger call site front ∧
      (fault = .stream (.failed .recursion) ∧ session.scene.outlets.Recurses sink.handle ∨
        session.scene.outlets.Refuses fault) := by
  have hdelivered := delivers_deliver session.platform logger record logger.sinks session.scene
  rw [h, logger.results_of_standsStill record _ hstands] at hdelivered
  obtain ⟨front, sink, back, hsinks, hhanded, -, hfault⟩ := hdelivered.exists_front
  have hshort : front.length ≤ logger.sinks.length := by
    rw [hsinks, List.length_append]
    exact Nat.le_add_right _ _
  refine ⟨front, sink, back, hsinks, ?_, hfault⟩
  refine brings_of_handOver hlogger hdraft fun line hline => ?_
  rw [FailurePolicy.handed_replicate _ _ front hshort, hline, Option.elim_some] at hhanded
  refine ⟨fun first hmem hrecurses => ?_, (congrArg Prod.fst hhanded).symm⟩
  have hstopped := (stopped_handOver_iff session.platform.lineEnd (front.map (·, line))
    session.scene.outlets.withoutReports).mpr ⟨_, List.mem_map_of_mem hmem, hrecurses⟩
  rw [hhanded] at hstopped
  exact absurd hstopped (by simp)

/-- **One logging call**, beside a clock that stands still. -/
theorem isolates (hlogger : session.logger = .ok logger)
    (hstands : StandsStill session.scene.clock) (call : Logger.Call) (site : CallSite) :
    session.Isolates logger call site where
  raised fault h := by
    rcases raised_of_step_log hlogger h with hunmade | ⟨record, hdraft, hraised⟩
    · exact .inl hunmade
    · exact .inr (exists_brings_of_raised hlogger hstands hdraft hraised)
  stopped hhears record line front sink back hdraft hline hsinks hfront hsink := by
    obtain ⟨houtlets, hend⟩ := deliver_of_standsStill session.platform logger record logger.sinks
      hstands (.inl hhears)
    have hfront' : ∀ given ∈ front.map (·, line),
        ¬ session.scene.outlets.withoutReports.Recurses given.1.handle := by
      simpa using hfront
    rw [hline, Option.elim_some] at houtlets hend
    nth_rewrite 2 [hsinks] at houtlets
    nth_rewrite 2 [hsinks] at hend
    rw [List.map_append, List.map_cons, handOver_of_recurses hfront' hsink] at houtlets hend
    refine ⟨?_, brings_of_handOver hlogger hdraft fun line' hline' => ?_⟩
    · rw [step_log_of_made hlogger hdraft]
      exact endOfCall_eq_raised_iff.mpr hend
    · obtain rfl : line = line' := Option.some.inj (hline.symm.trans hline')
      exact ⟨hfront, houtlets⟩

/-! ### With and without failing sinks -/

/-- A session is its own twin when none of its sinks is dropped. -/
theorem paired_self (dropped : List String) (hfirst : session.first = some owner)
    (hlogger : session.logger = .ok base)
    (hsinks : base.sinks ≠ []) (hbase : ∀ sink ∈ base.sinks, sink.handle.isSpared dropped = true)
    (hhears : session.scene.outlets.Hears) (hstands : StandsStill session.scene.clock)
    (hsheltered : (session.scene.outlets.foreseen steps).Sheltered dropped
      (base.sinks.map Sink.handle ++ attachments steps)) :
    Paired owner base dropped steps base.sinks session session := by
  obtain ⟨sink, hmem⟩ := List.exists_mem_of_ne_nil _ hsinks
  have hall : base.sinks.filter (fun sink => sink.handle.isSpared dropped) = base.sinks :=
    List.filter_eq_self.mpr hbase
  refine ⟨⟨rfl, hfirst, hfirst, ⟨base.nextSequence, hlogger, ?_⟩, .refl dropped _, hhears, hstands,
    .refl _⟩, ⟨sink, hmem, hbase sink hmem⟩, hsheltered⟩
  rw [hall]
  exact hlogger

/-- A move of the clock leaves it standing still, and the outlets as they are. -/
theorem standing_moveClock (hstands : StandsStill session.scene.clock) (name : String)
    (move : Clock → Except Fault Clock) (answer : Clock → Answer)
    (hmoved : ∀ clock clock', move clock = .ok clock' → clock'.StandsStill) :
    StandsStill (session.moveClock name move answer).1.scene.clock ∧
      (session.moveClock name move answer).1.scene.outlets = session.scene.outlets := by
  rcases hclock : session.scene.clock with - | clock
  · simp only [Session.moveClock, hclock]
    exact ⟨hclock ▸ hstands, trivial⟩
  · rcases hmove : move clock with fault | moved
    · simp only [Session.moveClock, hclock, hmove]
      exact ⟨hclock ▸ hstands, trivial⟩
    · simp only [Session.moveClock, hclock, hmove]
      refine ⟨?_, trivial⟩
      rintro given ⟨⟩
      exact hmoved clock _ hmove

/-- A step leaves a clock standing still that stood still, and standard error hearing what it
heard. -/
theorem standing_step (hfirst : session.first = some owner) (hlogger : session.logger = .ok logger)
    (hstands : StandsStill session.scene.clock) {step : Step}
    (hstep : step.concerns owner = true ∨ ∃ name, step = .close name) :
    StandsStill (session.step step).1.scene.clock ∧
      ((session.step step).1.scene.outlets.Hears ↔ session.scene.outlets.Hears) := by
  have hrepeated : step.configures = true → step.concerns owner = true →
      StandsStill (session.step step).1.scene.clock ∧
        ((session.step step).1.scene.outlets.Hears ↔ session.scene.outlets.Hears) := by
    intro hconfigures hconcerns
    obtain ⟨⟨notices, hnext⟩, -⟩ := step_repeated hfirst hlogger hconfigures hconcerns
    rw [hnext]
    exact ⟨hstands, .rfl⟩
  cases step with
  | log call site =>
      rcases hdraft : logger.draft call site with ⟨taken, fault?⟩ | record
      · rw [step_log_of_unmade hlogger hdraft, scene_setLogger]
        exact ⟨hstands, .rfl⟩
      · have hclock := sameTime_deliver session.platform logger record logger.sinks hstands
        have hblanks :=
          (delivers_deliver session.platform logger record logger.sinks session.scene).blanks
        rw [step_log_of_made hlogger hdraft, scene_setLogger]
        exact ⟨hclock.symm.standsStill hstands, Outlets.hears_congr (congrFun hblanks .console)⟩
  | attach name device =>
      rw [step_attach_eq hlogger, scene_setLogger]
      exact ⟨hstands, Outlets.hears_ensure _ name device⟩
  | setClock value =>
      obtain ⟨hclock, houtlets⟩ := standing_moveClock hstands "set" (Clock.set · value)
        (fun _ => .nothing) fun _ _ => Clock.standsStill_of_set
      exact ⟨hclock, iff_of_eq (congrArg Outlets.Hears houtlets)⟩
  | advanceClock delta =>
      obtain ⟨hclock, houtlets⟩ := standing_moveClock hstands "advance" (Clock.advance · delta)
        timeShown fun _ _ => Clock.standsStill_of_advance
      exact ⟨hclock, iff_of_eq (congrArg Outlets.Hears houtlets)⟩
  | close name =>
      exact ⟨hstands, (Outlets.hears_close _ name).trans (Outlets.hears_ensure _ name _)⟩
  | configure source named => exact hrepeated rfl (hstep.resolve_right (by simp))
  | configureProcess source named passClock passHost =>
      exact hrepeated rfl (hstep.resolve_right (by simp))
  | _ => simp [Step.concerns] at hstep

/-- **A run leaves a clock standing still** that stood still, and standard error hearing what it
heard. -/
theorem standing_final (hfirst : session.first = some owner) (hlogger : session.logger = .ok base)
    (hstands : StandsStill session.scene.clock)
    (hsteps : ∀ step ∈ steps, step.concerns owner = true ∨ ∃ name, step = .close name) :
    StandsStill (session.final steps).scene.clock ∧
      ((session.final steps).scene.outlets.Hears ↔ session.scene.outlets.Hears) := by
  suffices hall : (session.final steps).first = some owner ∧
      (∃ logger, (session.final steps).logger = .ok logger) ∧
      StandsStill (session.final steps).scene.clock ∧
      ((session.final steps).scene.outlets.Hears ↔ session.scene.outlets.Hears) from hall.2.2
  refine final_induction (P := fun last => last.first = some owner ∧
    (∃ logger, last.logger = .ok logger) ∧ StandsStill last.scene.clock ∧
    (last.scene.outlets.Hears ↔ session.scene.outlets.Hears)) ?_
    ⟨hfirst, ⟨base, hlogger⟩, hstands, .rfl⟩
  rintro last step hmem ⟨hfirst, ⟨logger, hlogger⟩, hstands, hhears⟩
  obtain ⟨later, hlater, -⟩ := logger_step hlogger step
  obtain ⟨hstands', hhears'⟩ := standing_step hfirst hlogger hstands (hsteps step hmem)
  exact ⟨first_step hfirst step, ⟨later, hlater⟩, hstands', hhears'.trans hhears⟩

/-- **Failing sinks are isolated.** Let a logger have sinks none of which is dropped, beside a clock
that stands still unless it is moved, and let a run attach any sinks and close any streams, with no
spared sink behind a dropped one that fails with a fault of recursion. Where standard error hears
all reports, compare the run with the one that never attaches the dropped sinks, whatever these do:

* All other streams, and all files that no dropped stream writes to, are the same at the end.
* So is the number of the next record.

A logging call of the run raises no fault of a sink but one of recursion. When it meets a sink that
fails so, the sinks in front of it have received the line, those behind it have not, and the number
of the record is spent. A standard error that does not hear all reports may refuse the report on
another fault of a sink; then this sink takes the place of the one that fails with a fault of
recursion. -/
theorem failures_isolated (hfirst : session.first = some owner)
    (hlogger : session.logger = .ok base) (hsinks : base.sinks ≠ [])
    (hbase : ∀ sink ∈ base.sinks, sink.handle.isSpared dropped = true)
    (hstands : StandsStill session.scene.clock)
    (hsteps : ∀ step ∈ steps, step.concerns owner = true ∨ ∃ name, step = .close name)
    (hsheltered : (session.scene.outlets.foreseen steps).Sheltered dropped
      (base.sinks.map Sink.handle ++ attachments steps)) :
    let last := session.final steps
    let spared := session.final (steps.filter (Step.isSpared dropped))
    (session.scene.outlets.Hears →
      (∀ handle, handle.isSpared dropped = true →
        last.scene.outlets.find? handle = spared.scene.outlets.find? handle) ∧
      (∀ place, last.scene.outlets.Shows dropped place →
        last.scene.outlets.files.content? place = spared.scene.outlets.files.content? place) ∧
      (∃ sinks next, last.logger = .ok { base with sinks, nextSequence := next } ∧
        spared.logger = .ok { base with
          sinks := sinks.filter fun sink => sink.handle.isSpared dropped
          nextSequence := next })) ∧
    ∀ before call site later, steps = before ++ .log call site :: later →
      ((session.final before).scene.outlets.Hears ↔ session.scene.outlets.Hears) ∧
      ∃ logger, (session.final before).logger = .ok logger ∧
        (session.final before).Isolates logger call site := by
  intro last spared
  refine ⟨fun hhears => ?_, fun before call site later hsplit => ?_⟩
  · obtain ⟨sinks, htwins⟩ := (paired_self dropped hfirst hlogger hsinks hbase hhears hstands
      hsheltered).run hsteps
    exact ⟨fun handle hspared => (htwins.outlets.streams handle hspared).symm,
      fun place hshows => (htwins.outlets.files place hshows).symm, sinks, htwins.loggers⟩
  · have hbefore : ∀ step ∈ before, step.concerns owner = true ∨ ∃ name, step = .close name := by
      intro step hmem
      exact hsteps step (hsplit ▸ List.mem_append_left _ hmem)
    obtain ⟨hstands', hhears⟩ := standing_final hfirst hlogger hstands hbefore
    obtain ⟨logger, hthere, -⟩ := logger_final hlogger before
    exact ⟨hhears, logger, hthere, isolates hthere hstands' call site⟩

/-- A sink that fails, one that fails with a fault of recursion between two lines, one that is
attached behind it, and a stream that is closed. -/
theorem failures_isolated_of_broken_sinks :
    let site : CallSite := { file := "d.py", function := .text "f", line := .int 1 }
    let steps : List Step :=
      [.attach "bad" (.failing false .system), .attach "good" (.bytes []),
        .attach "shut" (.text ""), .log (.print (.text "a") .null) site, .close "shut",
        .attach "deep" (.failing false .recursion), .attach "late" (.text ""),
        .log (.print (.text "b") .null) site, .setClock (.int 1),
        .log (.print (.text "c") .null) site]
    let dropped := ["bad", "shut", "deep", "late"]
    let last := timed.final steps
    let spared := timed.final (steps.filter (Step.isSpared dropped))
    let now := timed.final (steps.take 7)
    last.scene.outlets.find? .console = spared.scene.outlets.find? .console ∧
      last.scene.outlets.find? (.named "good") = spared.scene.outlets.find? (.named "good") ∧
      spared.scene.outlets.find? .console =
        some ⟨.text "0.00\t0\ta\n0.00\t1\tb\n1.00\t2\tc\n", false⟩ ∧
      ∃ logger, now.logger = .ok logger ∧
        now.Isolates logger (.print (.text "b") .null) site := by
  intro site steps dropped
  obtain ⟨base, hlogger, hsinks⟩ : ∃ base, timed.logger = .ok base ∧
      base.sinks = [⟨.line, .console⟩] := ⟨_, rfl, rfl⟩
  have hstands : StandsStill timed.scene.clock := by
    rintro clock ⟨⟩
    rfl
  have hsteps : ∀ step ∈ steps, step.concerns .host = true ∨ ∃ name, step = .close name := by
    simp [steps, Step.concerns]
  have hsheltered : (timed.scene.outlets.foreseen steps).Sheltered dropped
      (base.sinks.map Sink.handle ++ attachments steps) := by
    rw [hsinks]
    decide +kernel
  have hfirst : timed.first = some .host := rfl
  have hall := failures_isolated hfirst hlogger (by simp [hsinks])
    (by simp [hsinks, Handle.isSpared]) hstands hsteps hsheltered
  obtain ⟨hstreams, -, -⟩ := hall.1 (by decide)
  have hconsole := hstreams .console rfl
  have hgood := hstreams (.named "good") (by decide)
  obtain ⟨-, hcalls⟩ := hall.2 (steps.take 7) _ site (steps.drop 8) rfl
  exact ⟨hconsole, hgood, by decide +kernel, hcalls⟩

/-- A session whose clock shows another time once it was read twice. -/
def paced : Session :=
  ({ gate := { clock := .own }
     scene := { clock := some ⟨.scripted (.time (.int 1))
      [.time (.int 1), .time (.int 2), .time (.int 2)], 0⟩ } } : Session).final
    [.configure (some (.fields [("clock_prefix", .bool true)])) []]

/-- A session that logs to a file, beside a standard error that is closed. -/
def deaf : Session :=
  ({ scene := { outlets := ({} : Outlets).close .console } } : Session).final
    [.configure (some (.fields [("file_path", .text "out.log")])) []]

/-- **Not every sink that fails is isolated.**

* A clock that does not change during any call may still show other times to the other sinks, if it
  is the reading that changes it: the sink that fails has it read once more.
* Where standard error is closed, the report on the fault of a sink is refused: the call raises a
  fault that is not one of recursion, and the sink behind receives nothing. -/
theorem broken_sinks_are_noticed :
    let site : CallSite := { file := "d.py", function := .text "f", line := .int 1 }
    let bad : Step := .attach "bad" (.failing false .system)
    let good : Step := .attach "good" (.text "")
    let log (message : String) : Step := .log (.print (.text message) .null) site
    (paced.SteadyAlong [bad, log "a", log "b"] ∧ paced.SteadyAlong [log "a", log "b"] ∧
      (paced.final [bad, log "a", log "b"]).scene.outlets.find? .console =
        some ⟨.text "1.00\tINFO\ta\n2.00\tINFO\tb\n", false⟩ ∧
      (paced.final [log "a", log "b"]).scene.outlets.find? .console =
        some ⟨.text "1.00\tINFO\ta\n1.00\tINFO\tb\n", false⟩) ∧
    (deaf.final [bad, good, log "a"]).scene.outlets.find? (.named "good") =
        some ⟨.text "", false⟩ ∧
      (deaf.final [good, log "a"]).scene.outlets.find? (.named "good") =
        some ⟨.text "INFO\ta\n", false⟩ ∧
      ((deaf.final [bad, good]).step (log "a")).2 = .raised (.stream (.closed false)) := by
  intro site bad good log
  refine ⟨⟨?_, ?_, by decide +kernel, by decide +kernel⟩, by decide +kernel, by decide +kernel, rfl⟩
  · have hone : (paced.step bad).1.Steady (log "a") :=
      @steady_log _ (.ok "1.00") 2 (by decide +kernel) _ site
    have htwo : ((paced.step bad).1.step (log "a")).1.Steady (log "b") :=
      @steady_log _ (.ok "2.00") 2 (by decide +kernel) _ site
    exact ⟨trivial, fun _ => ⟨hone, fun _ => ⟨htwo, fun _ => trivial⟩⟩⟩
  · have hone : paced.Steady (log "a") := @steady_log _ (.ok "1.00") 1 (by decide +kernel) _ site
    have htwo : (paced.step (log "a")).1.Steady (log "b") :=
      @steady_log _ (.ok "1.00") 1 (by decide +kernel) _ site
    exact ⟨hone, fun _ => ⟨htwo, fun _ => trivial⟩⟩

end Session

end TraceLog
