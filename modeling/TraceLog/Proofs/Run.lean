import Mathlib.Data.List.Basic
import TraceLog.Session
import TraceLog.Proofs.Attempt

/-!
# Runs of Sessions

A run records the state and the ending of each of its steps and stops behind the step that ends
the process. `Session.final` is the state it leaves. A property that every step keeps is kept
by whole runs (`Session.final_induction`), and a run whose first part does not end the process
goes on from the state that this part leaves (`Session.run_append`).

The steps that configure a gate are taken apart here once: `Session.step_configure` reduces
the step to the attempt on the host's gate.
-/

namespace TraceLog

/-- Whether a run goes on behind a step with this ending. -/
def StepEnd.goesOn : StepEnd → Bool
  | .aborted _ => false
  | _ => true

/-- Whether it is settled what comes of a step: it does not come to a text with a surrogate, which
is none here. -/
def StepEnd.isSettled : StepEnd → Bool
  | .raised (.template .surrogate) => false
  | _ => true

/-- A step that gives no long integer for a level. -/
def Step.GivesShortLevels : Step → Prop
  | .configure source named | .configureProcess source named _ _ =>
    (∀ entries, source = some (.fields entries) → Options.GiveShortLevels entries) ∧
      Options.GiveShortLevels named
  | _ => True

/-- Options that are loaded from a source have a short level when the source gives one: a
property is read as a text, and a text is never a long integer. -/
theorem OptionSource.hasShortLevel_load {source : OptionSource} {options : Options}
    (h : source.load = .ok options)
    (hsource : ∀ entries, source = .fields entries → Options.GiveShortLevels entries) :
    options.HasShortLevel := by
  cases source with
  | fields entries =>
      exact Options.hasShortLevel_override h Options.hasShortLevel_default (hsource entries rfl)
  | properties entries =>
      intro n hn
      rw [OptionSource.load, Options.ofProperties] at h
      obtain ⟨level, -, h⟩ := bind_eq_ok.mp h
      obtain ⟨clockPrefix, -, h⟩ := bind_eq_ok.mp h
      obtain ⟨format, -, h⟩ := bind_eq_ok.mp h
      have hlevel : ∀ filePath, (do
          let suppressHost ← Options.parseFlag
            ((entries.find? "ShutStandardLogger").getD (.bool false))
          return { level := .text level
                   clockPrefix := .bool clockPrefix
                   format := .text format
                   filePath
                   suppressHost := .bool suppressHost } : Except Fault Options) = .ok options →
          options.level = .text level := by
        intro filePath htail
        obtain ⟨suppressHost, -, htail⟩ := bind_eq_ok.mp htail
        obtain rfl := Except.ok.inj htail
        rfl
      have htext : options.level = .text level := by
        dsimp only at h
        split at h
        · exact hlevel none h
        · exact hlevel none h
        · obtain ⟨path, -, h⟩ := bind_eq_ok.mp h
          exact hlevel (some (.ofText path)) h
      simp [htext] at hn

/-- An invocation with options from a source that gives short levels has short levels. -/
theorem Step.short_of_load {source : Option OptionSource} {named : Table String Value}
    {call : Invocation} (h : (Step.configure source named).GivesShortLevels)
    (hload : Invocation.load source named = .ok call) :
    (∀ given, call.options = some given → given.HasShortLevel) ∧
      Options.GiveShortLevels call.named := by
  obtain ⟨hsource, hnamed⟩ := h
  cases source with
  | none =>
      obtain rfl := Except.ok.inj hload
      exact ⟨fun given hgiven => by simp at hgiven, hnamed⟩
  | some source =>
      rcases hoptions : source.load with fault | options
      · simp [Invocation.load, hoptions, Except.map] at hload
      · simp only [Invocation.load, hoptions, Except.map, Except.ok.injEq] at hload
        subst hload
        refine ⟨fun given hgiven => ?_, hnamed⟩
        obtain rfl : options = given := Option.some.inj hgiven
        exact OptionSource.hasShortLevel_load hoptions fun entries hentries =>
          hsource entries (congrArg some hentries)

namespace Session

variable {session : Session}

/-! ### The state that a run leaves -/

/-- The state that a run leaves. -/
def final (session : Session) (steps : List Step) : Session :=
  ((session.run steps).map Prod.fst).getLastD session

/-- It is settled what comes of each step of a run. -/
def Settled (session : Session) (steps : List Step) : Prop :=
  ∀ entry ∈ session.run steps, entry.2.isSettled = true

instance (session : Session) (steps : List Step) : Decidable (session.Settled steps) :=
  inferInstanceAs (Decidable (∀ entry ∈ session.run steps, entry.2.isSettled = true))

/-- No steps have no entries. -/
@[simp] theorem run_nil (session : Session) : session.run [] = [] := rfl

/-- A step that does not end the process is followed by the rest of the run. -/
theorem run_cons {step : Step} (h : (session.step step).2.goesOn = true) (steps : List Step) :
    session.run (step :: steps) =
      session.step step :: (session.step step).1.run steps := by
  rcases hstep : session.step step with ⟨next, ending⟩
  rw [hstep] at h
  cases ending with
  | answered answer => simp only [run, hstep]
  | raised fault => simp only [run, hstep]
  | aborted fault => simp [StepEnd.goesOn] at h

/-- A step that ends the process is the last one of the run. -/
theorem run_cons_of_aborted {step : Step} (h : (session.step step).2.goesOn = false)
    (steps : List Step) : session.run (step :: steps) = [session.step step] := by
  rcases hstep : session.step step with ⟨next, ending⟩
  rw [hstep] at h
  cases ending with
  | answered answer => simp [StepEnd.goesOn] at h
  | raised fault => simp [StepEnd.goesOn] at h
  | aborted fault => simp only [run, hstep]

/-- No steps leave the session as it is. -/
@[simp] theorem final_nil (session : Session) : session.final [] = session := rfl

/-- The state that a run leaves is the one that the rest of the run leaves. -/
theorem final_cons {step : Step} (h : (session.step step).2.goesOn = true)
    (steps : List Step) :
    session.final (step :: steps) = (session.step step).1.final steps := by
  rw [final, run_cons h, List.map_cons, List.getLastD_cons]
  rfl

/-- A step that ends the process is the last one. -/
theorem final_cons_of_aborted {step : Step} (h : (session.step step).2.goesOn = false)
    (steps : List Step) : session.final (step :: steps) = (session.step step).1 := by
  rw [final, run_cons_of_aborted h]
  rfl

/-- What every step of a run keeps, the whole run keeps. -/
theorem final_induction {P : Session → Prop} {steps : List Step}
    (hstep : ∀ session : Session, ∀ step ∈ steps, P session → P (session.step step).1)
    (h : P session) : P (session.final steps) := by
  induction steps generalizing session with
  | nil => exact h
  | cons step steps ih =>
      have hnext : P (session.step step).1 := hstep session step (by simp) h
      rcases hgoes : (session.step step).2.goesOn with - | -
      · rw [final_cons_of_aborted hgoes]
        exact hnext
      · rw [final_cons hgoes]
        exact ih (fun s t ht => hstep s t (List.mem_cons_of_mem _ ht)) hnext

/-- A run whose first part does not end the process goes on from the state that this part
leaves. -/
theorem run_append {steps : List Step}
    (h : ∀ entry ∈ session.run steps, entry.2.goesOn = true) (later : List Step) :
    session.run (steps ++ later) = session.run steps ++ (session.final steps).run later := by
  induction steps generalizing session with
  | nil => rfl
  | cons step steps ih =>
      rcases hgoes : (session.step step).2.goesOn with - | -
      · rw [run_cons_of_aborted hgoes] at h
        have := h _ (List.mem_singleton_self _)
        simp [hgoes] at this
      · rw [run_cons hgoes] at h
        rw [List.cons_append, run_cons hgoes, run_cons hgoes, final_cons hgoes,
          ih fun entry hentry => h entry (List.mem_cons_of_mem _ hentry), List.cons_append]

/-- A run whose first part does not end the process leaves what the rest of it leaves. -/
theorem final_append {steps : List Step}
    (h : ∀ entry ∈ session.run steps, entry.2.goesOn = true) (later : List Step) :
    session.final (steps ++ later) = (session.final steps).final later := by
  induction steps generalizing session with
  | nil => rfl
  | cons step steps ih =>
      rcases hgoes : (session.step step).2.goesOn with - | -
      · rw [run_cons_of_aborted hgoes] at h
        have := h _ (List.mem_singleton_self _)
        simp [hgoes] at this
      · rw [run_cons hgoes] at h
        rw [List.cons_append, final_cons hgoes, final_cons hgoes,
          ih fun entry hentry => h entry (List.mem_cons_of_mem _ hentry)]

/-! ### The logger that was returned first -/

/-- Changing the logger that was returned first changes a gate, and nothing else. -/
theorem scene_setLogger (session : Session) (logger : Logger) :
    (session.setLogger logger).scene = session.scene := by
  rcases howner : session.first with - | - | -
  · simp only [setLogger, howner]
  · simp only [setLogger, howner]
  · simp only [setLogger, howner]

/-- The logger of a session does not matter for who has configured it. -/
@[simp] theorem first_setLogger (session : Session) (logger : Logger) :
    (session.setLogger logger).first = session.first := by
  rcases howner : session.first with - | - | -
  · simp only [setLogger, howner]
  · simp only [setLogger, howner]
  · simp only [setLogger, howner]

/-- The logger that was returned first is that of its owner's gate. -/
theorem committed_of_logger {logger : Logger} (h : session.logger = .ok logger) :
    (session.first = some .host ∧ session.gate.committed = some logger) ∨
      (session.first = some .process ∧
        ∃ gate, session.processGate = some gate ∧ gate.committed = some logger) := by
  have hcurrent : ∀ {gate : Gate}, gate.current = .ok logger → gate.committed = some logger := by
    intro gate hgate
    rw [Gate.current] at hgate
    split at hgate
    · next hcommitted =>
      obtain rfl := Except.ok.inj hgate
      exact hcommitted
    · simp at hgate
  rcases howner : session.first with - | - | -
  · simp [Session.logger, howner] at h
  · rw [Session.logger, howner] at h
    exact .inl ⟨rfl, hcurrent h⟩
  · rw [Session.logger, howner] at h
    rcases hgate : session.processGate with - | gate
    · simp [loggerOf, ProcessGate.current, hgate] at h
    · simp only [loggerOf, ProcessGate.current, hgate] at h
      exact .inr ⟨rfl, gate, rfl, hcurrent h⟩

/-- The changed logger is the one that was returned first. -/
theorem logger_setLogger {logger : Logger} (h : session.logger = .ok logger) (next : Logger) :
    (session.setLogger next).logger = .ok next := by
  rcases committed_of_logger h with ⟨howner, -⟩ | ⟨howner, gate, hgate, -⟩
  · rw [Session.logger, first_setLogger, howner]
    simp only [loggerOf, setLogger, howner]
    rfl
  · rw [Session.logger, first_setLogger, howner]
    simp only [loggerOf, setLogger, howner, hgate]
    rfl

/-- Changing the logger to what it is changes nothing. -/
theorem setLogger_self {logger : Logger} (h : session.logger = .ok logger) :
    session.setLogger logger = session := by
  rcases committed_of_logger h with ⟨howner, hcommitted⟩ | ⟨howner, gate, hgate, hcommitted⟩
  · simp only [setLogger, howner, ← hcommitted]
    rw [← howner]
  · simp only [setLogger, howner, hgate, Option.map_some, ← hcommitted]
    rw [← howner, ← hgate]

/-! ### Steps that move the clock -/

/-- A move of the clock changes the clock at most. -/
theorem exists_moveClock (session : Session) (name : String) (move : Clock → Except Fault Clock)
    (answer : Clock → Answer) :
    (∃ clock, (session.moveClock name move answer).1 =
      { session with scene := { session.scene with clock } }) ∧
      (session.moveClock name move answer).2.goesOn = true := by
  rcases hclock : session.scene.clock with - | clock
  · simp only [moveClock, hclock]
    exact ⟨⟨session.scene.clock, rfl⟩, rfl⟩
  · rcases hmove : move clock with fault | moved
    · simp only [moveClock, hclock, hmove]
      exact ⟨⟨session.scene.clock, rfl⟩, rfl⟩
    · simp only [moveClock, hclock, hmove]
      exact ⟨⟨some moved, rfl⟩, rfl⟩

/-! ### Steps that look at a logger -/

/-- Looking at the logger leaves the session as it is. -/
theorem fst_step_inspect (session : Session) : (session.step .inspect).1 = session := by
  simp only [Session.step]
  split
  · rfl
  · rfl

/-- Looking at the host's logger leaves the session as it is. -/
theorem fst_step_inspectHost (session : Session) : (session.step .inspectHost).1 = session := by
  simp only [Session.step]
  split
  · rfl
  · rfl

/-! ### Steps that configure -/

/-- Finishing a configuration does not change the scene. -/
theorem scene_finish (session : Session) (owner : Owner) (raised : Option Fault) :
    (session.finish owner raised).1.scene = session.scene := by
  cases raised with
  | none => rfl
  | some fault => rfl

/-- A step that configures the host's gate is an attempt on it, if its options are loaded. -/
theorem step_configure {source : Option OptionSource} {named : Table String Value}
    {call : Invocation} (h : Invocation.load source named = .ok call) (session : Session) :
    session.step (.configure source named) =
      let attempt := session.gate.invoke session.platform call session.scene
      finish { session with gate := attempt.gate, scene := attempt.scene } .host
        attempt.raised := by
  simp only [step, h]

/-- A step whose options are not loaded configures nothing. -/
theorem step_configure_of_error {source : Option OptionSource} {named : Table String Value}
    {fault : Fault} (h : Invocation.load source named = .error fault) (session : Session) :
    session.step (.configure source named) = (session, .raised fault) := by
  simp only [step, h]

/-- The options and overriding fields that a step stands for which configures the host's gate
while that has no logger. -/
def attempted (source : Option OptionSource) (named : Table String Value) :
    Except Fault (Options × Table String Value) :=
  Invocation.load source named >>= Invocation.arguments

/-- A step that stands for no options configures nothing. -/
theorem step_configure_of_not_attempted (hgate : session.gate.committed = none)
    {source : Option OptionSource} {named : Table String Value} {fault : Fault}
    (h : attempted source named = .error fault) :
    session.step (.configure source named) = (session, .raised fault) := by
  rcases hload : Invocation.load source named with fault' | call
  · obtain rfl : fault' = fault := by
      rw [attempted, hload] at h
      exact Except.error.inj h
    exact step_configure_of_error hload session
  · have harguments : call.arguments = .error fault := by
      rw [attempted, hload] at h
      exact h
    rw [step_configure hload, Gate.invoke_of_unconfigured hgate]
    simp only [harguments]
    rfl

/-- A step that configures a gate without a logger configures it with what the step stands
for. -/
theorem step_configure_of_attempted (hgate : session.gate.committed = none)
    {source : Option OptionSource} {named : Table String Value} {options : Options}
    {overrides : Table String Value} (h : attempted source named = .ok (options, overrides)) :
    session.step (.configure source named) =
      let attempt := session.gate.configure session.platform options overrides session.scene
      finish { session with gate := attempt.gate, scene := attempt.scene } .host
        attempt.raised := by
  obtain ⟨call, hload, harguments⟩ := bind_eq_ok.mp h
  rw [step_configure hload, Gate.invoke_of_unconfigured hgate]
  simp only [harguments]

/-- What a step stands for that gives no long level has a short level. -/
theorem short_of_attempted {source : Option OptionSource} {named : Table String Value}
    {options : Options} {overrides : Table String Value}
    (hshort : (Step.configure source named).GivesShortLevels)
    (h : attempted source named = .ok (options, overrides)) :
    options.HasShortLevel ∧ Options.GiveShortLevels overrides := by
  obtain ⟨call, hload, harguments⟩ := bind_eq_ok.mp h
  obtain ⟨hgiven, hnamed⟩ := Step.short_of_load hshort hload
  exact Invocation.short_of_arguments harguments hgiven hnamed

end Session

end TraceLog
