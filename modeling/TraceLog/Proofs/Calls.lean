import TraceLog.Proofs.Delivery

/-!
# What a Logging Call Comes To

A logging call resolves its level and its text before anything is written. `Logger.outcome` is
the result: a fault, nothing when the level does not pass, or a level and a text. It is settled
by the arguments and the threshold. `Logger.does_outcome` proves that the call does what it
comes to, and `Logger.emit_of_takes` that a message which passes is received, as the line of its
call, by all sinks if they take the line.

## Main results

* `Logger.does_outcome`: a call that fails, one that is dropped, and one that is emitted.
* `Logger.call_eq_draft`: a call gives the record that it comes to to all sinks.
* `Logger.emit_of_takes`: a message that passes is received by all sinks.
-/

namespace TraceLog

open Number

namespace Logger

/-- A level passes when the threshold is not the one that disables all output, and is not above
the level. -/
def Passes (logger : Logger) (level : Int) : Prop :=
  logger.threshold ≠ Level.off ∧ logger.threshold ≤ level

instance (logger : Logger) (level : Int) : Decidable (logger.Passes level) :=
  inferInstanceAs (Decidable (_ ∧ _))

/-- The logger admits the levels that pass. -/
theorem admits_eq_decide (logger : Logger) (level : Int) :
    logger.admits level = decide (logger.Passes level) := by
  by_cases hoff : logger.threshold = Level.off
  · simp [admits, isDisabled, Passes, hoff]
  · simp [admits, isDisabled, Passes, hoff]

/-- What a call comes to: a fault, nothing when its level does not pass, or a level and a
message. -/
def outcome (logger : Logger) : Call → Except Fault (Option (Int × String))
  | .print message level | .printLine message level => do
    let n ← resolveLevel level
    let text ← message.plainText
    return if logger.Passes n then some (n, text) else none
  | .printf level template args => do
    let n ← resolveLevel level
    if logger.Passes n then
      let message ← template.remainder (.tuple args)
      let text ← message.plainText
      return some (n, text)
    else return none

/-- The level and the value that a call emits, if its level passes, or the fault that it
raises. -/
def emitted (logger : Logger) : Call → Except Fault (Option (Int × Value))
  | .print message level | .printLine message level => do
    let n ← resolveLevel level
    let text ← message.plainText
    return if logger.Passes n then some (n, .text text) else none
  | .printf level template args => do
    let n ← resolveLevel level
    if logger.Passes n then
      let message ← template.remainder (.tuple args)
      return some (n, message)
    else return none

/-- The level that a call is given. -/
def Call.level : Call → Value
  | .print _ level | .printLine _ level | .printf level _ _ => level

end Logger

/-- A filled template is a text or a byte string, and has a text. -/
theorem Value.plainText_of_remainder {template args message : Value}
    (h : template.remainder args = .ok message) : ∃ text, message.plainText = .ok text := by
  cases template with
  | text s =>
      obtain ⟨filled, -, h⟩ := bind_eq_ok.mp h
      obtain rfl := Except.ok.inj h
      exact ⟨_, rfl⟩
  | bytes bs =>
      obtain ⟨filled, -, h⟩ := bind_eq_ok.mp h
      obtain rfl := Except.ok.inj h
      exact ⟨_, rfl⟩
  | _ => simp [remainder] at h

namespace Logger

variable {platform : Platform} {logger : Logger} {site : CallSite} {scene : Scene}

/-- What a call does when it comes to an outcome: it raises the fault, is dropped, or emits a
message with the text. -/
inductive Does (platform : Platform) (logger : Logger) (call : Call) (site : CallSite)
    (scene : Scene) : Except Fault (Option (Int × String)) → Prop
  | raises {fault : Fault} :
      logger.call platform call site scene = (logger, scene, .raised fault) →
      Does platform logger call site scene (.error fault)
  | dropped : logger.call platform call site scene = (logger, scene, .returned) →
      Does platform logger call site scene (.ok none)
  | emits {level : Int} {text : String} {message : Value} : logger.Passes level →
      resolveLevel call.level = .ok level → message.plainText = .ok text →
      logger.call platform call site scene = logger.emit platform level message site scene →
      Does platform logger call site scene (.ok (some (level, text)))

/-- A level that does not pass is not admitted. -/
theorem admits_of_not_passes {level : Int} (h : ¬ logger.Passes level) :
    logger.admits level = false := by
  rw [admits_eq_decide, decide_eq_false h]

/-- A level that passes is admitted. -/
theorem admits_of_passes {level : Int} (h : logger.Passes level) :
    logger.admits level = true := by
  rw [admits_eq_decide, decide_eq_true h]

/-- **What a call comes to is settled by what it emits.** A value that is emitted has a text, and
the level that the call is given. -/
theorem outcome_of_emitted (logger : Logger) (call : Call) :
    match logger.emitted call with
    | .error fault => logger.outcome call = .error fault
    | .ok none => logger.outcome call = .ok none
    | .ok (some (n, message)) => logger.Passes n ∧ resolveLevel call.level = .ok n ∧
        ∃ text, message.plainText = .ok text ∧ logger.outcome call = .ok (some (n, text)) := by
  have hprint : ∀ message level,
      match logger.emitted (.print message level) with
      | .error fault => logger.outcome (.print message level) = .error fault
      | .ok none => logger.outcome (.print message level) = .ok none
      | .ok (some (n, value)) => logger.Passes n ∧ resolveLevel level = .ok n ∧
          ∃ text, value.plainText = .ok text ∧
            logger.outcome (.print message level) = .ok (some (n, text)) := by
    intro message level
    simp only [Logger.emitted, outcome, bind, Except.bind, pure, Except.pure]
    rcases resolveLevel level with fault | n
    · rfl
    rcases message.plainText with fault | text
    · rfl
    by_cases hpasses : logger.Passes n
    · simp only [if_pos hpasses]
      exact ⟨hpasses, trivial, text, Value.plainText_text text, rfl⟩
    · simp only [if_neg hpasses]
  cases call with
  | print message level => exact hprint message level
  | printLine message level => exact hprint message level
  | printf level template args =>
      simp only [Logger.emitted, outcome, bind, Except.bind, pure, Except.pure, Call.level]
      rcases resolveLevel level with fault | n
      · rfl
      by_cases hpasses : logger.Passes n
      · rcases hmessage : template.remainder (.tuple args) with fault | message
        · simp only [if_pos hpasses]
        · obtain ⟨text, htext⟩ := Value.plainText_of_remainder hmessage
          simp only [if_pos hpasses, htext]
          exact ⟨hpasses, trivial, text, rfl, rfl⟩
      · simp only [if_neg hpasses]

/-- Printing emits what it comes to. -/
theorem print_eq (platform : Platform) (logger : Logger) (message level : Value)
    (site : CallSite) (scene : Scene) :
    logger.print platform message level site scene =
      match logger.emitted (.print message level) with
      | .error fault => (logger, scene, .raised fault)
      | .ok none => (logger, scene, .returned)
      | .ok (some (n, message)) => logger.emit platform n message site scene := by
  rcases hresolve : resolveLevel level with fault | n
  · simp only [print, Logger.emitted, hresolve]
    rfl
  rcases htext : message.plainText with fault | text
  · simp only [print, Logger.emitted, hresolve, htext]
    rfl
  by_cases hpasses : logger.Passes n
  · simp only [print, Logger.emitted, hresolve, htext, bind, Except.bind, pure, Except.pure,
      if_pos hpasses]
  · simp only [print, Logger.emitted, hresolve, htext, bind, Except.bind, pure, Except.pure,
      if_neg hpasses]
    exact emit_of_not_admits platform (admits_of_not_passes hpasses) _ _ _

/-- Calls emit what they come to. -/
theorem call_eq (platform : Platform) (logger : Logger) (call : Call) (site : CallSite)
    (scene : Scene) :
    logger.call platform call site scene =
      match logger.emitted call with
      | .error fault => (logger, scene, .raised fault)
      | .ok none => (logger, scene, .returned)
      | .ok (some (n, message)) => logger.emit platform n message site scene := by
  cases call with
  | print message level => exact logger.print_eq platform message level site scene
  | printLine message level => exact logger.print_eq platform message level site scene
  | printf level template args =>
      rcases hresolve : resolveLevel level with fault | n
      · simp only [Logger.call, printf, Logger.emitted, hresolve]
        rfl
      by_cases hpasses : logger.Passes n
      · rcases hmessage : template.remainder (.tuple args) with fault | message
        · simp only [Logger.call, printf, Logger.emitted, hresolve, admits_of_passes hpasses,
            hmessage, bind, Except.bind, if_pos hpasses, if_true]
        · simp only [Logger.call, printf, Logger.emitted, hresolve, admits_of_passes hpasses,
            hmessage, bind, Except.bind, pure, Except.pure, if_pos hpasses, if_true]
      · simp only [Logger.call, printf, Logger.emitted, hresolve, admits_of_not_passes hpasses,
          bind, Except.bind, pure, Except.pure, if_neg hpasses, Bool.false_eq_true, if_false]

/-- **A call does what it comes to.** -/
theorem does_outcome (platform : Platform) (logger : Logger) (call : Call) (site : CallSite)
    (scene : Scene) : logger.Does platform call site scene (logger.outcome call) := by
  have hcall := logger.call_eq platform call site scene
  have houtcome := logger.outcome_of_emitted call
  rcases hemitted : logger.emitted call with fault | - | ⟨n, message⟩
  · simp only [hemitted] at hcall houtcome
    rw [houtcome]
    exact .raises hcall
  · simp only [hemitted] at hcall houtcome
    rw [houtcome]
    exact .dropped hcall
  · simp only [hemitted] at hcall houtcome
    obtain ⟨hpasses, hresolve, text, htext, houtcome⟩ := houtcome
    rw [houtcome]
    exact .emits hpasses hresolve htext hcall

/-! ### The record of a call -/

/-- What a call comes to before anything is given to sinks. -/
inductive Draft where
  /-- No record is made, a fault is raised or not, and a number may have been taken. -/
  | unmade (taken : Nat) (fault? : Option Fault)
  /-- A record with the next number. -/
  | made (record : Record)

/-- What a call comes to. A level that is too long to be named takes a number and raises a
fault. -/
def draft (logger : Logger) (call : Call) (site : CallSite) : Draft :=
  match logger.emitted call with
  | .error fault => .unmade 0 (some fault)
  | .ok none => .unmade 0 none
  | .ok (some (level, message)) =>
    match Level.name level with
    | .error fault => .unmade 1 (some fault)
    | .ok levelName => .made (logger.recordFor levelName message site)

/-- **A call gives the record that it comes to to all sinks**, and takes the next number with
it. -/
theorem call_eq_draft (platform : Platform) (logger : Logger) (call : Call) (site : CallSite)
    (scene : Scene) :
    logger.call platform call site scene =
      match logger.draft call site with
      | .unmade taken fault? => ({ logger with nextSequence := logger.nextSequence + taken },
          scene, fault?.elim .returned .raised)
      | .made record => ({ logger with nextSequence := logger.nextSequence + 1 },
          deliver platform logger record logger.sinks scene) := by
  rw [call_eq, draft]
  rcases hemitted : logger.emitted call with fault | - | ⟨n, message⟩
  · rfl
  · rfl
  · have houtcome := logger.outcome_of_emitted call
    simp only [hemitted] at houtcome
    rcases hname : Level.name n with fault | levelName
    · simp only [emit, admits_of_passes houtcome.1, if_true, hname]
      rfl
    · simp only [emit, admits_of_passes houtcome.1, if_true, hname]

/-- A message that passes is received by all sinks as the line of its call. -/
theorem emit_of_takes (platform : Platform) {message : Value} {text function line : String}
    {level : Int} {time : Binary64} {readings : Nat} (hformat : logger.HasStandardFormat)
    (hshows : logger.ShowsOwnClock) (hclock : scene.clock = some ⟨.manual time, readings⟩)
    (hsinks : ∀ sink ∈ logger.sinks,
      sink.Takes (logger.lineAt logger.nextSequence time level text site) scene.outlets)
    (hpasses : logger.Passes level)
    (hlevel : Value.IsShort level) (hmessage : message.plainText = .ok text)
    (hsequence : Value.IsShort (logger.nextSequence : Int)) (hsite : site.Shown function line) :
    ∃ outlets readings',
      logger.emit platform level message site scene =
        ({ logger with nextSequence := logger.nextSequence + 1 },
          { scene with outlets, clock := some ⟨.manual time, readings'⟩ }, .returned) ∧
      scene.outlets.Receives (fun handle => repeated (Sink.behind logger.sinks handle)
        (logger.lineAt logger.nextSequence time level text site)) outlets := by
  have hwrites := writes_recordFor hformat hshows hmessage hsequence hsite level time
  obtain ⟨outlets, readings', hdeliver, hreceives⟩ := deliver_of_takes platform
    hwrites (logger.lineAt_ne_empty _ _ _ _ _) hclock hsinks
  refine ⟨outlets, readings', ?_, hreceives⟩
  simp only [emit, admits_of_passes hpasses, if_true, Level.name_of_isShort hlevel, hdeliver]

/-- A level that a call is given is short unless it is a long integer. -/
theorem isShort_of_resolveLevel {v : Value} {level : Int} (h : resolveLevel v = .ok level)
    (hv : v.IsShortLevel) : Value.IsShort level := by
  simp only [resolveLevel] at h
  split at h
  · obtain rfl := Except.ok.inj h
    exact Value.isShort_of_lt (by decide)
  · exact Level.isShort_of_parse h hv

end Logger

end TraceLog
