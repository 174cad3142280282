import TraceLog.Proofs.Printing
import TraceLog.Proofs.Refusals

/-!
# What the Threshold Lets Through

A logger is disabled when its threshold is the level `off`, which is a level as any other one: there
are levels above it, and a call may be given it. This module proves that being disabled is being of
no effect. `Session.TakesEffect` lists what a call can do: spend a number, write to a sink, read the
clock, or look at the template that it is given. That it looks at its template is said without any
regard to how: the call depends on the template or its arguments.

Below the threshold a call has no effect, and a disabled logger lets nothing through at any level,
`off` and those above it included. At the threshold and above it a call always has one, also when
the threshold is above `off`. The threshold stays what it is for as long as a session goes on.

## Main results

* `Session.takesEffect_iff`: a call takes effect exactly when its level passes.
* `Session.disabled_iff_without_effect`: all loggers, in all states that can be reached.
-/

namespace TraceLog

/-- A call whose message has a text: not one that prints a value which holds an integer that is too
long to be written. -/
def Logger.Call.HasText : Logger.Call → Prop
  | .print message _ | .printLine message _ => ¬ message.HoldsLong
  | .printf .. => True

namespace Logger

variable {logger : Logger} {call : Call} {n : Int}

/-- A level passes exactly when the logger is not disabled and the level reaches the threshold. -/
theorem passes_iff (logger : Logger) (n : Int) :
    logger.Passes n ↔ logger.isDisabled = false ∧ logger.threshold ≤ n := by
  simp [Passes, isDisabled]

/-- A call whose level passes emits its message, if it has a text and its template can be filled. -/
theorem emitted_of_passes (hresolve : resolveLevel call.level = .ok n) (hpasses : logger.Passes n)
    (htext : call.HasText) :
    (∃ message, logger.emitted call = .ok (some (n, message))) ∨
      ∃ level template args fault, call = .printf level template args ∧
        logger.emitted call = .error fault := by
  have hprint : ∀ message level, resolveLevel level = .ok n → ¬ message.HoldsLong →
      ∃ text, logger.emitted (.print message level) = .ok (some (n, text)) := by
    intro message level hlevel hshort
    obtain ⟨text, hplain⟩ := message.exists_plainText_iff.mpr hshort
    refine ⟨.text text, ?_⟩
    simp only [emitted, hlevel, hplain, bind, Except.bind, pure, Except.pure, if_pos hpasses]
  cases call with
  | print message level => exact .inl (hprint message level hresolve htext)
  | printLine message level => exact .inl (hprint message level hresolve htext)
  | printf level template args =>
      have hlevel : resolveLevel level = .ok n := hresolve
      rcases hfilled : template.remainder (.tuple args) with fault | message
      · exact .inr ⟨level, template, args, fault, rfl,
          emitted_printf_eq_error_iff.mpr (.inr ⟨n, hlevel, hpasses, hfilled⟩)⟩
      · refine .inl ⟨message, ?_⟩
        simp only [emitted, hlevel, hfilled, bind, Except.bind, pure, Except.pure, if_pos hpasses]

/-- A call whose level does not pass, or whose message has no text, emits nothing. -/
theorem not_emitted (hresolve : resolveLevel call.level = .ok n)
    (h : ¬ (logger.Passes n ∧ call.HasText)) (m : Int) (message : Value) :
    logger.emitted call ≠ .ok (some (m, message)) := by
  intro hemitted
  have houtcome := logger.outcome_of_emitted call
  simp only [hemitted] at houtcome
  obtain ⟨hpasses, hresolved, -⟩ := houtcome
  obtain rfl : n = m := Except.ok.inj (hresolve.symm.trans hresolved)
  refine h ⟨hpasses, ?_⟩
  have hprint : ∀ v level, logger.emitted (.print v level) = .ok (some (n, message)) →
      ¬ v.HoldsLong := by
    intro v level hprinted
    simp only [emitted] at hprinted
    obtain ⟨level, -, hprinted⟩ := bind_eq_ok.mp hprinted
    obtain ⟨text, hplain, -⟩ := bind_eq_ok.mp hprinted
    exact v.exists_plainText_iff.mp ⟨text, hplain⟩
  cases call with
  | print v level => exact hprint v level hemitted
  | printLine v level => exact hprint v level hemitted
  | printf level template args => exact trivial

end Logger

namespace Session

variable {session : Session} {logger : Logger} {call : Logger.Call} {site : CallSite} {n : Int}

/-! ### Effects -/

/-- A logging call has an effect: it spends a number, writes to an outlet, reads the clock, or
depends on its template or on the arguments of it. -/
inductive TakesEffect (session : Session) (call : Logger.Call) (site : CallSite) : Prop where
  | spends {before after : Logger} (hbefore : session.logger = .ok before)
      (hafter : (session.step (.log call site)).1.logger = .ok after)
      (hspent : after.nextSequence ≠ before.nextSequence) : TakesEffect session call site
  | writes (hwritten : (session.step (.log call site)).1.scene.outlets ≠ session.scene.outlets) :
      TakesEffect session call site
  | reads (hread : (session.step (.log call site)).1.scene.clock ≠ session.scene.clock) :
      TakesEffect session call site
  | fills {level template : Value} {args : List Value} (template' : Value) (args' : List Value)
      (hcall : call = .printf level template args)
      (hdepends : session.step (.log (.printf level template' args') site) ≠
        session.step (.log call site)) : TakesEffect session call site

/-- A call that emits a message spends a number. -/
theorem logger_step_log_of_emitted (hlogger : session.logger = .ok logger) {message : Value}
    (h : logger.emitted call = .ok (some (n, message))) (site : CallSite) :
    (session.step (.log call site)).1.logger =
      .ok { logger with nextSequence := logger.nextSequence + 1 } := by
  rcases hname : Level.name n with fault | levelName
  · have hdraft : logger.draft call site = .unmade 1 (some fault) := by
      rw [Logger.draft, h]
      simp only [hname]
    rw [step_log_of_unmade hlogger hdraft]
    exact logger_setLogger hlogger _
  · have hdraft : logger.draft call site = .made (logger.recordFor levelName message site) := by
      rw [Logger.draft, h]
      simp only [hname]
    have hthere : ∀ scene, ({ session with scene } : Session).logger = .ok logger :=
      fun _ => hlogger
    rw [step_log_of_made hlogger hdraft]
    exact logger_setLogger (hthere _) _

/-- A call that emits nothing leaves the session as it is. -/
theorem step_log_of_not_emitted (hlogger : session.logger = .ok logger)
    (h : ∀ m message, logger.emitted call ≠ .ok (some (m, message))) (site : CallSite) :
    (session.step (.log call site)).1 = session := by
  rcases hemitted : logger.emitted call with fault | - | ⟨m, message⟩
  · rw [step_log_of_emitted_error hlogger hemitted]
  · rw [step_log_of_emitted_none hlogger hemitted]
  · exact absurd hemitted (h m message)

/-- A call that emits a message takes effect. -/
theorem TakesEffect.of_emitted (hlogger : session.logger = .ok logger) {message : Value}
    (h : logger.emitted call = .ok (some (n, message))) : session.TakesEffect call site :=
  .spends hlogger (logger_step_log_of_emitted hlogger h site) (by simp)

/-- A call whose template cannot be filled has looked at it: with another one it would have spent a
number. -/
theorem TakesEffect.of_unfilled (hlogger : session.logger = .ok logger) {level template : Value}
    {args : List Value} (hresolve : Logger.resolveLevel level = .ok n)
    (hpasses : logger.Passes n) {fault : Fault}
    (h : logger.emitted (.printf level template args) = .error fault) :
    session.TakesEffect (.printf level template args) site := by
  have hfilled := logger.emitted_printf_of_remainder (Value.remainder_doubled "") level
  have hprinted : logger.emitted (.print (.text "") level) = .ok (some (n, .text "")) := by
    simp only [Logger.emitted, hresolve, Value.plainText_text, bind, Except.bind, pure,
      Except.pure, if_pos hpasses]
  refine .fills (.text (String.ofList (Template.doubled "".toList))) [] rfl fun hsame => ?_
  have hspent := logger_step_log_of_emitted hlogger (hfilled.trans hprinted) site
  rw [hsame, step_log_of_emitted_error hlogger h, hlogger] at hspent
  simpa using congrArg Logger.nextSequence (Except.ok.inj hspent)

/-- **A call takes effect exactly when its level passes**, unless its message has no text. -/
theorem takesEffect_iff (hlogger : session.logger = .ok logger)
    (hresolve : Logger.resolveLevel call.level = .ok n) (site : CallSite) :
    session.TakesEffect call site ↔ logger.Passes n ∧ call.HasText := by
  constructor
  · intro heffect
    by_contra hnot
    -- the session stays as it is, which leaves a call that depends on its template
    have hkept := step_log_of_not_emitted hlogger (Logger.not_emitted hresolve hnot) site
    cases heffect with
    | spends hbefore hafter hspent =>
        rw [hkept, hbefore] at hafter
        exact hspent (congrArg Logger.nextSequence (Except.ok.inj hafter.symm))
    | writes hwritten => exact hwritten (by rw [hkept])
    | reads hread => exact hread (by rw [hkept])
    | @fills level template args template' args' hcall hdepends =>
        subst hcall
        have hpasses : ¬ logger.Passes n := fun hpasses => hnot ⟨hpasses, trivial⟩
        have hdropped : ∀ template args,
            session.step (.log (.printf level template args) site) =
              (session, .answered .nothing) :=
          fun template args => step_log_of_emitted_none hlogger
            (Logger.emitted_printf_of_not_passes hresolve hpasses template args) site
        exact hdepends ((hdropped _ _).trans (hdropped _ _).symm)
  · rintro ⟨hpasses, htext⟩
    rcases Logger.emitted_of_passes hresolve hpasses htext with
      ⟨message, hemitted⟩ | ⟨level, template, args, fault, rfl, hemitted⟩
    · exact .of_emitted hlogger hemitted
    · exact .of_unfilled hlogger hresolve hpasses hemitted

/-! ### Disabled loggers -/

/-- A logger that is not disabled lets a call through whose level is its threshold. -/
theorem exists_takesEffect (hreachable : session.Reachable) (hlogger : session.logger = .ok logger)
    (hdisabled : logger.isDisabled = false) :
    ∃ call site, call.level = .int logger.threshold ∧
      Logger.resolveLevel call.level = .ok logger.threshold ∧ session.TakesEffect call site := by
  let call : Logger.Call := .print (.text "") (.int logger.threshold)
  have hlevel : Logger.resolveLevel call.level = .ok logger.threshold :=
    Logger.resolveLevel_int (hreachable.isBuilt hlogger).lowest_le_threshold
  have htext : call.HasText := by
    rintro ⟨⟩
  exact ⟨call, ⟨"", .null, .null, {}⟩, rfl, hlevel, (takesEffect_iff hlogger hlevel _).mpr
    ⟨(logger.passes_iff _).mpr ⟨hdisabled, le_refl _⟩, htext⟩⟩

/-- **Being disabled is being of no effect.** Take any logger of any state that a session can come
to, and any state that the session comes to from there. The logger is then disabled if it was
before, and only then; and its threshold is the same.

* It is disabled exactly when no call has an effect, whatever level the call is given that is
  accepted: the level that disables, the decimal text of this level, and levels above it.
* When the threshold is not too long to be written, it is disabled exactly when no call has an
  effect that is given no long integer for its level.
* If it is not disabled, a call takes effect exactly when its level is at least the threshold,
  wherever the threshold lies. A call whose message has no text never does. -/
theorem disabled_iff_without_effect (hreachable : session.Reachable)
    (hlogger : session.logger = .ok logger) (steps : List Step) :
    let reached := session.final steps
    (∃ later, reached.logger = .ok later ∧ later.isDisabled = logger.isDisabled ∧
      later.threshold = logger.threshold) ∧
    (logger.isDisabled = true ↔ ∀ call site n, Logger.resolveLevel call.level = .ok n →
      ¬ reached.TakesEffect call site) ∧
    (Value.IsShort logger.threshold →
      (logger.isDisabled = true ↔ ∀ call site n, Logger.resolveLevel call.level = .ok n →
        call.level.IsShortLevel → ¬ reached.TakesEffect call site)) ∧
    (logger.isDisabled = false →
      ∀ call site n, Logger.resolveLevel call.level = .ok n →
        (call.HasText → (reached.TakesEffect call site ↔ logger.threshold ≤ n)) ∧
        (¬ call.HasText → ¬ reached.TakesEffect call site)) := by
  intro reached
  obtain ⟨later, hlater, hextends⟩ := logger_final hlogger steps
  have hthreshold : later.threshold = logger.threshold := hextends.threshold_eq
  have hsame : later.isDisabled = logger.isDisabled := by
    rw [Logger.isDisabled, Logger.isDisabled, hthreshold]
  have heffect : ∀ call site n, Logger.resolveLevel call.level = .ok n →
      (reached.TakesEffect call site ↔
        (logger.isDisabled = false ∧ logger.threshold ≤ n) ∧ call.HasText) := by
    intro call site n hresolve
    rw [takesEffect_iff hlater hresolve, Logger.passes_iff, hsame, hthreshold]
  have hsilent : logger.isDisabled = true → ∀ call site n,
      Logger.resolveLevel call.level = .ok n → ¬ reached.TakesEffect call site := by
    intro hdisabled call site n hresolve
    simp [heffect call site n hresolve, hdisabled]
  have hheard : logger.isDisabled = false → ∃ call site, call.level = .int logger.threshold ∧
      Logger.resolveLevel call.level = .ok logger.threshold ∧ reached.TakesEffect call site := by
    intro hdisabled
    rw [← hthreshold]
    exact exists_takesEffect (hreachable.final steps) hlater (hsame.trans hdisabled)
  refine ⟨⟨later, hlater, hsame, hthreshold⟩, ⟨hsilent, fun hnone => ?_⟩,
    fun hshort => ⟨fun hdisabled call site n hresolve _ => hsilent hdisabled call site n hresolve,
      fun hnone => ?_⟩, fun hdisabled call site n hresolve => ⟨fun htext => ?_, fun htext => ?_⟩⟩
  · by_contra hnot
    obtain ⟨call, site, -, hresolve, htakes⟩ := hheard (by simpa using hnot)
    exact hnone call site _ hresolve htakes
  · by_contra hnot
    obtain ⟨call, site, hlevel, hresolve, htakes⟩ := hheard (by simpa using hnot)
    refine hnone call site _ hresolve ?_ htakes
    rw [hlevel]
    rintro n ⟨⟩
    exact hshort
  · simp [heffect call site n hresolve, hdisabled, htext]
  · simp [heffect call site n hresolve, htext]

/-- A disabled logger and a call above the level that disables, a threshold above this level and a
call at the decimal text of it, and a call at that threshold. -/
theorem disabled_iff_without_effect_around_off :
    let configured (level : Value) : Session :=
      (({} : Session).step (.configure none [("level", level)])).1
    let site : CallSite := { file := "d.py", function := .text "f", line := .int 1 }
    let call (level : Value) : Logger.Call := .print (.text "a") level
    let above : Value := .int 9223372036854775808
    ¬ (configured (.text "OFF")).TakesEffect (call above) site ∧
      ¬ (configured above).TakesEffect (call (.text "9223372036854775807")) site ∧
      (configured above).TakesEffect (call above) site := by
  intro configured site call above
  have hreachable : ∀ level, (configured level).Reachable :=
    fun level => .step (.start rfl ProcessGate.unconfigured_none) _
  have htext : ∀ level, (call level).HasText := by
    rintro level ⟨⟩
  obtain ⟨silent, hsilent, hoff⟩ : ∃ logger, (configured (.text "OFF")).logger = .ok logger ∧
      logger.isDisabled = true := ⟨_, rfl, rfl⟩
  have hbuilt : (configured above).logger.toOption.map (fun logger =>
      (logger.isDisabled, logger.threshold)) = some (false, 9223372036854775808) := by
    decide +kernel
  obtain ⟨logger, hlogger, hdisabled, hthreshold⟩ : ∃ logger,
      (configured above).logger = .ok logger ∧ logger.isDisabled = false ∧
        logger.threshold = 9223372036854775808 := by
    rcases hlogger : (configured above).logger with fault | logger
    · simp [hlogger, Except.toOption] at hbuilt
    · simp only [hlogger, Except.toOption, Option.map_some, Option.some.injEq,
        Prod.mk.injEq] at hbuilt
      exact ⟨logger, rfl, hbuilt⟩
  have hnone := (disabled_iff_without_effect (hreachable _) hsilent []).2.1.mp hoff
  have hsome := (disabled_iff_without_effect (hreachable _) hlogger []).2.2.2 hdisabled
  refine ⟨hnone (call above) site 9223372036854775808 rfl, ?_, ?_⟩
  · have hiff := (hsome (call (.text "9223372036854775807")) site 9223372036854775807 rfl).1
      (htext _)
    rw [hthreshold] at hiff
    exact fun htakes => absurd (hiff.mp htakes) (by decide)
  · have hiff := (hsome (call above) site 9223372036854775808 rfl).1 (htext _)
    rw [hthreshold] at hiff
    exact hiff.mpr (le_refl _)

end Session

end TraceLog
