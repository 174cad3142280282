import TraceLog.Proofs.Agreement

/-!
# Steady Clocks

A clock is steady when it does not change during a call. It may change between calls, and reading it
may be what changes it: that it does not change during a call is said of the readings which the call
makes, one for each sink (`Logger.Steady`). They all show the same time, or all fail alike.

## Main results

* `Logger.results_of_steady`: a steady clock gives all sinks of a record the same result.
* `Session.steady_of_standsStill`: a clock that stands still is steady.
-/

namespace TraceLog

/-! ### Records -/

namespace Logger

variable {logger : Logger} {record : Record} {n : Nat} {own : Option Clock}

/-- The clock is read for a record: lines start with the time, and all fields are known. -/
def ReadsClock (logger : Logger) (record : Record) : Prop :=
  logger.layout.clockPrefix = true ∧
    ∃ fields, Layout.fieldTexts record logger.layout.spec.selectors = .ok fields

/-- The clock does not change while it is read for a number of sinks. A record that it is not read
for leaves it as it is. -/
def Steady (logger : Logger) (record : Record) (n : Nat) (own : Option Clock) : Prop :=
  logger.ReadsClock record → ∃ time, logger.stamps n own = List.replicate n time

/-- A record that the clock is not read for is formatted to the same every time. -/
theorem formatted_of_not_readsClock (h : ¬ logger.ReadsClock record) (own : Option Clock) :
    logger.formatted record own = ((logger.formatted record none).1, own) := by
  have hleaves : ∀ after, after = logger.clock.reads own → logger.clock.leaves own after = own := by
    rintro after rfl
    rcases logger.clock with - | v
    · rfl
    · rfl
  simp only [formatted, Layout.format]
  rcases hfields : Layout.fieldTexts record logger.layout.spec.selectors with fault | fields
  · rw [hleaves _ rfl]
  · rcases hstamp : logger.layout.clockPrefix with - | -
    · simp only [Bool.false_eq_true, if_false]
      rw [hleaves _ rfl]
    · exact absurd ⟨hstamp, fields, hfields⟩ h

/-- **Beside a clock that does not change during a call**, all results of a record are the same. -/
theorem results_of_steady (h : logger.Steady record n own) :
    ∃ result, logger.results record n own = List.replicate n result := by
  by_cases hreads : logger.ReadsClock record
  · obtain ⟨time, htimes⟩ := h hreads
    obtain ⟨hstamp, fields, hfields⟩ := hreads
    refine ⟨time.map fun time => time ++ "\t" ++ Layout.joinFields fields ++ "\n", ?_⟩
    rw [results_of_fields hfields hstamp, htimes, List.map_replicate]
  · refine ⟨(logger.formatted record none).1, ?_⟩
    clear h
    induction n with
    | zero => rfl
    | succ n ih =>
        rw [results, formatted_of_not_readsClock hreads, ih, List.replicate_succ]

end Logger

/-! ### Sessions -/

namespace Session

variable {session : Session}

/-- The clock does not change during a step: not while it is read for the record of a call. -/
def Steady (session : Session) : Step → Prop
  | .log call site => ∀ logger record, session.logger = .ok logger →
    logger.draft call site = .made record →
    logger.Steady record logger.sinks.length session.scene.clock
  | _ => True

/-- The clock does not change during any step of a run. It may change in between. -/
def SteadyAlong (session : Session) : List Step → Prop
  | [] => True
  | step :: steps => session.Steady step ∧
    ((session.step step).2.goesOn = true → (session.step step).1.SteadyAlong steps)

/-- A clock whose readings for the sinks of the logger are all the same does not change during a
call. -/
theorem steady_log {time : Except FormattingFault String} {n : Nat}
    (h : session.logger.toOption.map (fun logger =>
      (logger.sinks.length, logger.stamps logger.sinks.length session.scene.clock)) =
        some (n, List.replicate n time)) (call : Logger.Call) (site : CallSite) :
    session.Steady (.log call site) := by
  intro logger record hlogger _ _
  rw [hlogger] at h
  simp only [Except.toOption, Option.map_some, Option.some.injEq, Prod.mk.injEq] at h
  obtain ⟨rfl, hstamps⟩ := h
  exact ⟨time, hstamps⟩

/-- A clock that stands still does not change during a step. -/
theorem steady_of_standsStill (h : StandsStill session.scene.clock) (step : Step) :
    session.Steady step := by
  cases step with
  | log call site =>
      intro logger record _ _ _
      exact ⟨_, logger.stamps_of_standsStill _ h⟩
  | _ => trivial

end Session

end TraceLog
