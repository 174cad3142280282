import TraceLog.Proofs.Handover

/-!
# Clocks That Stand Still

A clock stands still when reading it does not change what it shows. Beside such a clock a record is
formatted to the same for every sink, so that all sinks are handed one text, or none
(`FailurePolicy.handed_replicate`), and the clock shows the same afterwards.

Two clocks that show the same are told apart by the number of their readings alone.

## Main results

* `Logger.results_of_standsStill`: what a record is formatted to.
* `FailurePolicy.handed_replicate`: what sinks are handed of one result.
* `sameTime_deliver`: the clock after a record was given to sinks.
* `deliver_of_standsStill`: records that are handed to all sinks alike.
-/

namespace TraceLog

open Number

/-- A clock stands still when it shows the same after it was read. -/
def Clock.StandsStill (clock : Clock) : Prop :=
  clock.source.next.2 = clock.source

/-- Two clocks show the same, now and later; they may have been read more or less often. -/
def SameTime (clock clock' : Option Clock) : Prop :=
  clock.map Clock.source = clock'.map Clock.source

/-- A clock shows the same time as itself. -/
theorem SameTime.refl (clock : Option Clock) : SameTime clock clock := rfl

/-- Showing the same time goes both ways. -/
theorem SameTime.symm {clock clock' : Option Clock} (h : SameTime clock clock') :
    SameTime clock' clock :=
  Eq.symm h

/-- Showing the same time is passed on. -/
theorem SameTime.trans {clock clock' clock'' : Option Clock} (h : SameTime clock clock')
    (h' : SameTime clock' clock'') : SameTime clock clock'' :=
  Eq.trans h h'

/-- Clocks that show the same are shown alike, and show the same afterwards. -/
theorem clockText_of_sameTime (layout : Layout) {clock clock' : Option Clock}
    (h : SameTime clock clock') :
    (layout.clockText clock).1 = (layout.clockText clock').1 ∧
      SameTime (layout.clockText clock).2 (layout.clockText clock').2 := by
  rcases clock with - | ⟨source, readings⟩
  · rcases clock' with - | ⟨source', readings'⟩
    · exact ⟨rfl, rfl⟩
    · simp [SameTime] at h
  · rcases clock' with - | ⟨source', readings'⟩
    · simp [SameTime] at h
    · obtain rfl : source = source' := Option.some.inj h
      simp only [Layout.clockText, Clock.read]
      rcases source.next.1 >>= layout.renderTime with fault | time
      · exact ⟨rfl, rfl⟩
      · exact ⟨rfl, rfl⟩

/-- A clock that stands still shows the same after it was shown. -/
theorem sameTime_clockText (layout : Layout) {clock : Option Clock}
    (h : ∀ given ∈ clock, given.StandsStill) : SameTime (layout.clockText clock).2 clock := by
  rcases clock with - | clock
  · rfl
  · have hstands : clock.read.2.source = clock.source := h clock rfl
    simp only [Layout.clockText]
    rcases clock.read.1 >>= layout.renderTime with fault | time
    · exact congrArg some hstands
    · exact congrArg some hstands

/-- Lines are made alike beside clocks that show the same, and the clocks show the same
afterwards. -/
theorem format_of_sameTime (layout : Layout) (record : Record) {clock clock' : Option Clock}
    (h : SameTime clock clock') :
    (layout.format record clock).1 = (layout.format record clock').1 ∧
      SameTime (layout.format record clock).2 (layout.format record clock').2 := by
  have htext := clockText_of_sameTime layout h
  simp only [Layout.format]
  rcases Layout.fieldTexts record layout.spec.selectors with fault | fields
  · exact ⟨rfl, h⟩
  rcases layout.clockPrefix with - | -
  · exact ⟨rfl, h⟩
  rcases hclock : layout.clockText clock with ⟨time, after⟩
  rcases hclock' : layout.clockText clock' with ⟨time', after'⟩
  rw [hclock, hclock'] at htext
  obtain ⟨rfl, hafter⟩ := htext
  rcases time with fault | time
  · exact ⟨rfl, hafter⟩
  · exact ⟨rfl, hafter⟩

/-- A clock that stands still shows the same after a line was made. -/
theorem sameTime_format (layout : Layout) (record : Record) {clock : Option Clock}
    (h : ∀ given ∈ clock, given.StandsStill) :
    SameTime (layout.format record clock).2 clock := by
  have htext := sameTime_clockText layout h
  simp only [Layout.format]
  rcases Layout.fieldTexts record layout.spec.selectors with fault | fields
  · rfl
  rcases layout.clockPrefix with - | -
  · rfl
  rcases hclock : layout.clockText clock with ⟨time, after⟩
  rw [hclock] at htext
  rcases time with fault | time
  · exact htext
  · exact htext

/-- The clocks of a host stand still, if there are any. -/
def StandsStill (own : Option Clock) : Prop :=
  ∀ clock ∈ own, clock.StandsStill

/-- A clock stands still if one does that shows the same time. -/
theorem SameTime.standsStill {own own' : Option Clock} (h : SameTime own own')
    (hstands : StandsStill own) : StandsStill own' := by
  rcases own with - | clock
  · rcases own' with - | clock'
    · exact hstands
    · simp [SameTime] at h
  · rcases own' with - | clock'
    · simp [SameTime] at h
    · obtain hsource : clock.source = clock'.source := Option.some.inj h
      rintro given ⟨⟩
      rw [Clock.StandsStill, ← hsource]
      exact hstands clock rfl

namespace Logger

/-- Clocks that show the same time give the same lines. -/
theorem formatted_of_sameTime (logger : Logger) (record : Record) {own own' : Option Clock}
    (h : SameTime own own') :
    (logger.formatted record own).1 = (logger.formatted record own').1 ∧
      SameTime (logger.formatted record own).2 (logger.formatted record own').2 := by
  rcases hgiven : logger.clock with - | v
  · simp only [formatted, hgiven]
    exact format_of_sameTime logger.layout record h
  · simp only [formatted, hgiven]
    exact ⟨rfl, h⟩

/-- A clock that stands still shows the same time behind a line. -/
theorem sameTime_formatted (logger : Logger) (record : Record) {own : Option Clock}
    (h : StandsStill own) : SameTime (logger.formatted record own).2 own := by
  rcases hgiven : logger.clock with - | v
  · simp only [formatted, hgiven]
    exact sameTime_format logger.layout record h
  · simp only [formatted, hgiven]
    exact .refl own

/-- Beside a clock that stands still, a record is formatted to the same every time. -/
theorem results_of_standsStill (logger : Logger) (record : Record) (n : Nat) {own : Option Clock}
    (h : StandsStill own) :
    logger.results record n own = List.replicate n (logger.formatted record own).1 := by
  have hall : ∀ own', SameTime own' own →
      logger.results record n own' = List.replicate n (logger.formatted record own).1 := by
    induction n with
    | zero => exact fun _ _ => rfl
    | succ n ih =>
        intro own' hsame
        have hstands := SameTime.standsStill hsame.symm h
        rw [results, List.replicate_succ, (logger.formatted_of_sameTime record hsame).1]
        exact congrArg _ (ih _ ((logger.sameTime_formatted record hstands).trans hsame))
  exact hall own (.refl own)

end Logger

namespace FailurePolicy

variable {policy : FailurePolicy} {ends : FormattingFault → Bool}

/-- One result for all sinks is handed to all of them as one text, or to none. -/
theorem handed_replicate (policy : FailurePolicy) (ends : FormattingFault → Bool)
    (sinks : List Sink) {n : Nat} (hn : sinks.length ≤ n)
    (result : Except FormattingFault String) :
    policy.handed ends sinks (List.replicate n result) =
      (policy.line? result).elim [] fun line => sinks.map (·, line) := by
  induction sinks generalizing n with
  | nil =>
      rcases policy.line? result with - | line
      · rfl
      · rfl
  | cons sink sinks ih =>
      obtain ⟨n, rfl⟩ := Nat.exists_eq_add_of_lt hn
      have hrest := ih (n := sinks.length + n) (Nat.le_add_right _ _)
      rw [List.replicate_succ]
      rcases hline : policy.line? result with - | line
      · rcases hend : policy.end? ends result with - | fault
        · rw [handed_cons_of_none hend hline, hrest, hline]
          rfl
        · exact handed_cons_of_end hend sink sinks _
      · rw [handed_cons_of_line hline, hrest, hline]
        rfl

/-- One result for all sinks ends the process if it does so for one sink. -/
theorem ends?_replicate (policy : FailurePolicy) (ends : FormattingFault → Bool) {n : Nat}
    (hn : n ≠ 0) (result : Except FormattingFault String) :
    policy.ends? ends (List.replicate n result) = policy.end? ends result := by
  induction n with
  | zero => exact absurd rfl hn
  | succ n ih =>
      rw [List.replicate_succ]
      rcases hend : policy.end? ends result with - | fault
      · rw [ends?_cons_of_none hend]
        rcases Nat.eq_zero_or_pos n with rfl | hpos
        · rfl
        · rw [ih hpos.ne', hend]
      · exact ends?_cons_of_end hend _

end FailurePolicy

/-- A clock that stands still shows the same after a record was given to sinks. -/
theorem sameTime_deliver (platform : Platform) (logger : Logger) (record : Record)
    (sinks : List Sink) {scene : Scene} (h : StandsStill scene.clock) :
    SameTime (deliver platform logger record sinks scene).1.clock scene.clock := by
  induction sinks generalizing scene with
  | nil => rfl
  | cons sink sinks ih =>
      have hsame := logger.sameTime_formatted record h
      have hclock := (sink.gives_give platform logger record scene).2
      rcases hgiven : sink.give platform logger record scene with ⟨next, - | ending⟩
      · rw [hgiven] at hclock
        rw [← hclock] at hsame
        simp only [deliver, hgiven]
        exact (ih (hsame.symm.standsStill h)).trans hsame
      · rw [hgiven] at hclock
        simp only [deliver, hgiven]
        rwa [← hclock] at hsame

/-- A record that is given to sinks beside a clock that stands still is handed to all of them as
one text, or to none. -/
theorem deliver_of_standsStill (platform : Platform) (logger : Logger) (record : Record)
    (sinks : List Sink) {scene : Scene} (hstands : StandsStill scene.clock)
    (hquiet : scene.outlets.Hears ∨
      ∀ fault, (deliver platform logger record sinks scene).2 ≠ .raised fault) :
    let result := (logger.formatted record scene.clock).1
    HandsOver platform.lineEnd
      ((logger.policy.line? result).elim [] fun line => sinks.map (·, line))
      (logger.policy.ends? (scene.outlets.takesEnd record.frames)
        (List.replicate sinks.length result)) scene.outlets
      (deliver platform logger record sinks scene) := by
  intro result
  have hdelivered := deliver_eq platform logger record sinks scene hquiet
  simp only [logger.results_of_standsStill record _ hstands,
    FailurePolicy.handed_replicate _ _ sinks le_rfl] at hdelivered
  exact hdelivered

end TraceLog
