import Mathlib.Data.List.Forall2
import TraceLog.Logger

/-!
# A Record Is Rendered or Reported

`Layout.formatReporting` never fails: a record has a line, or an empty text and one report. What
decides is said of the single fields and of the time alone. `Layout.Renders` is the line that their
texts make, and `Layout.Fails` is the fault that is reported: that of the leftmost field without a
text, or of the time when all fields have theirs. Each record is on exactly one side, and at most
one fault is its own (`Layout.Fails.unique`).

## Main results

* `Layout.format_eq_ok_iff`, `Layout.format_eq_error_iff`: formatting against the two relations.
* `Layout.clock_format_of_read`, `Layout.clock_format_of_unread`: when the clock is read.
* `Layout.rendered_or_reported`: what is returned, what is reported, and what is read.
* `Sink.give_of_record`: where a logger reports its records so.
-/

namespace TraceLog

namespace Layout

/-! ### Fields and the time -/

/-- What becomes of a selected field: its text, or the fault that keeps it from having one. -/
def fieldOutcome (record : Record) (selector : String × Accessor) : Except Fault String :=
  selector.2 record >>= Value.plainText

/-- What becomes of the time in front of a line. -/
def timeOutcome (layout : Layout) : Option Clock → Except Fault String
  | none => .error (.noAttribute "NoneType" "now")
  | some clock => clock.read.1 >>= layout.renderTime

/-- The selected fields of a record have these texts, in order. -/
def Shows (layout : Layout) (record : Record) (fields : List String) : Prop :=
  List.Forall₂ (fun selector text => fieldOutcome record selector = .ok text)
    layout.spec.selectors fields

/-- Every selected field of a record has a text. -/
def ShowsAll (layout : Layout) (record : Record) : Prop :=
  ∀ selector ∈ layout.spec.selectors, ∃ text, fieldOutcome record selector = .ok text

/-- Every selected field of a record has a text, and so has the time if it is asked for. -/
structure CanRender (layout : Layout) (record : Record) (clock : Option Clock) : Prop where
  fields : layout.ShowsAll record
  time : layout.clockPrefix = true → ∃ time, layout.timeOutcome clock = .ok time

/-- A line that the texts of the fields and of the time make. -/
inductive Renders (layout : Layout) (record : Record) (clock : Option Clock) : String → Prop where
  | plain {fields : List String} (hstamp : layout.clockPrefix = false)
      (hfields : layout.Shows record fields) :
      layout.Renders record clock (String.intercalate "\t" fields ++ "\n")
  | stamped {fields : List String} {time : String} (hstamp : layout.clockPrefix = true)
      (hfields : layout.Shows record fields) (htime : layout.timeOutcome clock = .ok time) :
      layout.Renders record clock (time ++ "\t" ++ String.intercalate "\t" fields ++ "\n")

/-- A fault that keeps a record from having a line: that of the leftmost field without a text, or,
when all fields have one, that of the time. -/
inductive Fails (layout : Layout) (record : Record) (clock : Option Clock) :
    FormattingFault → Prop where
  | field {front back : List (String × Accessor)} {name : String} {accessor : Accessor}
      {cause : Fault} (hselectors : layout.spec.selectors = front ++ (name, accessor) :: back)
      (hfront : ∀ selector ∈ front, ∃ text, fieldOutcome record selector = .ok text)
      (hfield : fieldOutcome record (name, accessor) = .error cause) :
      layout.Fails record clock ⟨name, cause.title ++ ": " ++ cause.message⟩
  | clock {cause : Fault} (hstamp : layout.clockPrefix = true) (hfields : layout.ShowsAll record)
      (htime : layout.timeOutcome clock = .error cause) :
      layout.Fails record clock ⟨"clock", cause.title ++ ": " ++ cause.message⟩

section Formatting

variable {layout : Layout} {record : Record} {clock : Option Clock} {line : String}
  {fields : List String} {selectors : List (String × Accessor)} {fault : FormattingFault}

/-- A field with a text stands in front of the others. -/
theorem fieldTexts_cons_of_ok {selector : String × Accessor} {text : String}
    (h : fieldOutcome record selector = .ok text) (selectors : List (String × Accessor)) :
    fieldTexts record (selector :: selectors) = (fieldTexts record selectors).map (text :: ·) := by
  have hfield : fieldText record selector.1 selector.2 = .ok text := by
    rw [fieldOutcome] at h
    simp only [fieldText, h]
  rw [fieldTexts, hfield]
  rcases fieldTexts record selectors with fault | rest
  · rfl
  · rfl

/-- A field without a text keeps the record from having a line. -/
theorem fieldTexts_cons_of_error {name : String} {accessor : Accessor} {cause : Fault}
    (h : fieldOutcome record (name, accessor) = .error cause)
    (selectors : List (String × Accessor)) :
    fieldTexts record ((name, accessor) :: selectors) =
      .error ⟨name, cause.title ++ ": " ++ cause.message⟩ := by
  have hfield : fieldText record name accessor =
      .error ⟨name, cause.title ++ ": " ++ cause.message⟩ := by
    rw [fieldOutcome] at h
    simp only [fieldText, h]
    rfl
  rw [fieldTexts, hfield]
  rfl

/-- The texts of the fields are put together in order. -/
theorem fieldTexts_of_forall₂
    (h : List.Forall₂ (fun selector text => fieldOutcome record selector = .ok text)
      selectors fields) : fieldTexts record selectors = .ok fields := by
  induction h with
  | nil => rfl
  | cons hfield _ ih => rw [fieldTexts_cons_of_ok hfield, ih, Except.map]

/-- The leftmost field without a text is the one that is blamed. -/
theorem fieldTexts_of_leftmost {front : List (String × Accessor)} {name : String}
    {accessor : Accessor} {cause : Fault}
    (hfront : ∀ selector ∈ front, ∃ text, fieldOutcome record selector = .ok text)
    (hfield : fieldOutcome record (name, accessor) = .error cause)
    (back : List (String × Accessor)) :
    fieldTexts record (front ++ (name, accessor) :: back) =
      .error ⟨name, cause.title ++ ": " ++ cause.message⟩ := by
  induction front with
  | nil => exact fieldTexts_cons_of_error hfield back
  | cons first front ih =>
      obtain ⟨⟨text, hfirst⟩, hrest⟩ := List.forall_mem_cons.mp hfront
      rw [List.cons_append, fieldTexts_cons_of_ok hfirst, ih hrest, Except.map]

/-- Either all fields have texts, or there is a leftmost one that has none. -/
theorem shown_or_leftmost (record : Record) (selectors : List (String × Accessor)) :
    ((∀ selector ∈ selectors, ∃ text, fieldOutcome record selector = .ok text) ∧
        ∃ fields, List.Forall₂ (fun selector text => fieldOutcome record selector = .ok text)
          selectors fields) ∨
      ∃ front name accessor back cause, selectors = front ++ (name, accessor) :: back ∧
        (∀ selector ∈ front, ∃ text, fieldOutcome record selector = .ok text) ∧
        fieldOutcome record (name, accessor) = .error cause := by
  induction selectors with
  | nil => exact .inl ⟨by simp, [], .nil⟩
  | cons selector selectors ih =>
      rcases hfield : fieldOutcome record selector with cause | text
      · exact .inr ⟨[], selector.1, selector.2, selectors, cause, rfl, by simp, hfield⟩
      · rcases ih with
          ⟨hall, fields, hfields⟩ | ⟨front, name, accessor, back, cause, rfl, hfront, hat⟩
        · exact .inl ⟨List.forall_mem_cons.mpr ⟨⟨text, hfield⟩, hall⟩, text :: fields,
            .cons hfield hfields⟩
        · exact .inr ⟨selector :: front, name, accessor, back, cause, rfl,
            List.forall_mem_cons.mpr ⟨⟨text, hfield⟩, hfront⟩, hat⟩

/-- Not all fields have a text when one has none. -/
theorem not_showsAll {front back : List (String × Accessor)} {selector : String × Accessor}
    {cause : Fault} (hselectors : layout.spec.selectors = front ++ selector :: back)
    (hfield : fieldOutcome record selector = .error cause) : ¬ layout.ShowsAll record := by
  intro hall
  obtain ⟨text, htext⟩ := hall selector (hselectors ▸ by simp)
  simp [hfield] at htext

/-- Fields that all have a text have a list of texts. -/
theorem ShowsAll.exists_shows (h : layout.ShowsAll record) :
    ∃ fields, layout.Shows record fields := by
  rcases shown_or_leftmost record layout.spec.selectors with
    ⟨-, fields, hshown⟩ | ⟨front, name, accessor, back, cause, hselectors, -, hfield⟩
  · exact ⟨fields, hshown⟩
  · exact absurd h (not_showsAll hselectors hfield)

/-! ### Lines -/

/-- What the time is shown as, and the clock once it was read. -/
theorem clockText_eq (layout : Layout) (clock : Option Clock) :
    layout.clockText clock =
      ((layout.timeOutcome clock).mapError fun cause =>
        ⟨"clock", cause.title ++ ": " ++ cause.message⟩, clock.map fun clock => clock.read.2) := by
  rcases clock with - | clock
  · rfl
  · simp only [clockText, timeOutcome, Option.map_some]
    rcases clock.read.1 >>= layout.renderTime with cause | time
    · rfl
    · rfl

/-- **A record whose texts make a line has this line.** -/
theorem format_of_renders (h : layout.Renders record clock line) :
    (layout.format record clock).1 = .ok line := by
  cases h with
  | plain hstamp hfields =>
      simp only [format, fieldTexts_of_forall₂ hfields, hstamp, joinFields, Bool.false_eq_true,
        if_false]
  | stamped hstamp hfields htime =>
      simp only [format, fieldTexts_of_forall₂ hfields, hstamp, clockText_eq, htime, joinFields,
        Except.mapError, if_true]

/-- **A record that a fault keeps from having a line has this fault.** -/
theorem format_of_fails (h : layout.Fails record clock fault) :
    (layout.format record clock).1 = .error fault := by
  cases h with
  | field hselectors hfront hfield =>
      simp only [format, hselectors, fieldTexts_of_leftmost hfront hfield]
  | clock hstamp hfields htime =>
      obtain ⟨fields, hshown⟩ := hfields.exists_shows
      simp only [format, fieldTexts_of_forall₂ hshown, hstamp, clockText_eq, htime,
        Except.mapError, if_true]

/-- A fault of a record is the only one. -/
theorem Fails.unique {fault' : FormattingFault} (h : layout.Fails record clock fault)
    (h' : layout.Fails record clock fault') : fault = fault' :=
  Except.error.inj ((format_of_fails h).symm.trans (format_of_fails h'))

/-- What can be rendered makes a line, and what cannot has a fault. -/
theorem renders_or_fails (layout : Layout) (record : Record) (clock : Option Clock) :
    (layout.CanRender record clock ∧ ∃ line, layout.Renders record clock line) ∨
      ¬ layout.CanRender record clock ∧ ∃ fault, layout.Fails record clock fault := by
  rcases shown_or_leftmost record layout.spec.selectors with
    ⟨hall, fields, hshown⟩ | ⟨front, name, accessor, back, cause, hselectors, hfront, hfield⟩
  · rcases hstamp : layout.clockPrefix with - | -
    · exact .inl ⟨⟨hall, by simp [hstamp]⟩, _, .plain hstamp hshown⟩
    · rcases htime : layout.timeOutcome clock with cause | time
      · refine .inr ⟨fun hcan => ?_, _, .clock hstamp hall htime⟩
        obtain ⟨time, hshows⟩ := hcan.time hstamp
        simp [htime] at hshows
      · exact .inl ⟨⟨hall, fun _ => ⟨time, htime⟩⟩, _, .stamped hstamp hshown htime⟩
  · exact .inr ⟨fun hcan => not_showsAll hselectors hfield hcan.fields, _,
      .field hselectors hfront hfield⟩

/-- The clock is blamed exactly when all fields have texts, unless a field is called so. -/
theorem Fails.selector_eq_clock_iff (h : layout.Fails record clock fault)
    (hnames : ∀ selector ∈ layout.spec.selectors, selector.1 ≠ "clock") :
    fault.selector = "clock" ↔ layout.ShowsAll record := by
  cases h with
  | @field front back name accessor cause hselectors hfront hfield =>
      have hmem : (name, accessor) ∈ layout.spec.selectors := hselectors ▸ by simp
      exact iff_of_false (hnames _ hmem) (not_showsAll hselectors hfield)
  | clock hstamp hfields htime => exact iff_of_true rfl hfields

/-- The clock is read once when the time is asked for and all fields have texts. -/
theorem clock_format_of_read (hstamp : layout.clockPrefix = true)
    (hall : layout.ShowsAll record) (clock : Option Clock) :
    (layout.format record clock).2 = clock.map fun clock => clock.read.2 := by
  obtain ⟨fields, hshown⟩ := hall.exists_shows
  simp only [format, fieldTexts_of_forall₂ hshown, hstamp, clockText_eq, if_true]
  rcases layout.timeOutcome clock with cause | time
  · rfl
  · rfl

/-- The clock is not read when no time is asked for, or when a field has no text. -/
theorem clock_format_of_unread
    (h : ¬ (layout.clockPrefix = true ∧ layout.ShowsAll record)) (clock : Option Clock) :
    (layout.format record clock).2 = clock := by
  rcases shown_or_leftmost record layout.spec.selectors with
    ⟨hall, fields, hshown⟩ | ⟨front, name, accessor, back, cause, hselectors, hfront, hfield⟩
  · have hstamp : layout.clockPrefix = false := by simpa using fun hstamp => h ⟨hstamp, hall⟩
    simp only [format, fieldTexts_of_forall₂ hshown, hstamp, Bool.false_eq_true, if_false]
  · simp only [format, hselectors, fieldTexts_of_leftmost hfront hfield]

end Formatting

/-! ### Reports -/

section Reports

variable {σ : Type} (layout : Layout) (report : FormattingFault → Record → σ → σ)
  (record : Record) (clock : Option Clock) (told : σ)

/-- Reporting returns the line or the empty text, and reports the fault or nothing. -/
theorem formatReporting_eq :
    layout.formatReporting report record clock told =
      match (layout.format record clock).1 with
      | .ok line => (line, (layout.format record clock).2, told)
      | .error fault => ("", (layout.format record clock).2, report fault record told) := by
  rcases hformat : layout.format record clock with ⟨fault | line, next⟩
  · simp only [formatReporting, hformat]
  · simp only [formatReporting, hformat]

/-- **A record is rendered or reported.** Take any fields, any record, any clock, any way of
showing the time, and anyone who is told of faults.

* When every field has a text, and so has the time if it is asked for, the line of these texts is
  returned, and nothing is reported.
* Otherwise the empty text is returned, and one report is made, with this record and the fault of
  the leftmost field without a text, or of the time when all fields have one. Its selector is
  `clock` exactly then, unless a field is called so.
* The clock is read once when the time is asked for and all fields have texts, and not at all
  otherwise. -/
theorem rendered_or_reported :
    let outcome := layout.formatReporting report record clock told
    (layout.CanRender record clock →
      ∃ line, layout.Renders record clock line ∧ outcome.1 = line ∧ outcome.2.2 = told) ∧
    (¬ layout.CanRender record clock →
      ∃ fault, layout.Fails record clock fault ∧ outcome.1 = "" ∧
        outcome.2.2 = report fault record told ∧
        ((∀ selector ∈ layout.spec.selectors, selector.1 ≠ "clock") →
          (fault.selector = "clock" ↔ layout.ShowsAll record))) ∧
    (layout.clockPrefix = true ∧ layout.ShowsAll record →
      outcome.2.1 = clock.map fun clock => ⟨clock.source.next.2, clock.readings + 1⟩) ∧
    (¬ (layout.clockPrefix = true ∧ layout.ShowsAll record) → outcome.2.1 = clock) := by
  intro outcome
  have houtcome : outcome = _ := layout.formatReporting_eq report record clock told
  have hclock : outcome.2.1 = (layout.format record clock).2 := by
    rw [houtcome]
    split
    · rfl
    · rfl
  refine ⟨fun hcan => ?_, fun hcannot => ?_, fun ⟨hstamp, hall⟩ => ?_, fun hunread => ?_⟩
  · obtain ⟨-, line, hrenders⟩ :=
      (layout.renders_or_fails record clock).resolve_right fun h => h.1 hcan
    rw [format_of_renders hrenders] at houtcome
    exact ⟨line, hrenders, by rw [houtcome], by rw [houtcome]⟩
  · obtain ⟨-, fault, hfails⟩ :=
      (layout.renders_or_fails record clock).resolve_left fun h => hcannot h.1
    rw [format_of_fails hfails] at houtcome
    exact ⟨fault, hfails, by rw [houtcome], by rw [houtcome], hfails.selector_eq_clock_iff⟩
  · rw [hclock, clock_format_of_read hstamp hall]
    rfl
  · rw [hclock, clock_format_of_unread hunread]

end Reports

end Layout

/-- A logger that notes failures reports its records so, once for each sink. -/
theorem Sink.give_of_record {logger : Logger} (hpolicy : logger.policy = .record)
    (platform : Platform) (record : Record) (sink : Sink) (scene : Scene) :
    sink.give platform logger record scene =
      let (line, clock, scene) := logger.layout.formatReporting
        (fun fault _ scene => scene.noteFailure fault) record (scene.clockFor logger.clock) scene
      raising (writeThrough platform.lineEnd record line sink
        (scene.setClockFor logger.clock clock)) := by
  rcases hformat : logger.layout.format record (scene.clockFor logger.clock) with
    ⟨fault | line, clock⟩
  · have hset : (scene.setClockFor logger.clock clock).noteFailure fault =
        (scene.noteFailure fault).setClockFor logger.clock clock := by
      cases logger.clock with
      | own => rfl
      | value v => rfl
    simp only [Sink.give, Layout.formatReporting, hformat, hpolicy, hset]
  · simp only [Sink.give, Layout.formatReporting, hformat, hpolicy]

end TraceLog
