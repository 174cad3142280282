import TraceLog.Logger
import TraceLog.Proofs.Attempt

/-!
# The Line of a Call

What a logging call writes is settled by the logger's format, the number of the record, the
level, the message and the call site with its moment, and by the clock's time when lines start with
it. `Logger.shownFields` lists the texts of all fields that a format may select, and `Logger.lineAt`
puts the selected ones together; neither mentions records or accessors. This module proves
that the layout of a logger makes exactly this line out of the record of a call.

The time of day is shown in whole milliseconds. A thousand of it is rounded once, and is finite
since no time of day is far away (`Moment.mul_created`).

## Main results

* `Moment.milliseconds_of_created`: the milliseconds of a call's time of day.
* `FormatSpec.find?_of_parse`: the accessors of a format are those of its table.
* `Logger.fieldTexts_recordFor`: the texts of the selected fields of a call's record.
* `Logger.format_of_not_clockPrefix`, `Logger.format_of_clockPrefix`: the line of a call's
  record.
-/

namespace TraceLog

open Number

/-! ### Values with texts -/

/-- A value whose text is known is written as this text. -/
theorem Value.plainText_of_text? {v : Value} {s : String} (h : v.text? = some s) :
    v.plainText = .ok s := by
  simp only [plainText, h]

/-- A text is its own. -/
theorem Value.plainText_text (s : String) : (Value.text s).plainText = .ok s := rfl

/-- A short integer has its decimal text. -/
theorem Value.text?_of_isShort {n : Int} (h : Value.IsShort n) :
    (Value.int n).text? = some (toString n) := by
  rw [text?, quoted?, intText?_of_isShort h]
  exact fun s hs => by simp at hs

/-- A short integer is written in decimal. -/
theorem Value.plainText_of_isShort {n : Int} (h : Value.IsShort n) :
    (Value.int n).plainText = .ok (toString n) :=
  plainText_of_text? (text?_of_isShort h)

/-! ### Times of day -/

namespace Number

/-- Rounding a quotient makes it one larger at most. -/
theorem roundDiv_le (num den : Nat) : roundDiv num den ≤ num / den + 1 := by
  simp only [roundDiv]
  split
  · exact Nat.le_succ _
  · split
    · exact le_rfl
    · split
      · exact Nat.le_succ _
      · exact le_rfl

/-- The sign does not count for the magnitude. -/
theorem Binary64.natAbs_signedUnits (negative : Bool) (units : Nat) :
    (signedUnits negative units).natAbs = units := by
  cases negative with
  | false => exact Int.natAbs_natCast units
  | true => exact (Int.natAbs_neg _).trans (Int.natAbs_natCast units)

/-- Rounding to so many binary digits makes a quotient twice as large at most, one in zero
aside. -/
theorem Binary64.roundUnits_le (num den : Nat) :
    roundUnits num den ≤ 2 * (num / den) + 1 := by
  simp only [roundUnits, Nat.pow_eq]
  generalize hdropped : 2 ^ (Nat.log2 (num / den) - 52) = dropped
  have hle : dropped ≤ num / den + 1 := by
    rw [← hdropped]
    by_cases hzero : num / den = 0
    · simp [hzero]
    · calc 2 ^ (Nat.log2 (num / den) - 52)
          ≤ 2 ^ Nat.log2 (num / den) := Nat.pow_le_pow_right (by decide) (Nat.sub_le _ _)
        _ ≤ num / den := Nat.log2_self_le hzero
        _ ≤ num / den + 1 := Nat.le_succ _
  calc roundDiv num (den * dropped) * dropped
      ≤ (num / (den * dropped) + 1) * dropped := Nat.mul_le_mul_right _ (roundDiv_le _ _)
    _ = num / den / dropped * dropped + dropped := by
        rw [← Nat.div_div_eq_div_mul, Nat.add_mul, Nat.one_mul]
    _ ≤ 2 * (num / den) + 1 := by
        have hfloor := Nat.div_mul_le_self (num / den) dropped
        omega

end Number

namespace Moment

/-- The milliseconds of the time of day, the fraction cut off. -/
def millis (moment : Moment) : Int :=
  ((moment.created.mul (.finite false (1000 * Binary64.unitsPerOne))).truncate?).getD 0

/-- **A thousand of the time of day is finite**, and has few digits. -/
theorem mul_created (moment : Moment) :
    ∃ negative units,
      moment.created.mul (.finite false (1000 * Binary64.unitsPerOne)) =
        .finite negative units ∧ units / Binary64.unitsPerOne < 10 ^ 20 := by
  have hrange := moment.inRange
  rcases hcreated : moment.created with - | negative | ⟨negative, units⟩
  · simp [hcreated, Binary64.isWithin] at hrange
  · simp [hcreated, Binary64.isWithin] at hrange
  · simp only [hcreated, Binary64.isWithin, decide_eq_true_eq] at hrange
    have hpositive : 0 < Binary64.unitsPerOne := by decide +kernel
    have hquotient : units * (1000 * Binary64.unitsPerOne) / Binary64.unitsPerOne =
        units * 1000 := by
      rw [← Nat.mul_assoc, Nat.mul_div_cancel _ hpositive]
    have hround := Binary64.roundUnits_le (units * (1000 * Binary64.unitsPerOne))
      Binary64.unitsPerOne
    rw [hquotient] at hround
    have hle : Binary64.roundUnits (units * (1000 * Binary64.unitsPerOne))
        Binary64.unitsPerOne ≤ (2000 * clockRange + 1) * Binary64.unitsPerOne := by
      rw [Nat.add_mul, Nat.mul_assoc]
      omega
    have hlargest : (2000 * clockRange + 1) * Binary64.unitsPerOne ≤ Binary64.largestUnits := by
      decide +kernel
    refine ⟨negative, Binary64.roundUnits (units * (1000 * Binary64.unitsPerOne))
      Binary64.unitsPerOne, ?_, ?_⟩
    · simp only [Binary64.mul, Binary64.ofUnitRatio, Bool.bne_false]
      rw [if_neg (not_lt.mpr (hle.trans hlargest))]
    · calc _ ≤ (2000 * clockRange + 1) * Binary64.unitsPerOne / Binary64.unitsPerOne :=
            Nat.div_le_div_right hle
        _ = 2000 * clockRange + 1 := Nat.mul_div_cancel _ hpositive
        _ < 10 ^ 20 := by decide

/-- The milliseconds of a time of day have few digits. -/
theorem isShort_millis (moment : Moment) : Value.IsShort moment.millis := by
  obtain ⟨negative, units, hmul, hunits⟩ := moment.mul_created
  refine Value.isShort_of_lt ?_
  rw [millis, hmul, Binary64.truncate?, Option.getD_some, Binary64.natAbs_signedUnits]
  exact hunits

/-- The number of a thread is short. -/
theorem isShort_threadNumber (moment : Moment) : Value.IsShort moment.threadNumber :=
  Value.isShort_of_lt (lt_trans moment.thread.toNat_lt (by decide))

/-- So is that of a process. -/
theorem isShort_processNumber (moment : Moment) : Value.IsShort moment.processNumber :=
  Value.isShort_of_lt (lt_trans moment.process.toNat_lt (by decide))

/-- **The milliseconds of a record** that was made at a moment are those of its time of day. -/
theorem milliseconds_of_created {record : Record} {moment : Moment}
    (h : record.created = .real moment.created) :
    record.milliseconds = .ok (.int moment.millis) := by
  obtain ⟨negative, units, hmul, -⟩ := moment.mul_created
  simp only [Record.milliseconds, h, millis, hmul, Binary64.truncate?, Option.getD_some]

end Moment

/-! ### Tables side by side -/

/-- Two tables with the same keys in the same order have their entries under the same keys. -/
theorem Table.find?_of_forall₂ {α β : Type} {R : String → α → β → Prop} {t : Table String α}
    {u : Table String β}
    (h : List.Forall₂ (fun entry entry' => entry.1 = entry'.1 ∧ R entry.1 entry.2 entry'.2) t u)
    {key : String} {a : α} (hfind : t.find? key = some a) :
    ∃ b, u.find? key = some b ∧ R key a b := by
  induction h with
  | nil => simp [Table.find?] at hfind
  | @cons entry entry' t u hentry _ ih =>
      obtain ⟨k, a'⟩ := entry
      obtain ⟨k', b'⟩ := entry'
      obtain ⟨rfl, hR⟩ := hentry
      by_cases hk : k = key
      · subst hk
        rw [Table.find?, if_pos rfl] at hfind
        obtain rfl := Option.some.inj hfind
        exact ⟨b', by rw [Table.find?, if_pos rfl], hR⟩
      · rw [Table.find?, if_neg hk] at hfind
        rw [Table.find?, if_neg hk]
        exact ih hfind

/-! ### Formats -/

namespace FormatSpec

variable {α : Type} {table : Table String α}

/-- The selectors of segments are entries of the table. -/
theorem find?_of_resolve {position : Nat} {segments : List (List Char)}
    {selectors : List (String × α)} (h : resolve table position segments = .ok selectors) :
    ∀ selector ∈ selectors, table.find? selector.1 = some selector.2 := by
  induction segments generalizing position selectors with
  | nil =>
      obtain rfl := Except.ok.inj h
      simp
  | cons segment segments ih =>
      rw [resolve] at h
      split at h
      · simp at h
      · split at h
        · simp at h
        · next accessor hfind =>
          obtain ⟨more, hmore, h⟩ := bind_eq_ok.mp h
          obtain rfl := Except.ok.inj h
          exact List.forall_mem_cons.mpr ⟨hfind, ih hmore⟩

/-- A format that is read gives its selectors in order, and each accessor is the one that the
table has under the name. -/
theorem find?_of_parse {v : Value} {spec : FormatSpec α} (h : parse table v = .ok spec) :
    spec.selectors.map Prod.fst = spec.names ∧
      ∀ selector ∈ spec.selectors, table.find? selector.1 = some selector.2 := by
  cases v with
  | text s =>
      simp only [parse] at h
      split at h
      · next spec' htext =>
        obtain rfl := Except.ok.inj h
        rw [parseText] at htext
        split at htext
        · simp at htext
        · obtain ⟨selectors, hresolve, htext⟩ := bind_eq_ok.mp htext
          obtain rfl := Except.ok.inj htext
          have hselectors : FormatSpec.selectors
              (⟨selectors.map (·.1), selectors.map (·.2)⟩ : FormatSpec α) = selectors := by
            rw [FormatSpec.selectors, ← List.unzip_fst, ← List.unzip_snd, List.zip_unzip]
          rw [hselectors]
          exact ⟨rfl, find?_of_resolve hresolve⟩
      · simp at h
  | _ => simp [parse] at h

end FormatSpec

/-! ### Call sites -/

/-- A call site whose function and line can be written. -/
structure CallSite.Shown (site : CallSite) (function line : String) : Prop where
  function : site.function.text? = some function
  line : site.line.text? = some line

namespace Logger

/-! ### Fields -/

/-- The texts of the fields that a format may select, for the record of a call. -/
def shownFields (logger : Logger) (sequence : Nat) (level : Int) (message : String)
    (site : CallSite) : Table String String :=
  [("level", Level.shown level),
    ("message", message),
    ("logger", logger.name),
    ("millis", toString site.moment.millis),
    ("sequence", toString (sequence : Int)),
    ("thread", site.moment.threadName),
    ("thread_id", toString site.moment.threadNumber),
    ("process", toString site.moment.processNumber),
    ("module", FilePath.stem site.file),
    ("function", site.function.text?.getD ""),
    ("line", site.line.text?.getD "")]

/-- The line of a call: the time, if lines start with it, and the selected fields in order, all
separated by tabs, with a line feed behind. -/
def lineAt (logger : Logger) (sequence : Nat) (time : Binary64) (level : Int) (message : String)
    (site : CallSite) : String :=
  (if logger.layout.clockPrefix then Binary64.fixedText 2 time ++ "\t" else "") ++
    String.intercalate "\t" (logger.layout.spec.names.map fun name =>
      ((logger.shownFields sequence level message site).find? name).getD "") ++ "\n"

variable {logger : Logger} {level : Int} {message : Value} {text function line : String}
  {site : CallSite}

/-- Each field of a call's record has the text that is listed for it. -/
theorem forall₂_fieldText (hmessage : message.plainText = .ok text)
    (hsequence : Value.IsShort (logger.nextSequence : Int)) (hsite : site.Shown function line)
    (level : Int) :
    List.Forall₂
      (fun (field : String × Accessor) (shown : String × String) => field.1 = shown.1 ∧
        Layout.fieldText (logger.recordFor (Level.shown level) message site) field.1 field.2 =
          .ok shown.2)
      standardFields (logger.shownFields logger.nextSequence level text site) := by
  have hfunction : site.function.plainText = .ok (site.function.text?.getD "") := by
    rw [hsite.function]
    exact Value.plainText_of_text? hsite.function
  have hline : site.line.plainText = .ok (site.line.text?.getD "") := by
    rw [hsite.line]
    exact Value.plainText_of_text? hsite.line
  have hfield : ∀ v : Value,
      (Except.ok v >>= Value.plainText : Except Fault String) = v.plainText := fun _ => rfl
  have htext : (logger.recordFor (Level.shown level) message site).text = .ok (.text text) := by
    simp only [Record.text, recordFor, hmessage]
    rfl
  refine .cons ⟨rfl, rfl⟩ (.cons ⟨rfl, ?_⟩ (.cons ⟨rfl, rfl⟩ (.cons ⟨rfl, ?_⟩ (.cons ⟨rfl, ?_⟩
    (.cons ⟨rfl, rfl⟩ (.cons ⟨rfl, ?_⟩ (.cons ⟨rfl, ?_⟩ (.cons ⟨rfl, rfl⟩ (.cons ⟨rfl, ?_⟩
      (.cons ⟨rfl, ?_⟩ .nil))))))))))
  · simp only [Layout.fieldText, htext]
    rfl
  · have hmillis : (logger.recordFor (Level.shown level) message site).milliseconds =
        .ok (.int site.moment.millis) := Moment.milliseconds_of_created rfl
    simp only [Layout.fieldText, hmillis, hfield,
      Value.plainText_of_isShort site.moment.isShort_millis]
  · simp only [Layout.fieldText, recordFor, hfield, Value.plainText_of_isShort hsequence]
  · simp only [Layout.fieldText, recordFor, hfield,
      Value.plainText_of_isShort site.moment.isShort_threadNumber]
  · simp only [Layout.fieldText, recordFor, hfield,
      Value.plainText_of_isShort site.moment.isShort_processNumber]
  · simp only [Layout.fieldText, recordFor, hfield, hfunction]
  · simp only [Layout.fieldText, recordFor, hfield, hline]

/-- The texts of the selected fields of a call's record. -/
theorem fieldTexts_recordFor (hmessage : message.plainText = .ok text)
    (hsequence : Value.IsShort (logger.nextSequence : Int)) (hsite : site.Shown function line)
    (level : Int) {selectors : List (String × Accessor)}
    (hselectors : ∀ selector ∈ selectors, standardFields.find? selector.1 = some selector.2) :
    Layout.fieldTexts (logger.recordFor (Level.shown level) message site) selectors =
      .ok ((selectors.map Prod.fst).map fun name =>
        ((logger.shownFields logger.nextSequence level text site).find? name).getD "") := by
  induction selectors with
  | nil => rfl
  | cons selector selectors ih =>
      obtain ⟨name, accessor⟩ := selector
      obtain ⟨hname, hrest⟩ := List.forall_mem_cons.mp hselectors
      obtain ⟨shown, hshown, hfield⟩ := Table.find?_of_forall₂
        (R := fun name accessor shown => Layout.fieldText
          (logger.recordFor (Level.shown level) message site) name accessor = .ok shown)
        (forall₂_fieldText hmessage hsequence hsite level) hname
      simp only [Layout.fieldTexts, hfield, ih hrest, List.map_cons, hshown, Option.getD_some]
      rfl

/-- A manual clock is shown with two places, and counts the reading. -/
theorem clockText_manual {layout : Layout} (hrender : layout.renderTime = formatTime)
    (time : Binary64) (readings : Nat) :
    layout.clockText (some ⟨.manual time, readings⟩) =
      (.ok (Binary64.fixedText 2 time), some ⟨.manual time, readings + 1⟩) := by
  have htime : formatTime (.real time) = .ok (Binary64.fixedText 2 time) := rfl
  have hrendered : (Except.ok (Value.real time) >>= formatTime : Except Fault String) =
      .ok (Binary64.fixedText 2 time) := htime
  simp only [Layout.clockText, Clock.read_manual, hrender, hrendered]

/-- A logger whose format was read against the fields of records. -/
structure HasStandardFormat (logger : Logger) : Prop where
  names : logger.layout.spec.selectors.map Prod.fst = logger.layout.spec.names
  fields : ∀ selector ∈ logger.layout.spec.selectors,
    standardFields.find? selector.1 = some selector.2

/-- **The line of a call's record**, when lines do not start with the time. The clock is not
read. -/
theorem format_of_not_clockPrefix (hformat : logger.HasStandardFormat)
    (hstamp : logger.layout.clockPrefix = false) (hmessage : message.plainText = .ok text)
    (hsequence : Value.IsShort (logger.nextSequence : Int)) (hsite : site.Shown function line)
    (level : Int) (time : Binary64) (clock : Option Clock) :
    logger.layout.format (logger.recordFor (Level.shown level) message site) clock =
      (.ok (logger.lineAt logger.nextSequence time level text site), clock) := by
  have hfields := fieldTexts_recordFor hmessage hsequence hsite level hformat.fields
  rw [hformat.names] at hfields
  simp only [Layout.format, hfields, hstamp, Bool.false_eq_true, if_false, lineAt,
    Layout.joinFields]
  rw [String.empty_append]

/-- **The line of a call's record**, when lines start with the time of a manual clock. The
clock shows the same time afterwards. -/
theorem format_of_clockPrefix (hformat : logger.HasStandardFormat)
    (hstamp : logger.layout.clockPrefix = true) (hrender : logger.layout.renderTime = formatTime)
    (hmessage : message.plainText = .ok text)
    (hsequence : Value.IsShort (logger.nextSequence : Int)) (hsite : site.Shown function line)
    (level : Int) (time : Binary64) (readings : Nat) :
    logger.layout.format (logger.recordFor (Level.shown level) message site)
        (some ⟨.manual time, readings⟩) =
      (.ok (logger.lineAt logger.nextSequence time level text site),
        some ⟨.manual time, readings + 1⟩) := by
  have hfields := fieldTexts_recordFor hmessage hsequence hsite level hformat.fields
  rw [hformat.names] at hfields
  simp only [Layout.format, hfields, hstamp, if_true, clockText_manual hrender, lineAt,
    Layout.joinFields, String.append_assoc]

/-- A logger that a gate builds has a format that was read against the fields of records. -/
theorem hasStandardFormat_build {gate : Gate} {options : Options}
    {overrides : Table String Value} {settings : Settings}
    (h : gate.validate options overrides = .ok settings) (sink : Sink) :
    (gate.build settings sink).HasStandardFormat := by
  obtain ⟨-, hspec, -⟩ := Gate.validate_eq_ok_iff.mp h
  obtain ⟨hnames, hfields⟩ := FormatSpec.find?_of_parse hspec
  exact ⟨hnames, hfields⟩

/-- A line is never empty. -/
theorem lineAt_ne_empty (logger : Logger) (sequence : Nat) (time : Binary64) (level : Int)
    (message : String) (site : CallSite) :
    logger.lineAt sequence time level message site ≠ "" := by
  intro hempty
  have hlength := congrArg String.length hempty
  simp [lineAt] at hlength

end Logger

end TraceLog
