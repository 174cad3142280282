import TraceLog.Proofs.StandingClock
import TraceLog.Proofs.Steps

/-!
# Whether Sinks Agree

Every sink has a record formatted for itself, and where lines start with the time, the clock is
read once more for each. `Logger.stamps` are the times that come of these readings. What the sinks
are handed differs in nothing but these times, so that the sinks agree on a call when the readings
do: all show the same time, or none of them makes a line. Beside a clock that stands still they
always agree. Beside another clock one sink may have a line that another one does not have.

## Main results

* `FailurePolicy.agree_handed_iff`: results that sinks agree on.
* `Logger.results_of_fields`, `Logger.results_recordFor`: the results of a record are the times in
  front of one body.
* `Session.agree_iff`: what the sinks of a session receive of a call, and when they agree.
-/

namespace TraceLog

open Number

/-! ### Results that agree -/

/-- Sinks agree on what they are handed: all of them are handed one line, or none is handed
anything but an empty text. -/
def Agree (sinks : List Sink) (handed : List (Sink × String)) : Prop :=
  (∃ line, line ≠ "" ∧ handed = sinks.map (·, line)) ∨ ∀ given ∈ handed, given.2 = ""

namespace FailurePolicy

variable {policy : FailurePolicy} {ends : FormattingFault → Bool} {sinks : List Sink}
  {results : List (Except FormattingFault String)}

/-- No line is made of these results: all are faults, up to one that ends the process. -/
def Silent {α : Type} (policy : FailurePolicy) (ends : FormattingFault → Bool) :
    List (Except FormattingFault α) → Prop
  | [] => True
  | .ok _ :: _ => False
  | .error fault :: results =>
    (policy.end? ends (Except.error fault : Except FormattingFault α)).isSome ∨
      policy.Silent ends results

/-- What becomes of the lines that are made does not matter for silence. -/
theorem silent_map_iff {α β : Type} (policy : FailurePolicy) (ends : FormattingFault → Bool)
    (results : List (Except FormattingFault α)) (f : α → β) :
    policy.Silent ends (results.map (Except.map f)) ↔ policy.Silent ends results := by
  induction results with
  | nil => exact Iff.rfl
  | cons result results ih =>
      rcases result with fault | value
      · exact or_congr_right ih
      · exact Iff.rfl

/-- No sink is handed more than one line. -/
theorem length_handed_le (policy : FailurePolicy) (ends : FormattingFault → Bool)
    (sinks : List Sink) (results : List (Except FormattingFault String)) :
    (policy.handed ends sinks results).length ≤ sinks.length := by
  induction sinks generalizing results with
  | nil => simp [handed]
  | cons sink sinks ih =>
      rcases results with - | ⟨result, results⟩
      · simp [handed]
      · rw [handed]
        split
        · simp
        · simpa using ih results
        · exact Nat.le_succ_of_le (ih results)

/-- A line that all sinks are handed is the result for each. -/
theorem forall_ok_of_handed_eq {line : String} (hline : line ≠ "")
    (hlength : results.length = sinks.length)
    (h : policy.handed ends sinks results = sinks.map (·, line)) :
    ∀ result ∈ results, result = .ok line := by
  induction sinks generalizing results with
  | nil => simp [List.length_eq_zero_iff.mp hlength]
  | cons sink sinks ih =>
      rcases results with - | ⟨result, results⟩
      · simp
      rcases hmade : policy.line? result with - | made
      · rcases hend : policy.end? ends result with - | fault
        · rw [handed_cons_of_none hend hmade] at h
          have hle := length_handed_le policy ends sinks results
          rw [h] at hle
          simp at hle
        · rw [handed_cons_of_end hend] at h
          simp at h
      · rw [handed_cons_of_line hmade] at h
        obtain ⟨hfirst, hrest⟩ := List.cons.inj h
        obtain rfl : made = line := (Prod.mk.inj hfirst).2
        refine List.forall_mem_cons.mpr ⟨?_, ih (Nat.succ.inj hlength) hrest⟩
        rcases result with fault | text
        · cases policy with
          | record => exact absurd (Option.some.inj hmade).symm hline
          | abort => simp [line?] at hmade
          | value v => simp [line?] at hmade
        · exact congrArg Except.ok (Option.some.inj hmade)

/-- Nothing but empty texts is handed to sinks when no line is made. -/
theorem handed_empty_iff (hlength : results.length = sinks.length) (hlines : .ok "" ∉ results) :
    (∀ given ∈ policy.handed ends sinks results, given.2 = "") ↔ policy.Silent ends results := by
  induction sinks generalizing results with
  | nil => simp [List.length_eq_zero_iff.mp hlength, handed, Silent]
  | cons sink sinks ih =>
      rcases results with - | ⟨result, results⟩
      · simp [handed, Silent]
      have hrest := ih (Nat.succ.inj hlength) fun hmem => hlines (List.mem_cons_of_mem _ hmem)
      rcases result with fault | line
      · cases policy with
        | abort =>
            rcases hends : ends fault with - | -
            · rw [handed_cons_of_none (by simp [end?, hends]) rfl, hrest]
              simp [Silent, end?, hends]
            · have hended : abort.end? ends (.error fault : Except FormattingFault String) =
                  some fault := by
                simp [end?, hends]
              rw [handed_cons_of_end hended]
              simp [Silent, hended]
        | record =>
            rw [handed_cons_of_line rfl]
            simpa [Silent, end?] using hrest
        | value v =>
            rw [handed_cons_of_none rfl rfl, hrest]
            simp [Silent, end?]
      · have hline : line ≠ "" := by
          rintro rfl
          exact hlines List.mem_cons_self
        rw [handed_cons_of_line rfl]
        simp [Silent, hline]

/-- **Sinks agree on a record when all results are one line, or no line is made.** -/
theorem agree_handed_iff (hlength : results.length = sinks.length) (hlines : .ok "" ∉ results) :
    Agree sinks (policy.handed ends sinks results) ↔
      (∃ line, ∀ result ∈ results, result = .ok line) ∨ policy.Silent ends results := by
  rw [Agree, handed_empty_iff hlength hlines]
  constructor
  · rintro (⟨line, hline, hall⟩ | hsilent)
    · exact .inl ⟨line, forall_ok_of_handed_eq hline hlength hall⟩
    · exact .inr hsilent
  · rintro (⟨line, hall⟩ | hsilent)
    · rcases results with - | ⟨result, results⟩
      · exact .inr trivial
      · refine .inl ⟨line, ?_, handed_of_forall_ok hlength hall⟩
        rintro rfl
        exact hlines (hall result List.mem_cons_self ▸ List.mem_cons_self)
    · exact .inr hsilent

/-- Sinks agree on a record that is formatted to the same for each. -/
theorem agree_handed_replicate (policy : FailurePolicy) (ends : FormattingFault → Bool)
    (sinks : List Sink) {result : Except FormattingFault String} (hresult : result ≠ .ok "") :
    Agree sinks (policy.handed ends sinks (List.replicate sinks.length result)) := by
  have hall : ∀ given ∈ List.replicate sinks.length result, given = result :=
    fun _ => List.eq_of_mem_replicate
  refine (agree_handed_iff List.length_replicate fun hmem => hresult (hall _ hmem).symm).mpr ?_
  rcases result with fault | line
  · right
    induction sinks.length with
    | zero => trivial
    | succ n ih => exact .inr ih
  · exact .inl ⟨line, hall⟩

/-- Sinks agree on lines that are made of times, each of another time, when the times are the
same or no line is made. -/
theorem agree_handed_map_iff {make : String → String} (hmake : Function.Injective make)
    (hempty : ∀ time, make time ≠ "") (hlength : results.length = sinks.length) :
    Agree sinks (policy.handed ends sinks (results.map (Except.map make))) ↔
      (∃ time, ∀ result ∈ results, result = .ok time) ∨ policy.Silent ends results := by
  have hlines : Except.ok "" ∉ results.map (Except.map make) := by
    intro hmem
    obtain ⟨result, -, hresult⟩ := List.mem_map.mp hmem
    obtain ⟨time, -, hline⟩ := map_eq_ok.mp hresult
    exact hempty time hline
  rw [agree_handed_iff (by rw [List.length_map, hlength]) hlines, silent_map_iff]
  refine or_congr_left ⟨?_, ?_⟩
  · rintro ⟨line, hall⟩
    rcases results with - | ⟨first, results⟩
    · exact ⟨"", by simp⟩
    · obtain ⟨time, -, rfl⟩ := map_eq_ok.mp (hall _ List.mem_cons_self)
      refine ⟨time, fun result hmem => ?_⟩
      obtain ⟨time', hresult, hmade⟩ := map_eq_ok.mp (hall _ (List.mem_map_of_mem hmem))
      rw [hresult, hmake hmade]
  · rintro ⟨time, hall⟩
    refine ⟨make time, fun result hmem => ?_⟩
    obtain ⟨shown, hshown, rfl⟩ := List.mem_map.mp hmem
    rw [hall shown hshown]
    rfl

end FailurePolicy

/-! ### Times -/

namespace Logger

/-- The time as a logger's lines show it beside the host's clock, and that clock afterwards. -/
def stamp (logger : Logger) (own : Option Clock) : Except FormattingFault String × Option Clock :=
  ((logger.layout.clockText (logger.clock.reads own)).1,
    logger.clock.leaves own (logger.layout.clockText (logger.clock.reads own)).2)

/-- The times that a logger's lines show, one after the other. -/
def stamps (logger : Logger) : Nat → Option Clock → List (Except FormattingFault String)
  | 0, _ => []
  | n + 1, own => (logger.stamp own).1 :: logger.stamps n (logger.stamp own).2

/-- There is a time for each reading. -/
@[simp] theorem length_stamps (logger : Logger) (n : Nat) (own : Option Clock) :
    (logger.stamps n own).length = n := by
  induction n generalizing own with
  | zero => rfl
  | succ n ih => rw [stamps, List.length_cons, ih]

/-- Clocks that show the same time give the same stamp. -/
theorem stamp_of_sameTime (logger : Logger) {own own' : Option Clock} (h : SameTime own own') :
    (logger.stamp own).1 = (logger.stamp own').1 ∧
      SameTime (logger.stamp own).2 (logger.stamp own').2 := by
  rcases hgiven : logger.clock with - | v
  · simp only [stamp, hgiven]
    exact clockText_of_sameTime logger.layout h
  · simp only [stamp, hgiven]
    exact ⟨rfl, h⟩

/-- A clock that stands still shows the same time behind a stamp. -/
theorem sameTime_stamp (logger : Logger) {own : Option Clock} (h : StandsStill own) :
    SameTime (logger.stamp own).2 own := by
  rcases hgiven : logger.clock with - | v
  · simp only [stamp, hgiven]
    exact sameTime_clockText logger.layout h
  · simp only [stamp, hgiven]
    exact .refl own

/-- A clock that stands still is shown alike every time. -/
theorem stamps_of_standsStill (logger : Logger) (n : Nat) {own : Option Clock}
    (h : StandsStill own) :
    logger.stamps n own = List.replicate n (logger.stamp own).1 := by
  have hall : ∀ own', SameTime own' own →
      logger.stamps n own' = List.replicate n (logger.stamp own).1 := by
    induction n with
    | zero => exact fun _ _ => rfl
    | succ n ih =>
        intro own' hsame
        have hstands := SameTime.standsStill hsame.symm h
        rw [stamps, List.replicate_succ, (logger.stamp_of_sameTime hsame).1]
        exact congrArg _ (ih _ ((logger.sameTime_stamp hstands).trans hsame))
  exact hall own (.refl own)

/-- The line of a call behind a time. -/
def stamped (logger : Logger) (level : Int) (message : String) (site : CallSite) (time : String) :
    String :=
  time ++ "\t" ++ Layout.joinFields (logger.layout.spec.names.map fun name =>
    ((logger.shownFields logger.nextSequence level message site).find? name).getD "") ++ "\n"

/-- A stamped line is not empty. -/
theorem stamped_ne_empty (logger : Logger) (level : Int) (message : String) (site : CallSite)
    (time : String) : logger.stamped level message site time ≠ "" := by
  intro hempty
  have hlength := congrArg String.length hempty
  simp [stamped] at hlength

/-- Lines of a call differ when their times do. -/
theorem stamped_injective (logger : Logger) (level : Int) (message : String) (site : CallSite) :
    Function.Injective (logger.stamped level message site) := by
  intro time time' h
  have hlist := congrArg String.toList h
  simp only [stamped, String.toList_append, List.append_assoc, List.append_left_inj] at hlist
  exact String.toList_inj.mp hlist

variable {logger : Logger} {message : Value} {text function line : String} {site : CallSite}

/-- A record whose fields are known is formatted to them behind the time. -/
theorem formatted_of_fields {record : Record} {fields : List String}
    (hfields : Layout.fieldTexts record logger.layout.spec.selectors = .ok fields)
    (hstamp : logger.layout.clockPrefix = true) (own : Option Clock) :
    logger.formatted record own =
      ((logger.stamp own).1.map fun time => time ++ "\t" ++ Layout.joinFields fields ++ "\n",
        (logger.stamp own).2) := by
  rw [formatted, stamp]
  simp only [Layout.format, hfields, hstamp, if_true]
  rcases logger.layout.clockText (logger.clock.reads own) with ⟨fault | time, after⟩
  · rfl
  · rfl

/-- **The results of a record whose fields are known** are the times that are shown, in front of one
body. -/
theorem results_of_fields {record : Record} {fields : List String}
    (hfields : Layout.fieldTexts record logger.layout.spec.selectors = .ok fields)
    (hstamp : logger.layout.clockPrefix = true) (n : Nat) (own : Option Clock) :
    logger.results record n own = (logger.stamps n own).map
      (Except.map fun time => time ++ "\t" ++ Layout.joinFields fields ++ "\n") := by
  induction n generalizing own with
  | zero => rfl
  | succ n ih => rw [results, formatted_of_fields hfields hstamp, ih, stamps, List.map_cons]

/-- **The results of a call's record** are its line behind the times that are shown. -/
theorem results_recordFor (hformat : logger.HasStandardFormat)
    (hstamp : logger.layout.clockPrefix = true) (hmessage : message.plainText = .ok text)
    (hsequence : Value.IsShort (logger.nextSequence : Int)) (hsite : site.Shown function line)
    (level : Int) (n : Nat) (own : Option Clock) :
    logger.results (logger.recordFor (Level.shown level) message site) n own =
      (logger.stamps n own).map (Except.map (logger.stamped level text site)) := by
  have hfields := fieldTexts_recordFor hmessage hsequence hsite level hformat.fields
  rw [hformat.names] at hfields
  exact results_of_fields hfields hstamp n own

/-- A call that passes gives its record to all sinks. -/
theorem call_of_outcome (platform : Platform) {call : Call} {level : Int} (scene : Scene)
    (site : CallSite) (houtcome : logger.outcome call = .ok (some (level, text)))
    (hlevel : call.level.IsShortLevel) :
    ∃ message, message.plainText = .ok text ∧
      logger.call platform call site scene =
        ({ logger with nextSequence := logger.nextSequence + 1 },
          deliver platform logger (logger.recordFor (Level.shown level) message site)
            logger.sinks scene) := by
  have hdoes := logger.does_outcome platform call site scene
  rw [houtcome] at hdoes
  cases hdoes with
  | @emits _ _ message hpasses hresolve hmessage hcall =>
      refine ⟨message, hmessage, ?_⟩
      rw [hcall]
      simp only [emit, admits_of_passes hpasses, if_true,
        Level.name_of_isShort (isShort_of_resolveLevel hresolve hlevel)]

end Logger

/-! ### Sessions -/

namespace Session

variable {session : Session} {gate : Gate} {settings : Settings} {options : Options}
  {overrides : Table String Value} {sink : Sink} {sinks : List Sink} {nextSequence : Nat}
  {call : Logger.Call} {site : CallSite} {level : Int} {text : String}

/-- The scene that a logging call leaves. -/
theorem scene_step_log {logger : Logger} (h : session.logger = .ok logger) (call : Logger.Call)
    (site : CallSite) : (session.step (.log call site)).1.scene =
      (logger.call session.platform call site session.scene).2.1 := by
  simp only [step, h]
  rw [scene_setLogger]

/-- The ending of a logging call. -/
theorem snd_step_log {logger : Logger} (h : session.logger = .ok logger) (call : Logger.Call)
    (site : CallSite) : (session.step (.log call site)).2 =
      endOfCall (logger.call session.platform call site session.scene).2.2 := by
  simp only [step, h]

/-- **What the sinks receive of a call, and when they agree.** Let the logger that a gate has
committed, with lines that start with the time, have any sinks by now, and let a call pass that no
fault of recursion ends, and no report that standard error refuses. Whatever the clock shows:

* A stream that takes what it is handed has received the line of the call behind the time that was
  read for it, once for each of its sinks, and nothing for a time that could not be shown.
* The sinks agree on the call exactly when all readings show the same time or none makes a line.
* Beside a clock that stands still, they agree. -/
theorem agree_iff (hsettings : gate.validate options overrides = .ok settings)
    (hlogger : session.logger =
      .ok { gate.build settings sink with sinks, nextSequence })
    (hstamp : (gate.build settings sink).layout.clockPrefix = true)
    (houtcome : (gate.build settings sink).outcome call = .ok (some (level, text)))
    (hwritable : (Step.log call site).IsWritable)
    (hsequence : Value.IsShort (nextSequence : Int))
    (hgoes : ∀ fault, (session.step (.log call site)).2 ≠ .raised fault) :
    let logger : Logger := { gate.build settings sink with sinks, nextSequence }
    let times := logger.stamps sinks.length session.scene.clock
    let ends := session.scene.outlets.takesEnd site.moment.frames
    let handed := logger.policy.handed ends sinks
      (times.map (Except.map (logger.stamped level text site)))
    let next := (session.step (.log call site)).1
    (∀ handle stream, session.scene.outlets.find? handle = some stream →
      (∀ given ∈ handed, given.1.handle = handle → given.1.Feeds given.2 stream) →
      next.scene.outlets.find? handle =
        some (stream.fed session.platform.lineEnd (handedTo handle handed))) ∧
    (Agree sinks handed ↔
      (∃ time, ∀ shown ∈ times, shown = .ok time) ∨ logger.policy.Silent ends times) ∧
    (StandsStill session.scene.clock → Agree sinks handed) := by
  intro logger times ends handed next
  have hstandard := Logger.hasStandardFormat_build hsettings sink
  have hformat : logger.HasStandardFormat := ⟨hstandard.names, hstandard.fields⟩
  obtain ⟨hlevel, function, line, hsite⟩ := hwritable
  obtain ⟨message, hmessage, hcall⟩ := logger.call_of_outcome session.platform session.scene
    site houtcome hlevel
  have hresults : logger.results (logger.recordFor (Level.shown level) message site)
      sinks.length session.scene.clock =
        times.map (Except.map (logger.stamped level text site)) :=
    Logger.results_recordFor hformat hstamp hmessage hsequence hsite level _ _
  refine ⟨fun handle stream hfind hfeeds => ?_, ?_, fun hstands => ?_⟩
  · have hraises : ∀ fault, (deliver session.platform logger
        (logger.recordFor (Level.shown level) message site) sinks session.scene).2 ≠
          .raised fault := by
      intro fault hraised
      refine hgoes fault ?_
      rw [snd_step_log hlogger, hcall]
      exact congrArg endOfCall hraised
    have hdelivered := deliver_eq session.platform logger
      (logger.recordFor (Level.shown level) message site) sinks session.scene (.inr hraises)
    simp only [hresults] at hdelivered
    obtain ⟨houtlets, hend⟩ : HandsOver session.platform.lineEnd handed _ _ _ := hdelivered
    have hnext : next.scene = (logger.call session.platform call site session.scene).2.1 :=
      scene_step_log hlogger call site
    rw [hnext, hcall, ← Outlets.find?_withoutReports, houtlets]
    refine find?_handOver_of_feeds hfind hfeeds fun given hmem hrecurses => ?_
    have hstopped := (stopped_handOver_iff session.platform.lineEnd handed
      session.scene.outlets.withoutReports).mpr ⟨given, hmem, hrecurses⟩
    rw [hstopped] at hend
    exact hraises _ hend
  · exact FailurePolicy.agree_handed_map_iff (logger.stamped_injective level text site)
      (logger.stamped_ne_empty level text site) (logger.length_stamps _ _)
  · have hsame := logger.results_of_standsStill (logger.recordFor (Level.shown level) message site)
      sinks.length hstands
    rw [hresults] at hsame
    simp only [handed, hsame]
    refine FailurePolicy.agree_handed_replicate _ _ _ fun hempty => ?_
    have hfirst := Logger.results_recordFor hformat hstamp hmessage hsequence hsite level 1
      session.scene.clock
    simp only [Logger.results, Logger.stamps, List.map_cons, List.cons.injEq] at hfirst
    obtain ⟨time, -, hline⟩ := map_eq_ok.mp (hfirst.1.symm.trans hempty)
    exact logger.stamped_ne_empty level text site time hline

/-- A session whose logger has the console and one more sink, and lines that start with the time of
a scripted clock. -/
def scripted (first second : Reading) : Session :=
  ({ gate := { clock := .own, policy := .record }
     scene := { clock := some ⟨.scripted first [second], 0⟩ } } : Session).final
    [.configure (some (.fields [("clock_prefix", .bool true)])) [], .attach "s" (.text "")]

/-- The first reading fails: only the second sink has the line. -/
theorem agree_iff_of_failing_reading :
    let site : CallSite := { file := "d.py", function := .text "f", line := .int 1 }
    let session := scripted (.failure "off") (.time (.real .zero))
    let sinks : List Sink := [⟨.line, .console⟩, ⟨.line, .named "s"⟩]
    let next := (session.step (.log (.print (.text "x") .null) site)).1
    (∃ logger, session.logger = .ok logger ∧ ¬ Agree sinks (logger.policy.handed
      (session.scene.outlets.takesEnd {}) sinks
      ((logger.stamps 2 session.scene.clock).map (Except.map (logger.stamped 20 "x" site))))) ∧
      next.scene.outlets.find? .console = some ⟨.text "", false⟩ ∧
      next.scene.outlets.find? (.named "s") = some ⟨.text "0.00\tINFO\tx\n", false⟩ := by
  intro site session sinks next
  obtain ⟨settings, hvalid, hlogger, hthreshold, hprefix⟩ : ∃ settings,
      Gate.validate { clock := .own, policy := .record } { clockPrefix := .bool true } [] =
        .ok settings ∧
      session.logger = .ok { Gate.build { clock := .own, policy := .record } settings
        ⟨.line, .console⟩ with sinks, nextSequence := 0 } ∧
      settings.threshold = 20 ∧ settings.options.clockPrefix.isTrue = true :=
    ⟨_, rfl, rfl, rfl, rfl⟩
  have hsite : ∃ function line, site.Shown function line :=
    ⟨"f", "1", rfl, Value.text?_of_isShort (Value.isShort_of_lt (by decide))⟩
  have hlevel : Value.null.IsShortLevel := by
    rintro n ⟨⟩
  have houtcome : (Gate.build { clock := .own, policy := .record } settings
      ⟨.line, .console⟩).outcome (.print (.text "x") .null) = .ok (some (20, "x")) := by
    have hpasses : settings.threshold ≠ Level.off ∧ settings.threshold ≤ 20 := by
      rw [hthreshold]
      decide
    exact congrArg Except.ok (if_pos hpasses)
  have hgoes : ∀ fault,
      (session.step (.log (.print (.text "x") .null) site)).2 ≠ .raised fault := by
    have hanswered : (session.step (.log (.print (.text "x") .null) site)).2 =
        .answered .nothing := rfl
    simp [hanswered]
  obtain ⟨-, hagree, -⟩ := agree_iff hvalid hlogger hprefix houtcome
    (show (Step.log (.print (.text "x") .null) site).IsWritable from ⟨hlevel, hsite⟩)
    (Value.isShort_of_lt (by decide)) hgoes
  refine ⟨⟨_, hlogger, hagree.not.mpr ?_⟩, by decide +kernel, by decide +kernel⟩
  have hclock : session.scene.clock =
      some ⟨.scripted (.failure "off") [.time (.real .zero)], 0⟩ := rfl
  have htimes : ∀ logger : Logger, logger.clock = .own → logger.layout.renderTime = formatTime →
      ∃ fault time, logger.stamps 2 session.scene.clock = [.error fault, .ok time] := by
    intro logger hown hrender
    rw [hclock]
    simp only [Logger.stamps, Logger.stamp, Layout.clockText, hown, hrender, Collaborator.reads,
      Collaborator.leaves]
    exact ⟨_, Binary64.fixedText 2 .zero, rfl⟩
  obtain ⟨fault, time, hstamps⟩ := htimes { Gate.build { clock := .own, policy := .record } settings
    ⟨.line, .console⟩ with sinks, nextSequence := 0 } rfl rfl
  rintro (⟨shown, hall⟩ | hsilent)
  · have hfirst := hall (.error fault) (hstamps ▸ List.mem_cons_self)
    simp at hfirst
  · have hnone : ¬ FailurePolicy.record.Silent (session.scene.outlets.takesEnd site.moment.frames)
        [.error fault, .ok time] := by
      simp [FailurePolicy.Silent, FailurePolicy.end?]
    rw [← hstamps] at hnone
    exact hnone hsilent

/-- The second reading shows another time: the sinks have different lines. -/
theorem sinks_disagree :
    let site : CallSite := { file := "d.py", function := .text "f", line := .int 1 }
    let session := scripted (.time (.int 1)) (.time (.int 2))
    let next := (session.step (.log (.print (.text "x") .null) site)).1
    next.scene.outlets.find? .console = some ⟨.text "1.00\tINFO\tx\n", false⟩ ∧
      next.scene.outlets.find? (.named "s") = some ⟨.text "2.00\tINFO\tx\n", false⟩ ∧
      ¬ ∃ line, next.scene.outlets.find? .console = some ⟨.text line, false⟩ ∧
        next.scene.outlets.find? (.named "s") = some ⟨.text line, false⟩ := by
  intro site session next
  have hconsole : next.scene.outlets.find? .console = some ⟨.text "1.00\tINFO\tx\n", false⟩ := by
    decide +kernel
  have hother : next.scene.outlets.find? (.named "s") =
      some ⟨.text "2.00\tINFO\tx\n", false⟩ := by
    decide +kernel
  refine ⟨hconsole, hother, ?_⟩
  rw [hconsole, hother]
  rintro ⟨line, hfirst, hsecond⟩
  simp only [Option.some.injEq, Stream.mk.injEq, Device.text.injEq, and_true] at hfirst hsecond
  exact absurd (hfirst.trans hsecond.symm) (by decide)

end Session

end TraceLog
