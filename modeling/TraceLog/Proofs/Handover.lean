import TraceLog.Proofs.Calls
import TraceLog.Proofs.Hearing

/-!
# What Sinks Are Handed

A record comes to its sinks in two stages. What the layout and the clock make of it, once for each
sink, is settled without the streams (`Logger.results`), and so is what each sink is handed of
that (`FailurePolicy.handed`): a line, nothing but an empty text, or nothing at all. What the
streams do with that is settled without the record and the clock (`handOver`).

The streams do not know of each other. A stream that takes text receives what its own sinks are
handed, up to the first fault of recursion, and a stream without a sink receives nothing.

Faults are reported on standard error. `Gives` says what else comes of giving a record to one sink,
and `Delivers` what comes of giving it to all. A report that standard error refuses ends the call
like a fault of recursion, and so does not occur where it hears all reports. Whether it takes the
report with which the process ends is the same at every sink (`Outlets.takesEnd`).

## Main results

* `Sink.gives_give`, `delivers_deliver`: what comes of a record, reports aside.
* `Delivers.handsOver`: a record is handed over as its results say.
* `Delivers.exists_front`: which sinks a record has reached when a fault ends the call.
* `find?_handOver_of_feeds`: what streams receive.
* `stopped_handOver_iff`, `handOver_of_recurses`: where a fault of recursion stops a handover.
-/

namespace TraceLog

open Number

/-! ### Results -/

namespace Collaborator

/-- The clock that is read, beside the host's own one. -/
def reads (given : Collaborator) (own : Option Clock) : Option Clock :=
  match given with
  | .own => own
  | .value v => some (.ofValue v)

/-- The host's own clock once the clock was read that is given. -/
def leaves (given : Collaborator) (own after : Option Clock) : Option Clock :=
  match given with
  | .own => after
  | .value _ => own

end Collaborator

namespace Logger

/-- What a record is formatted to beside the host's clock, and that clock afterwards. -/
def formatted (logger : Logger) (record : Record) (own : Option Clock) :
    Except FormattingFault String × Option Clock :=
  ((logger.layout.format record (logger.clock.reads own)).1,
    logger.clock.leaves own (logger.layout.format record (logger.clock.reads own)).2)

/-- What a record is formatted to a number of times, one after the other. -/
def results (logger : Logger) (record : Record) :
    Nat → Option Clock → List (Except FormattingFault String)
  | 0, _ => []
  | n + 1, own =>
    (logger.formatted record own).1 :: logger.results record n (logger.formatted record own).2

end Logger

namespace FailurePolicy

/-- The text that a sink is handed of a result, if it is handed one. -/
def line? (policy : FailurePolicy) : Except FormattingFault String → Option String
  | .ok line => some line
  | .error _ =>
    match policy with
    | .record => some ""
    | .abort | .value _ => none

/-- The fault of a result that ends the process, if it does. Standard error has to take the report
for that. -/
def end? {α : Type} (policy : FailurePolicy) (ends : FormattingFault → Bool) :
    Except FormattingFault α → Option FormattingFault
  | .ok _ => none
  | .error fault =>
    match policy with
    | .abort => if ends fault then some fault else none
    | .record | .value _ => none

/-- What sinks are handed of results, up to a fault that ends the process. -/
def handed (policy : FailurePolicy) (ends : FormattingFault → Bool) :
    List Sink → List (Except FormattingFault String) → List (Sink × String)
  | sink :: sinks, result :: results =>
    match policy.end? ends result, policy.line? result with
    | some _, _ => []
    | none, some line => (sink, line) :: policy.handed ends sinks results
    | none, none => policy.handed ends sinks results
  | _, _ => []

/-- The fault among results that ends the process, if there is one. -/
def ends? (policy : FailurePolicy) (ends : FormattingFault → Bool)
    (results : List (Except FormattingFault String)) : Option FormattingFault :=
  results.findSome? (policy.end? ends)

variable {policy : FailurePolicy} {ends : FormattingFault → Bool}
  {result : Except FormattingFault String} {results : List (Except FormattingFault String)}
  {sink : Sink} {sinks : List Sink} {line : String}

/-- A result that sinks are handed a text of does not end the process. -/
theorem end?_of_line? (h : policy.line? result = some line) (ends : FormattingFault → Bool) :
    policy.end? ends result = none := by
  rcases result with fault | made
  · cases policy with
    | abort => simp [line?] at h
    | record => rfl
    | value v => rfl
  · rfl

/-- A sink is handed the line of its result. -/
theorem handed_cons_of_line (h : policy.line? result = some line) (sink : Sink)
    (sinks : List Sink) (results : List (Except FormattingFault String)) :
    policy.handed ends (sink :: sinks) (result :: results) =
      (sink, line) :: policy.handed ends sinks results := by
  simp only [handed, end?_of_line? h, h]

/-- Nothing is handed to a sink for a result of which no text is made. -/
theorem handed_cons_of_none (hend : policy.end? ends result = none) (h : policy.line? result = none)
    (sink : Sink) (sinks : List Sink) (results : List (Except FormattingFault String)) :
    policy.handed ends (sink :: sinks) (result :: results) = policy.handed ends sinks results := by
  simp only [handed, hend, h]

/-- Nothing is handed to a sink, or to those behind it, when its result ends the process. -/
theorem handed_cons_of_end {fault : FormattingFault} (h : policy.end? ends result = some fault)
    (sink : Sink) (sinks : List Sink) (results : List (Except FormattingFault String)) :
    policy.handed ends (sink :: sinks) (result :: results) = [] := by
  simp only [handed, h]

/-- A result that does not end the process leaves that to the others. -/
theorem ends?_cons_of_none (h : policy.end? ends result = none)
    (results : List (Except FormattingFault String)) :
    policy.ends? ends (result :: results) = policy.ends? ends results := by
  simp only [ends?, List.findSome?_cons, h]

/-- The first result that ends the process is the one that does. -/
theorem ends?_cons_of_end {fault : FormattingFault} (h : policy.end? ends result = some fault)
    (results : List (Except FormattingFault String)) :
    policy.ends? ends (result :: results) = some fault := by
  simp only [ends?, List.findSome?_cons, h]

/-- All sinks are handed the line that is the result for each. -/
theorem handed_of_forall_ok (hlength : results.length = sinks.length)
    (h : ∀ result ∈ results, result = .ok line) :
    policy.handed ends sinks results = sinks.map (·, line) := by
  induction sinks generalizing results with
  | nil => rfl
  | cons sink sinks ih =>
      rcases results with - | ⟨result, results⟩
      · simp at hlength
      · obtain ⟨rfl, hrest⟩ := List.forall_mem_cons.mp h
        rw [handed_cons_of_line rfl, List.map_cons, ih (Nat.succ.inj hlength) hrest]

end FailurePolicy

/-- The outlets after sinks were handed texts, and whether a fault of recursion stopped that. -/
def handOver (lineEnd : List Char) : List (Sink × String) → Outlets → Outlets × Bool
  | [], outlets => (outlets, false)
  | (sink, line) :: handed, outlets =>
    match sink.write lineEnd line outlets with
    | .ok outlets => handOver lineEnd handed outlets
    | .error (.failed .recursion) => (outlets, true)
    | .error _ => handOver lineEnd handed outlets

/-- How a call ends whose record was handed over. -/
def endOfHandover (stopped : Bool) (fault? : Option FormattingFault) : CallEnd :=
  match stopped, fault? with
  | true, _ => .raised (.stream (.failed .recursion))
  | false, some fault => .aborted fault
  | false, none => .returned

/-- The clock of a logger, as the logger reads it. -/
theorem clockFor_eq (scene : Scene) (given : Collaborator) :
    scene.clockFor given = given.reads scene.clock := by
  cases given with
  | own => rfl
  | value v => rfl

/-- The clock of a scene, as a logger leaves it. -/
theorem setClockFor_eq (scene : Scene) (given : Collaborator) (clock : Option Clock) :
    scene.setClockFor given clock = { scene with clock := given.leaves scene.clock clock } := by
  cases given with
  | own => rfl
  | value v => rfl

/-! ### Streams -/

section

variable {lineEnd : List Char} {handed later : List (Sink × String)} {outlets outlets' : Outlets}
  {handle : Handle} {sink : Sink}

/-- A line that is written is followed by the others. -/
theorem handOver_cons_of_ok {line : String} (h : sink.write lineEnd line outlets = .ok outlets')
    (handed : List (Sink × String)) :
    handOver lineEnd ((sink, line) :: handed) outlets = handOver lineEnd handed outlets' := by
  simp only [handOver, h]

/-- A fault of recursion ends a handover. -/
theorem handOver_cons_of_recurses (h : outlets.Recurses sink.handle) (line : String)
    (handed : List (Sink × String)) :
    handOver lineEnd ((sink, line) :: handed) outlets = (outlets, true) := by
  simp only [handOver, Sink.write_eq_recursion_iff.mpr h]

/-- A fault that is not one of recursion is passed over. -/
theorem handOver_cons_of_error {line : String} {fault : StreamFault}
    (h : sink.write lineEnd line outlets = .error fault) (hsink : ¬ outlets.Recurses sink.handle)
    (handed : List (Sink × String)) :
    handOver lineEnd ((sink, line) :: handed) outlets = handOver lineEnd handed outlets := by
  simp only [handOver, h]
  split
  · next heq => simp at heq
  · next heq =>
    rw [Except.error.inj heq] at h
    exact absurd (Sink.write_eq_recursion_iff.mp h) hsink
  · rfl

/-- A handover that is not stopped by its first text goes on with what that has left. -/
theorem exists_handOver_cons (hsink : ¬ outlets.Recurses sink.handle) (lineEnd : List Char)
    (line : String) :
    ∃ outlets', (∀ handed, handOver lineEnd ((sink, line) :: handed) outlets =
        handOver lineEnd handed outlets') ∧
      outlets'.roles = outlets.roles ∧
      ∀ handle, handle ≠ sink.handle → outlets'.find? handle = outlets.find? handle := by
  rcases hwrite : sink.write lineEnd line outlets with fault | outlets'
  · exact ⟨outlets, handOver_cons_of_error hwrite hsink, rfl, fun _ _ => rfl⟩
  · exact ⟨outlets', handOver_cons_of_ok hwrite, Sink.roles_write hwrite,
      fun _ => Sink.find?_write_of_ne hwrite⟩

/-- **A handover is stopped by a stream that fails with a fault of recursion**, and by no
other. -/
theorem stopped_handOver_iff (lineEnd : List Char) (handed : List (Sink × String))
    (outlets : Outlets) :
    (handOver lineEnd handed outlets).2 = true ↔
      ∃ given ∈ handed, outlets.Recurses given.1.handle := by
  induction handed generalizing outlets with
  | nil => simp [handOver]
  | cons given handed ih =>
      obtain ⟨sink, line⟩ := given
      by_cases hsink : outlets.Recurses sink.handle
      · simp [handOver_cons_of_recurses hsink, hsink]
      · obtain ⟨outlets', hcons, hroles, -⟩ := exists_handOver_cons hsink lineEnd line
        rw [hcons, ih]
        simp [Outlets.recurses_congr hroles, hsink]

/-- **Texts in front of one that stops the handover are handed over**, those behind it are not. -/
theorem handOver_of_recurses (hfront : ∀ given ∈ handed, ¬ outlets.Recurses given.1.handle)
    (hsink : outlets.Recurses sink.handle) (line : String) (later : List (Sink × String)) :
    handOver lineEnd (handed ++ (sink, line) :: later) outlets =
      ((handOver lineEnd handed outlets).1, true) := by
  induction handed generalizing outlets with
  | nil => exact handOver_cons_of_recurses hsink line later
  | cons given handed ih =>
      obtain ⟨first, text⟩ := given
      obtain ⟨hfirst, hrest⟩ := List.forall_mem_cons.mp hfront
      obtain ⟨outlets', hcons, hroles, -⟩ := exists_handOver_cons hfirst lineEnd text
      rw [List.cons_append, hcons, hcons]
      refine ih (fun given hmem => ?_) ((Outlets.recurses_congr hroles _).mpr hsink)
      rw [Outlets.recurses_congr hroles]
      exact hrest given hmem

/-- The text that is handed to a stream. -/
def handedTo (handle : Handle) (handed : List (Sink × String)) : String :=
  String.join ((handed.filter fun given => given.1.handle = handle).map Prod.snd)

/-- Nothing is handed to any stream. -/
@[simp] theorem handedTo_nil (handle : Handle) : handedTo handle [] = "" := String.join_nil

/-- The stream of the first sink is handed its line first. -/
theorem handedTo_cons_self (sink : Sink) (line : String) (handed : List (Sink × String)) :
    handedTo sink.handle ((sink, line) :: handed) = line ++ handedTo sink.handle handed := by
  rw [handedTo, List.filter_cons_of_pos (by simp), List.map_cons, String.join_cons]
  rfl

/-- Another stream is handed what the other sinks are. -/
theorem handedTo_cons_of_ne (h : sink.handle ≠ handle) (line : String)
    (handed : List (Sink × String)) :
    handedTo handle ((sink, line) :: handed) = handedTo handle handed := by
  rw [handedTo, List.filter_cons_of_neg (by simpa using h)]
  rfl

/-- A text that is handed to some sinks reaches a stream once for each of its sinks. -/
theorem handedTo_map (handle : Handle) (sinks : List Sink) (line : String) :
    handedTo handle (sinks.map (·, line)) = repeated (Sink.behind sinks handle) line := by
  induction sinks with
  | nil => rfl
  | cons sink sinks ih =>
      rw [List.map_cons, repeated_behind_cons]
      by_cases hsink : sink.handle = handle
      · subst hsink
        rw [handedTo_cons_self, ih, if_pos rfl]
      · rw [handedTo_cons_of_ne hsink, ih, if_neg (Ne.symm hsink), String.empty_append]

/-- **A stream that takes what it is handed receives it**, when no fault of recursion stops the
handover. -/
theorem find?_handOver_of_feeds {stream : Stream} (hfind : outlets.find? handle = some stream)
    (hfeeds : ∀ given ∈ handed, given.1.handle = handle → given.1.Feeds given.2 stream)
    (hgoes : ∀ given ∈ handed, ¬ outlets.Recurses given.1.handle) :
    (handOver lineEnd handed outlets).1.find? handle =
      some (stream.fed lineEnd (handedTo handle handed)) := by
  induction handed generalizing outlets stream with
  | nil => rw [handOver, handedTo_nil, Stream.fed_empty, hfind]
  | cons given handed ih =>
      obtain ⟨sink, line⟩ := given
      obtain ⟨hfeed, hlater⟩ := List.forall_mem_cons.mp hfeeds
      obtain ⟨hsink, hrest⟩ := List.forall_mem_cons.mp hgoes
      by_cases hself : sink.handle = handle
      · subst hself
        obtain ⟨outlets', hwrite, hthere⟩ := (hfeed rfl).write hfind lineEnd
        rw [handOver_cons_of_ok hwrite, handedTo_cons_self, Stream.fed_append]
        refine ih hthere (fun given hmem hgiven => (hlater given hmem hgiven).fed lineEnd line)
          fun given hmem => ?_
        rw [Outlets.recurses_congr (Sink.roles_write hwrite)]
        exact hrest given hmem
      · obtain ⟨outlets', hcons, hroles, hkept⟩ := exists_handOver_cons hsink lineEnd line
        rw [hcons, handedTo_cons_of_ne hself]
        refine ih ((hkept handle (Ne.symm hself)).trans hfind) hlater fun given hmem => ?_
        rw [Outlets.recurses_congr hroles]
        exact hrest given hmem

end

/-! ### One sink -/

namespace Outlets

/-- Whether standard error takes the report on a record that cannot be formatted, so that the
process ends. -/
def takesEnd (outlets : Outlets) (frames : Frames) (fault : FormattingFault) : Bool :=
  (outlets.reportEnd (Report.ofEnd frames fault)).2.isNone

/-- Whether standard error takes the report on an end is settled by what it was. -/
theorem takesEnd_congr {outlets outlets' : Outlets}
    (h : outlets'.blanks .console = outlets.blanks .console) (frames : Frames) :
    outlets'.takesEnd frames = outlets.takesEnd frames := by
  funext fault
  rw [takesEnd, snd_reportEnd_congr h, takesEnd]

end Outlets

variable {platform : Platform} {logger : Logger} {record : Record} {sink : Sink}
  {sinks : List Sink} {scene : Scene}

/-- **What comes of giving a record to one sink**, for what it was formatted to: the outlets
afterwards, reports aside, and the ending of the call if that ends it. -/
inductive Gives (lineEnd : List Char) (policy : FailurePolicy) (ends : FormattingFault → Bool)
    (sink : Sink) (outlets : Outlets) :
    Except FormattingFault String → Outlets → Option CallEnd → Prop
  /-- The text is written. -/
  | written {result : Except FormattingFault String} {line : String} {outlets' : Outlets} :
      policy.line? result = some line → sink.write lineEnd line outlets = .ok outlets' →
      Gives lineEnd policy ends sink outlets result outlets' none
  /-- There is no text, or the stream refuses it, and the fault is reported. -/
  | passedOver {result : Except FormattingFault String} :
      policy.end? ends result = none →
      (∀ line, policy.line? result = some line → ¬ outlets.Recurses sink.handle ∧
        ∃ fault, sink.write lineEnd line outlets = .error fault) →
      Gives lineEnd policy ends sink outlets result outlets none
  /-- The stream fails with a fault of recursion. -/
  | recursed {result : Except FormattingFault String} {line : String} :
      policy.line? result = some line → outlets.Recurses sink.handle →
      Gives lineEnd policy ends sink outlets result outlets
        (some (.raised (.stream (.failed .recursion))))
  /-- Standard error refuses the report. -/
  | refused {result : Except FormattingFault String} {fault : Fault} :
      policy.end? ends result = none →
      (∀ line, policy.line? result = some line → ∃ fault,
        sink.write lineEnd line outlets = .error fault) →
      outlets.Refuses fault → Gives lineEnd policy ends sink outlets result outlets
        (some (.raised fault))
  /-- The record ends the process. -/
  | aborted {result : Except FormattingFault String} {fault : FormattingFault} :
      policy.end? ends result = some fault →
      Gives lineEnd policy ends sink outlets result outlets (some (.aborted fault))

namespace Scene

/-- A fault that is met leaves the clock, and nothing but a report in the outlets. -/
theorem meet_fst (record : Record) (fault : Fault) (scene : Scene) :
    (scene.meet record fault).1.clock = scene.clock ∧
      (scene.meet record fault).1.outlets.withoutReports = scene.outlets.withoutReports := by
  refine ⟨?_, Outlets.withoutReports_meet record.report fault scene.outlets⟩
  simp only [meet, setOutlets]
  split
  · rfl
  · rfl

/-- What gets out of a sink is settled by the outlets. -/
theorem snd_meet (record : Record) (fault : Fault) (scene : Scene) :
    (scene.meet record fault).2 = (scene.outlets.meet record.report fault).2 := rfl

end Scene

/-- A write does not concern the reports. -/
theorem Sink.write_withoutReports (lineEnd : List Char) (line : String) (sink : Sink)
    (outlets : Outlets) :
    sink.write lineEnd line outlets.withoutReports =
      (sink.write lineEnd line outlets).map Outlets.withoutReports := by
  rw [write_eq, write_eq, Outlets.find?_withoutReports, Outlets.files_withoutReports]
  rcases outlets.find? sink.handle with - | stream
  · rfl
  · rcases hwritten : sink.writeTo lineEnd line stream outlets.files with fault | written
    · simp only [hwritten]
      rfl
    · simp only [hwritten]
      rfl

/-- Writing through a sink does not read the clock. -/
theorem clock_writeThrough (lineEnd : List Char) (record : Record) (line : String) (sink : Sink)
    (scene : Scene) : (writeThrough lineEnd record line sink scene).1.clock = scene.clock := by
  rw [writeThrough]
  split
  · rfl
  · exact (scene.meet_fst record _).1

/-- A text that is written through a sink. -/
theorem gives_writeThrough {lineEnd : List Char} {policy : FailurePolicy}
    {ends : FormattingFault → Bool} {result : Except FormattingFault String} {line : String}
    (hline : policy.line? result = some line) (record : Record) (sink : Sink) (scene : Scene) :
    Gives lineEnd policy ends sink scene.outlets.withoutReports result
      (raising (writeThrough lineEnd record line sink scene)).1.outlets.withoutReports
      (raising (writeThrough lineEnd record line sink scene)).2 := by
  have hwrite := sink.write_withoutReports lineEnd line scene.outlets
  rcases hwritten : sink.write lineEnd line scene.outlets with fault | outlets
  · rw [hwritten] at hwrite
    have hthere := (scene.meet_fst record (.stream fault)).2
    have hrefused : ∀ text, policy.line? result = some text → ∃ fault,
        sink.write lineEnd text scene.outlets.withoutReports = .error fault := by
      rintro text htext
      obtain rfl : line = text := Option.some.inj (hline.symm.trans htext)
      exact ⟨fault, hwrite⟩
    have hend : policy.end? ends result = none := FailurePolicy.end?_of_line? hline ends
    simp only [writeThrough, hwritten, raising, hthere]
    by_cases hrecurses : scene.outlets.withoutReports.Recurses sink.handle
    · obtain rfl : fault = .failed .recursion :=
        Except.error.inj (hwrite.symm.trans (Sink.write_eq_recursion_iff.mpr hrecurses))
      exact .recursed hline hrecurses
    · rcases hraised : (scene.meet record (.stream fault)).2 with - | raised
      · exact .passedOver hend fun text htext => ⟨hrecurses, hrefused text htext⟩
      · rcases Outlets.raised_of_meet hraised with ⟨hpasses, -⟩ | ⟨-, hrefuses⟩
        · rw [Fault.passesOn_stream_iff.mp hpasses] at hwrite
          exact absurd (Sink.write_eq_recursion_iff.mp hwrite) hrecurses
        · exact .refused hend hrefused hrefuses
  · rw [hwritten] at hwrite
    simp only [writeThrough, hwritten, raising]
    exact .written hline hwrite

/-- A fault that a sink meets where there is no text for it. -/
theorem gives_meet {lineEnd : List Char} {policy : FailurePolicy} {ends : FormattingFault → Bool}
    {result : Except FormattingFault String} (hend : policy.end? ends result = none)
    (hline : policy.line? result = none) (record : Record) (sink : Sink) (scene : Scene)
    {fault : Fault} (hfault : fault.passesOn = true → scene.outlets.Refuses fault) :
    Gives lineEnd policy ends sink scene.outlets.withoutReports result
      (raising (scene.meet record fault)).1.outlets.withoutReports
      (raising (scene.meet record fault)).2 := by
  have hnone : ∀ line, policy.line? result ≠ some line := by
    simp [hline]
  simp only [raising, (scene.meet_fst record fault).2]
  rcases hraised : (scene.meet record fault).2 with - | raised
  · exact .passedOver hend fun line htext => absurd htext (hnone line)
  · refine .refused hend (fun line htext => absurd htext (hnone line)) ?_
    rcases Outlets.raised_of_meet hraised with ⟨hpasses, rfl⟩ | ⟨-, hrefuses⟩
    · exact hfault hpasses
    · exact hrefuses

/-- A record that ends the process, unless something keeps it from that. -/
theorem gives_endProcess {lineEnd : List Char} (record : Record) (sink : Sink) (scene : Scene)
    (fault : FormattingFault) :
    Gives lineEnd .abort (scene.outlets.takesEnd record.frames) sink scene.outlets.withoutReports
        (.error fault) (endProcess record fault scene).1.outlets.withoutReports
        (endProcess record fault scene).2 ∧
      (endProcess record fault scene).1.clock = scene.clock := by
  have hthere := Outlets.withoutReports_reportEnd (Report.ofEnd record.frames fault) scene.outlets
  rcases hreport : scene.outlets.reportEnd (Report.ofEnd record.frames fault) with
    ⟨outlets, - | hindrance⟩
  · have hend : FailurePolicy.abort.end? (scene.outlets.takesEnd record.frames)
        (.error fault : Except FormattingFault String) = some fault := by
      simp only [FailurePolicy.end?, Outlets.takesEnd, hreport, Option.isNone_none, if_true]
    rw [hreport] at hthere
    simp only [endProcess, Scene.reportEnd, hreport, Scene.setOutlets, hthere, and_true]
    exact .aborted hend
  · have hend : FailurePolicy.abort.end? (scene.outlets.takesEnd record.frames)
        (.error fault : Except FormattingFault String) = none := by
      simp only [FailurePolicy.end?, Outlets.takesEnd, hreport, Option.isNone_some,
        Bool.false_eq_true, if_false]
    rw [hreport] at hthere
    simp only [endProcess, Scene.reportEnd, hreport]
    rw [← hthere]
    refine ⟨gives_meet hend rfl record sink (scene.setOutlets outlets) fun hpasses => ?_,
      ((scene.setOutlets outlets).meet_fst record hindrance).1⟩
    have hrefuses : scene.outlets.Refuses hindrance :=
      Outlets.refuses_of_snd_reportEnd (congrArg Prod.snd hreport) hpasses
    have hconsole := congrFun (Outlets.blanks_congr hthere) .console
    exact (Outlets.refuses_congr hconsole hindrance).mpr hrefuses

/-- **What comes of giving a record to one sink** is settled by what it is formatted to. -/
theorem Sink.gives_give (platform : Platform) (logger : Logger) (record : Record) (sink : Sink)
    (scene : Scene) :
    Gives platform.lineEnd logger.policy (scene.outlets.takesEnd record.frames) sink
        scene.outlets.withoutReports (logger.formatted record scene.clock).1
        (sink.give platform logger record scene).1.outlets.withoutReports
        (sink.give platform logger record scene).2 ∧
      (sink.give platform logger record scene).1.clock =
        (logger.formatted record scene.clock).2 := by
  rcases hformat : logger.layout.format record (scene.clockFor logger.clock) with ⟨result, clock⟩
  have hformatted : logger.formatted record scene.clock =
      (result, logger.clock.leaves scene.clock clock) := by
    rw [Logger.formatted, ← clockFor_eq, hformat]
  rw [hformatted]
  generalize hready : ({ scene with clock := logger.clock.leaves scene.clock clock } : Scene) =
    ready
  have houtlets : ready.outlets = scene.outlets := by rw [← hready]
  have hclock : ready.clock = logger.clock.leaves scene.clock clock := by rw [← hready]
  rw [← houtlets, ← hclock]
  rcases result with fault | line
  · rcases hpolicy : logger.policy with - | - | v
    · simp only [give, hformat, hpolicy, setClockFor_eq, hready]
      exact ⟨gives_writeThrough rfl record sink (ready.noteFailure fault),
        clock_writeThrough _ _ _ _ _⟩
    · simp only [give, hformat, hpolicy, setClockFor_eq, hready]
      exact gives_endProcess record sink ready fault
    · simp only [give, hformat, hpolicy, setClockFor_eq, hready]
      refine ⟨gives_meet rfl rfl record sink ready fun hpasses => ?_, (ready.meet_fst record _).1⟩
      simp [Fault.passesOn] at hpasses
  · simp only [give, hformat, setClockFor_eq, hready]
    exact ⟨gives_writeThrough rfl record sink ready, clock_writeThrough _ _ _ _ _⟩

/-! ### All sinks -/

/-- **What comes of giving a record to sinks in order**, for what it is formatted to for each: the
outlets afterwards, reports aside, and the ending of the call. -/
inductive Delivers (lineEnd : List Char) (policy : FailurePolicy) (ends : FormattingFault → Bool) :
    List Sink → List (Except FormattingFault String) → Outlets → Outlets → CallEnd → Prop
  | done {outlets : Outlets} : Delivers lineEnd policy ends [] [] outlets outlets .returned
  | goesOn {sink : Sink} {sinks : List Sink} {result : Except FormattingFault String}
      {results : List (Except FormattingFault String)} {outlets next last : Outlets}
      {ending : CallEnd} : Gives lineEnd policy ends sink outlets result next none →
      Delivers lineEnd policy ends sinks results next last ending →
      Delivers lineEnd policy ends (sink :: sinks) (result :: results) outlets last ending
  | stops {sink : Sink} {sinks : List Sink} {result : Except FormattingFault String}
      {results : List (Except FormattingFault String)} {outlets next : Outlets}
      {ending : CallEnd} : Gives lineEnd policy ends sink outlets result next (some ending) →
      Delivers lineEnd policy ends (sink :: sinks) (result :: results) outlets next ending

/-- Giving a record to a sink adds to what streams have received, and changes nothing else about
them. -/
theorem Gives.blanks {lineEnd : List Char} {policy : FailurePolicy} {ends : FormattingFault → Bool}
    {outlets next : Outlets} {result : Except FormattingFault String} {ending? : Option CallEnd}
    (h : Gives lineEnd policy ends sink outlets result next ending?) :
    next.blanks = outlets.blanks := by
  cases h with
  | written _ hwrite => exact Sink.blanks_write hwrite
  | _ => rfl

/-- **What comes of giving a record to sinks** is settled by what it is formatted to for each. -/
theorem delivers_deliver (platform : Platform) (logger : Logger) (record : Record)
    (sinks : List Sink) (scene : Scene) :
    Delivers platform.lineEnd logger.policy (scene.outlets.takesEnd record.frames) sinks
      (logger.results record sinks.length scene.clock) scene.outlets.withoutReports
      (deliver platform logger record sinks scene).1.outlets.withoutReports
      (deliver platform logger record sinks scene).2 := by
  induction sinks generalizing scene with
  | nil => exact .done
  | cons sink sinks ih =>
      obtain ⟨hgives, hclock⟩ := sink.gives_give platform logger record scene
      rw [List.length_cons, Logger.results, ← hclock]
      rcases hgiven : sink.give platform logger record scene with ⟨next, - | ending⟩
      · rw [hgiven] at hgives
        have hrest := ih next
        have hblanks : next.outlets.blanks = scene.outlets.blanks := hgives.blanks
        rw [Outlets.takesEnd_congr (congrFun hblanks .console)] at hrest
        simp only [deliver, hgiven]
        exact .goesOn hgives hrest
      · rw [hgiven] at hgives
        simp only [deliver, hgiven]
        exact .stops hgives

section

variable {lineEnd : List Char} {policy : FailurePolicy} {ends : FormattingFault → Bool}
  {results : List (Except FormattingFault String)} {outlets last : Outlets} {ending : CallEnd}
  {fault : Fault}

/-- **A record is handed over as its results say**, where all reports are heard, and in any case
when no fault is raised. -/
theorem Delivers.handsOver (h : Delivers lineEnd policy ends sinks results outlets last ending)
    (hquiet : outlets.Hears ∨ ∀ fault, ending ≠ .raised fault) :
    last = (handOver lineEnd (policy.handed ends sinks results) outlets).1 ∧
      ending = endOfHandover (handOver lineEnd (policy.handed ends sinks results) outlets).2
        (policy.ends? ends results) := by
  induction h with
  | done => exact ⟨rfl, rfl⟩
  | @goesOn sink sinks result results outlets next last ending hgives _ ih =>
      have hrest := ih (hquiet.imp_left (Outlets.hears_congr (congrFun hgives.blanks .console)).mpr)
      cases hgives with
      | written hline hwrite =>
          rw [FailurePolicy.handed_cons_of_line hline, handOver_cons_of_ok hwrite,
            FailurePolicy.ends?_cons_of_none (FailurePolicy.end?_of_line? hline ends)]
          exact hrest
      | passedOver hend hrefused =>
          rw [FailurePolicy.ends?_cons_of_none hend]
          rcases hline : policy.line? result with - | line
          · rw [FailurePolicy.handed_cons_of_none hend hline]
            exact hrest
          · obtain ⟨hrecurses, fault, hwrite⟩ := hrefused line hline
            rw [FailurePolicy.handed_cons_of_line hline, handOver_cons_of_error hwrite hrecurses]
            exact hrest
  | stops hgives =>
      cases hgives with
      | recursed hline hrecurses =>
          rw [FailurePolicy.handed_cons_of_line hline, handOver_cons_of_recurses hrecurses]
          exact ⟨rfl, rfl⟩
      | refused _ _ hrefuses =>
          rcases hquiet with hhears | hraised
          · exact absurd hrefuses (hhears.not_refuses _)
          · exact absurd rfl (hraised _)
      | aborted hend =>
          rw [FailurePolicy.handed_cons_of_end hend, FailurePolicy.ends?_cons_of_end hend]
          exact ⟨rfl, rfl⟩

/-- **A fault that ends the call** does so at one of the sinks. Those in front of it have been
handed what their results say, those behind it nothing, and its own stream has not taken a text. The
fault is one of recursion of that stream, or one with which standard error refuses a report. -/
theorem Delivers.exists_front
    (h : Delivers lineEnd policy ends sinks results outlets last (.raised fault)) :
    ∃ front sink back, sinks = front ++ sink :: back ∧
      handOver lineEnd (policy.handed ends front results) outlets = (last, false) ∧
      (∀ line, results[front.length]?.bind policy.line? = some line →
        ∃ cause, sink.write lineEnd line last = .error cause) ∧
      (fault = .stream (.failed .recursion) ∧ outlets.Recurses sink.handle ∨
        outlets.Refuses fault) := by
  generalize hending : CallEnd.raised fault = ending at h
  induction h with
  | done => simp at hending
  | @goesOn sink sinks result results outlets next last ending hgives _ ih =>
      obtain ⟨front, stopper, back, rfl, hfront, hrefused, hfault⟩ := ih hending
      refine ⟨sink :: front, stopper, back, rfl, ?_, hrefused, ?_⟩
      · cases hgives with
        | written hline hwrite =>
            rw [FailurePolicy.handed_cons_of_line hline, handOver_cons_of_ok hwrite]
            exact hfront
        | passedOver hend hpassed =>
            rcases hline : policy.line? result with - | line
            · rw [FailurePolicy.handed_cons_of_none hend hline]
              exact hfront
            · obtain ⟨hrecurses, cause, hwrite⟩ := hpassed line hline
              rw [FailurePolicy.handed_cons_of_line hline, handOver_cons_of_error hwrite hrecurses]
              exact hfront
      · rwa [Outlets.recurses_congr (Outlets.roles_eq_of_blanks hgives.blanks),
          Outlets.refuses_congr (congrFun hgives.blanks .console)] at hfault
  | @stops sink sinks result results outlets next ending hgives =>
      refine ⟨[], sink, sinks, rfl, ?_⟩
      cases hgives with
      | recursed hline hrecurses =>
          obtain rfl := CallEnd.raised.inj hending
          refine ⟨rfl, fun line _ => ⟨_, Sink.write_eq_recursion_iff.mpr hrecurses⟩,
            .inl ⟨rfl, hrecurses⟩⟩
      | refused _ hrefused hrefuses =>
          obtain rfl := CallEnd.raised.inj hending
          exact ⟨rfl, hrefused, .inr hrefuses⟩
      | aborted => simp at hending

/-- A record leaves what streams were before they received anything. -/
theorem Delivers.blanks (h : Delivers lineEnd policy ends sinks results outlets last ending) :
    last.blanks = outlets.blanks := by
  induction h with
  | done => rfl
  | goesOn hgives _ ih => exact ih.trans hgives.blanks
  | stops hgives => exact hgives.blanks

end

/-- The outlets and the ending of a record are those of a handover, reports aside. -/
def HandsOver (lineEnd : List Char) (handed : List (Sink × String))
    (fault? : Option FormattingFault) (outlets : Outlets) (delivered : Scene × CallEnd) : Prop :=
  delivered.1.outlets.withoutReports = (handOver lineEnd handed outlets.withoutReports).1 ∧
    delivered.2 = endOfHandover (handOver lineEnd handed outlets.withoutReports).2 fault?

/-- **A record is handed over as its results say**, where all reports are heard, and in any case
when no fault is raised. -/
theorem deliver_eq (platform : Platform) (logger : Logger) (record : Record) (sinks : List Sink)
    (scene : Scene) (hquiet : scene.outlets.Hears ∨
      ∀ fault, (deliver platform logger record sinks scene).2 ≠ .raised fault) :
    let results := logger.results record sinks.length scene.clock
    let ends := scene.outlets.takesEnd record.frames
    HandsOver platform.lineEnd (logger.policy.handed ends sinks results)
      (logger.policy.ends? ends results) scene.outlets
      (deliver platform logger record sinks scene) :=
  (delivers_deliver platform logger record sinks scene).handsOver hquiet

end TraceLog
