import TraceLog.Report
import TraceLog.Proofs.Writes

/-!
# What Standard Error Hears

Reports go to standard error and nowhere else: apart from the reports, the outlets are as before
(`Outlets.withoutReports`). Whether standard error refuses a piece of a report is settled by what it
was before it received anything, so that no write and no report changes that.

Standard error hears all reports (`Outlets.Hears`) when it refuses none of their pieces with a fault
that a handler raises: it is missing, an open stream of text that takes every text, or one that
fails with a fault of the system. Then a handler raises no fault but one of recursion of its own
stream. Any other fault that a handler raises is one with which standard error refuses a piece
(`Outlets.Refuses`).

## Main results

* `Outlets.withoutReports_meet`, `Outlets.withoutReports_reportEnd`: what reports leave alone.
* `Outlets.snd_reportEnd_congr`: what keeps the process from ending.
* `Outlets.hears_iff`: the streams that hear all reports.
* `Outlets.raised_of_meet`: what a handler raises.
-/

namespace TraceLog

/-- Of the faults of streams, handlers pass on those of recursion. -/
theorem Fault.passesOn_stream_iff {fault : StreamFault} :
    (Fault.stream fault).passesOn = true ↔ fault = .failed .recursion := by
  rcases fault with - | - | failure | -
  · simp [Fault.passesOn]
  · simp [Fault.passesOn]
  · cases failure with
    | _ => simp [Fault.passesOn]
  · simp [Fault.passesOn]

/-! ### Streams -/

namespace Stream

variable {stream : Stream}

/-- Whether a text is refused does not depend on what the stream has received. -/
theorem refusal?_blank (s : String) (stream : Stream) :
    stream.blank.refusal? s = stream.refusal? s := by
  obtain ⟨device, closed⟩ := stream
  cases device with
  | bare content => rfl
  | failing binary failure => rfl
  | ascii content =>
      cases closed with
      | true => rfl
      | false =>
          rcases hascii : Text.firstBeyondAscii? s.toList with - | run
          · simp [refusal?, blank, receive, writeText, hascii]
          · simp [refusal?, blank, receive, writeText, hascii]
  | _ =>
      cases closed with
      | _ => rfl

/-- What keeps a stream from being flushed, when there may be something else in its place. -/
def unflushed? (stream : Stream) : Option Fault :=
  match stream.device with
  | .bare _ => some (.noAttribute "object" "flush")
  | _ => stream.flush?.map .stream

/-- What a stream has received does not matter for that. -/
theorem unflushed?_blank (stream : Stream) : stream.blank.unflushed? = stream.unflushed? := by
  obtain ⟨device, closed⟩ := stream
  cases device with
  | _ => rfl

/-- Whether a stream refuses no text, but with a fault of the system. -/
def hears (stream : Stream) : Bool :=
  match stream.device with
  | .bare _ => true
  | .text _ | .crlf _ | .discard | .file .. => !stream.closed
  | .failing _ .system => true
  | _ => false

/-- **The streams that refuse no text**, but with a fault of the system. -/
theorem hears_iff (stream : Stream) :
    stream.hears = true ↔ ∀ s fault, stream.refusal? s = some fault → fault = .failed .system := by
  obtain ⟨device, closed⟩ := stream
  cases device with
  | bare content => simp [hears, refusal?, writeText]
  | failing binary failure =>
      cases failure with
      | _ => simp [hears, refusal?, writeText]
  | ascii content =>
      refine iff_of_false (by simp [hears]) fun hall => ?_
      cases closed with
      | true => exact absurd (hall "" _ rfl) (by simp [closedFault])
      | false => exact absurd (hall "é" (.notAscii 0 ['é']) rfl) (by simp)
  | _ =>
      cases closed with
      | true => simp [hears, refusal?, writeText, closedFault]
      | false => simp [hears, refusal?, writeText]

end Stream

namespace Outlets

variable {outlets outlets' : Outlets} {fault raised : Fault}

/-! ### What reports leave alone -/

/-- The outlets apart from the reports on standard error. -/
def withoutReports (outlets : Outlets) : Outlets :=
  { outlets with reports := [] }

/-- Without the reports the streams are the same. -/
@[simp] theorem find?_withoutReports (outlets : Outlets) (handle : Handle) :
    outlets.withoutReports.find? handle = outlets.find? handle := rfl

/-- So are the files. -/
@[simp] theorem files_withoutReports (outlets : Outlets) :
    outlets.withoutReports.files = outlets.files := rfl

/-- So is what the streams were before they received anything. -/
@[simp] theorem blanks_withoutReports (outlets : Outlets) :
    outlets.withoutReports.blanks = outlets.blanks := rfl

/-- Reports do not matter for which streams fail with a fault of recursion. -/
@[simp] theorem recurses_withoutReports (outlets : Outlets) (handle : Handle) :
    outlets.withoutReports.Recurses handle ↔ outlets.Recurses handle := .rfl

/-- Outlets that are the same apart from the reports have the same streams. -/
theorem find?_congr (h : outlets'.withoutReports = outlets.withoutReports) (handle : Handle) :
    outlets'.find? handle = outlets.find? handle := by
  rw [← find?_withoutReports, h, find?_withoutReports]

/-- They have the same files. -/
theorem files_congr (h : outlets'.withoutReports = outlets.withoutReports) :
    outlets'.files = outlets.files := by
  rw [← files_withoutReports, h, files_withoutReports]

/-- Their streams were the same before they received anything. -/
theorem blanks_congr (h : outlets'.withoutReports = outlets.withoutReports) :
    outlets'.blanks = outlets.blanks := by
  rw [← blanks_withoutReports, h, blanks_withoutReports]

/-- The fault with which standard error refuses a piece of a report, if it does. -/
def refusal? (piece : String) (outlets : Outlets) : Option StreamFault :=
  (outlets.find? .console).bind (Stream.refusal? piece)

/-- A piece of a report is refused, or there is one more report, unless there is no standard
error. -/
theorem reportPiece_eq (piece : String) (outlets : Outlets) :
    outlets.reportPiece piece = match outlets.refusal? piece with
      | some fault => .error fault
      | none => .ok { outlets with reports := outlets.reports ++
          ((outlets.find? .console).map fun stream => ⟨stream.device.extent, piece⟩).toList } := by
  rcases hfind : outlets.find? .console with - | stream
  · simp only [reportPiece, refusal?, hfind, Option.bind_none, Option.map_none, Option.toList_none,
      List.append_nil]
  · rcases hrefused : stream.refusal? piece with - | fault
    · simp only [reportPiece, refusal?, hfind, hrefused, Option.bind_some, Option.map_some,
        Option.toList_some]
    · simp only [reportPiece, refusal?, hfind, hrefused, Option.bind_some]

/-- What standard error refuses is settled by what it was before it received anything. -/
theorem refusal?_congr (h : outlets'.blanks .console = outlets.blanks .console) (piece : String) :
    outlets'.refusal? piece = outlets.refusal? piece := by
  have hblank : ∀ given : Outlets,
      given.refusal? piece = (given.blanks .console).bind (Stream.refusal? piece) := by
    intro given
    rw [refusal?, blanks]
    rcases given.find? .console with - | stream
    · rfl
    · exact (stream.refusal?_blank piece).symm
  rw [hblank, hblank, h]

/-- A piece of a report changes nothing but the reports. -/
theorem withoutReports_reportPiece {piece : String}
    (h : outlets.reportPiece piece = .ok outlets') :
    outlets'.withoutReports = outlets.withoutReports := by
  rw [reportPiece_eq] at h
  rcases hrefusal : outlets.refusal? piece with - | fault
  · rw [hrefusal] at h
    obtain rfl := Except.ok.inj h
    rfl
  · simp [hrefusal] at h

/-- Nor does a whole report. -/
theorem withoutReports_report (pieces : List String) (outlets : Outlets) :
    (outlets.report pieces).1.withoutReports = outlets.withoutReports := by
  induction pieces generalizing outlets with
  | nil => rfl
  | cons piece pieces ih =>
      rcases hpiece : outlets.reportPiece piece with fault | next
      · simp only [report, hpiece]
      · simp only [report, hpiece]
        rw [ih, withoutReports_reportPiece hpiece]

/-- Nor does the report on a fault of a handler. -/
theorem withoutReports_reportFault (report : Report) (outlets : Outlets) :
    (outlets.reportFault report).1.withoutReports = outlets.withoutReports := by
  have hopening := withoutReports_report report.opening outlets
  rcases hreport : outlets.report report.opening with ⟨opened, - | fault⟩
  · rw [hreport] at hopening
    have hlast := withoutReports_report [Report.unprintable] opened
    simp only [reportFault, hreport]
    split
    · next next hclosing =>
      obtain ⟨piece, -, hpiece⟩ := Option.map_eq_some_iff.mp hclosing
      exact (withoutReports_reportPiece hpiece).trans hopening
    · exact hopening
    · exact hlast.trans hopening
    · exact hlast.trans hopening
  · rw [hreport] at hopening
    simp only [reportFault, hreport]
    exact hopening

/-- **A fault that a handler meets leaves nothing but a report.** -/
theorem withoutReports_meet (report : Fault → Report) (fault : Fault) (outlets : Outlets) :
    (outlets.meet report fault).1.withoutReports = outlets.withoutReports := by
  rw [meet]
  split
  · rfl
  · exact withoutReports_reportFault (report fault) outlets

/-- **The report with which the process ends leaves nothing else.** -/
theorem withoutReports_reportEnd (pieces : List String) (outlets : Outlets) :
    (outlets.reportEnd pieces).1.withoutReports = outlets.withoutReports := by
  have hreport := withoutReports_report pieces outlets
  rw [reportEnd]
  rcases hpieces : outlets.report pieces with ⟨next, - | fault⟩
  · rwa [hpieces] at hreport
  · rwa [hpieces] at hreport

/-! ### What is raised on a report -/

/-- Pieces are refused with the fault of the first one that is refused. -/
theorem snd_report (pieces : List String) (outlets : Outlets) :
    (outlets.report pieces).2 = pieces.findSome? fun piece => outlets.refusal? piece := by
  induction pieces generalizing outlets with
  | nil => rfl
  | cons piece pieces ih =>
      rw [List.findSome?_cons]
      rcases hrefusal : outlets.refusal? piece with - | fault
      · have hpiece := reportPiece_eq piece outlets
        rw [hrefusal] at hpiece
        simp only [report, hpiece]
        exact ih _
      · have hpiece := reportPiece_eq piece outlets
        rw [hrefusal] at hpiece
        simp only [report, hpiece]

/-- **Pieces that are all taken** stand behind the other reports, at one place. -/
theorem report_of_taken {pieces : List String} {stream : Stream}
    (hfind : outlets.find? .console = some stream) (h : (outlets.report pieces).2 = none) :
    (outlets.report pieces).1 = { outlets with
      reports := outlets.reports ++ pieces.map (⟨stream.device.extent, ·⟩) } := by
  induction pieces generalizing outlets with
  | nil =>
      rw [List.map_nil, List.append_nil]
      rfl
  | cons piece pieces ih =>
      rcases hrefusal : outlets.refusal? piece with - | fault
      · have hpiece := reportPiece_eq piece outlets
        rw [hrefusal, hfind] at hpiece
        simp only [report, hpiece] at h ⊢
        rw [ih (by exact hfind) h]
        simp only [Option.map_some, Option.toList_some, List.append_assoc, List.singleton_append,
          List.map_cons]
      · rw [snd_report, List.findSome?_cons, hrefusal] at h
        simp at h

/-- What gets out of a report is settled by the pieces that are refused. -/
theorem snd_reportFault (report : Report) (outlets : Outlets) :
    (outlets.reportFault report).2 =
      match report.opening.findSome? fun piece => outlets.refusal? piece, report.closing with
      | some fault, _ => escaping? (some fault)
      | none, some piece =>
        match outlets.refusal? piece with
        | none => none
        | some (.failed .recursion) => some (.failed .recursion)
        | some _ => escaping? (outlets.refusal? Report.unprintable)
      | none, none => escaping? (outlets.refusal? Report.unprintable) := by
  rcases hreport : outlets.report report.opening with ⟨opened, fault?⟩
  have hopening := snd_report report.opening outlets
  have hsame := withoutReports_report report.opening outlets
  rw [hreport] at hopening hsame
  have hconsole : opened.blanks .console = outlets.blanks .console :=
    congrFun (blanks_congr hsame) .console
  have hlast : (opened.report [Report.unprintable]).2 = outlets.refusal? Report.unprintable := by
    rw [snd_report, ← refusal?_congr hconsole, List.findSome?_cons]
    rcases opened.refusal? Report.unprintable with - | fault
    · rfl
    · rfl
  rcases fault? with - | fault
  · simp only [reportFault, hreport, ← hopening]
    rcases hclosing : report.closing with - | piece
    · simp only [Option.map_none, hlast]
    · simp only [Option.map_some, reportPiece_eq, refusal?_congr hconsole]
      rcases outlets.refusal? piece with - | fault
      · rfl
      · cases fault with
        | failed failure =>
            cases failure with
            | recursion => rfl
            | system => simp only [hlast]
            | value => simp only [hlast]
        | _ => simp only [hlast]
  · simp only [reportFault, hreport, ← hopening]

/-- What keeps standard error from being flushed is settled by what it was. -/
theorem consoleFlush?_congr (h : outlets'.blanks .console = outlets.blanks .console) :
    outlets'.consoleFlush? = outlets.consoleFlush? := by
  have hblank : ∀ given : Outlets, given.consoleFlush? =
      (given.blanks .console).elim (some (.noAttribute (Value.kindName .null) "flush"))
        Stream.unflushed? := by
    intro given
    rw [consoleFlush?, blanks]
    rcases given.find? .console with - | stream
    · rfl
    · exact stream.unflushed?_blank.symm
  rw [hblank, hblank, h]

/-- **What keeps the process from ending** is settled by what standard error was before it received
anything. -/
theorem snd_reportEnd (pieces : List String) (outlets : Outlets) :
    (outlets.reportEnd pieces).2 =
      match pieces.findSome? fun piece => outlets.refusal? piece with
      | some fault => some (.stream fault)
      | none => outlets.consoleFlush? := by
  have hreport := snd_report pieces outlets
  have hsame := withoutReports_report pieces outlets
  rw [reportEnd]
  rcases hpieces : outlets.report pieces with ⟨next, - | fault⟩
  · rw [hpieces] at hreport hsame
    simp only [← hreport]
    exact consoleFlush?_congr (congrFun (blanks_congr hsame) .console)
  · rw [hpieces] at hreport
    simp only [← hreport]

/-- **What keeps the process from ending is settled by what standard error was** before it received
anything. -/
theorem snd_reportEnd_congr (h : outlets'.blanks .console = outlets.blanks .console)
    (pieces : List String) :
    (outlets'.reportEnd pieces).2 = (outlets.reportEnd pieces).2 := by
  simp only [snd_reportEnd, refusal?_congr h, consoleFlush?_congr h]

/-! ### Hearing -/

/-- Standard error refuses some piece of a report with this fault, which handlers do not keep
back. -/
def Refuses (outlets : Outlets) (fault : Fault) : Prop :=
  ∃ piece cause, outlets.refusal? piece = some cause ∧ cause ≠ .failed .system ∧
    fault = .stream cause

/-- Standard error refuses no piece of any report, unless with a fault of the system. -/
def Hears (outlets : Outlets) : Prop :=
  ∀ piece fault, outlets.refusal? piece = some fault → fault = .failed .system

/-- Whether standard error hears all reports is settled by what it was. -/
theorem hears_congr (h : outlets'.blanks .console = outlets.blanks .console) :
    outlets'.Hears ↔ outlets.Hears := by
  simp only [Hears, refusal?_congr h]

/-- So is what it refuses reports with. -/
theorem refuses_congr (h : outlets'.blanks .console = outlets.blanks .console) (fault : Fault) :
    outlets'.Refuses fault ↔ outlets.Refuses fault := by
  simp only [Refuses, refusal?_congr h]

/-- What hears all reports refuses none. -/
theorem Hears.not_refuses (h : outlets.Hears) (fault : Fault) : ¬ outlets.Refuses fault := by
  rintro ⟨piece, cause, hrefusal, hcause, -⟩
  exact hcause (h piece cause hrefusal)

/-- **All reports are heard** where there is no standard error, and by a stream that refuses no text
but with a fault of the system. -/
theorem hears_iff :
    outlets.Hears ↔ ∀ stream, outlets.find? .console = some stream → stream.hears = true := by
  rcases hfind : outlets.find? .console with - | stream
  · simp [Hears, refusal?, hfind]
  · simp only [Hears, refusal?, hfind, Option.bind_some, Option.some.injEq, forall_eq',
      Stream.hears_iff]

instance (outlets : Outlets) : Decidable outlets.Hears :=
  decidable_of_iff ((outlets.find? .console).all Stream.hears = true) <| by
    rw [hears_iff]
    rcases outlets.find? .console with - | stream
    · simp
    · simp

/-- What gets out of a report is what standard error refuses a piece with. -/
theorem refuses_of_snd_reportFault {report : Report} {cause : StreamFault}
    (h : (outlets.reportFault report).2 = some cause) : outlets.Refuses (.stream cause) := by
  have hescaping : ∀ piece, escaping? (outlets.refusal? piece) = some cause →
      outlets.Refuses (.stream cause) := by
    intro piece hpiece
    rw [escaping?.eq_def] at hpiece
    split at hpiece
    · simp at hpiece
    · next hsystem =>
      refine ⟨piece, cause, hpiece, ?_, rfl⟩
      rintro rfl
      exact hsystem hpiece
  rw [snd_reportFault] at h
  rcases hopening : report.opening.findSome? fun piece => outlets.refusal? piece with - | first
  · rw [hopening] at h
    rcases hclosing : report.closing with - | piece
    · simp only [hclosing] at h
      exact hescaping _ h
    · simp only [hclosing] at h
      split at h
      · simp at h
      · next hrecursion =>
        obtain rfl := Option.some.inj h
        exact ⟨piece, _, hrecursion, by simp, rfl⟩
      · exact hescaping _ h
  · simp only [hopening] at h
    obtain ⟨piece, -, hpiece⟩ := List.exists_of_findSome?_eq_some hopening
    rw [← hpiece] at h
    exact hescaping piece h

/-- **What a handler raises**: the fault that it meets, if that is one of recursion, or what
standard error refuses the report with. -/
theorem raised_of_meet {report : Fault → Report}
    (h : (outlets.meet report fault).2 = some raised) :
    fault.passesOn = true ∧ raised = fault ∨
      fault.passesOn = false ∧ outlets.Refuses raised := by
  rcases hpasses : fault.passesOn with - | -
  · simp only [meet, hpasses, Bool.false_eq_true, if_false] at h
    obtain ⟨cause, hcause, rfl⟩ := Option.map_eq_some_iff.mp h
    exact .inr ⟨rfl, refuses_of_snd_reportFault hcause⟩
  · simp only [meet, hpasses, if_true, Option.some.injEq] at h
    exact .inl ⟨rfl, h.symm⟩

/-- A fault that is not one of recursion is not raised where all reports are heard. -/
theorem Hears.snd_meet (h : outlets.Hears) (hpasses : fault.passesOn = false)
    (report : Fault → Report) : (outlets.meet report fault).2 = none := by
  rcases hmeet : (outlets.meet report fault).2 with - | raised
  · rfl
  · rcases raised_of_meet hmeet with ⟨hrecursion, -⟩ | ⟨-, hrefuses⟩
    · rw [hpasses] at hrecursion
      exact absurd hrecursion (by decide)
    · exact absurd hrefuses (h.not_refuses raised)

/-- What keeps the process from ending is nothing that a handler passes on, unless standard error
refuses a piece with it. -/
theorem refuses_of_snd_reportEnd {pieces : List String}
    (h : (outlets.reportEnd pieces).2 = some fault) (hpasses : fault.passesOn = true) :
    outlets.Refuses fault := by
  rw [snd_reportEnd] at h
  rcases hpieces : pieces.findSome? fun piece => outlets.refusal? piece with - | cause
  · rw [hpieces] at h
    simp only [consoleFlush?] at h
    split at h
    · obtain rfl := Option.some.inj h
      simp [Fault.passesOn] at hpasses
    · split at h
      · obtain rfl := Option.some.inj h
        simp [Fault.passesOn] at hpasses
      · next stream _ _ =>
        obtain ⟨cause, hcause, rfl⟩ := Option.map_eq_some_iff.mp h
        rw [Stream.flush?] at hcause
        split at hcause
        · simp at hcause
        · simp at hcause
        · split at hcause
          · obtain rfl := Option.some.inj hcause
            rw [Fault.passesOn_stream_iff, Stream.closedFault] at hpasses
            split at hpasses
            · simp at hpasses
            · simp at hpasses
          · simp at hcause
  · simp only [hpieces, Option.some.injEq] at h
    subst h
    obtain ⟨piece, -, hpiece⟩ := List.exists_of_findSome?_eq_some hpieces
    refine ⟨piece, cause, hpiece, ?_, rfl⟩
    rintro rfl
    simp [Fault.passesOn_stream_iff] at hpasses

end Outlets

end TraceLog
