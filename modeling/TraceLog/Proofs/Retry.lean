import TraceLog.Proofs.Outlets
import TraceLog.Proofs.Run

/-!
# Trying Again After a Failure

A configuration that raises may be tried again with other options, and the attempts that
failed should not matter. This module states in which cases they do not, and what stops a
configuration at all.

## What stops a configuration

Six things are looked at, in this order: the format, the level, the clock, the host's logger,
the first sink, and the muting of the host's logger. `Gate.obstacles` lists the faults that
they raise. A configuration without overriding fields raises the first of them, and commits a
logger exactly when there is none.

## What an attempt leaves behind

An attempt that raises before its log file is open leaves the whole session as it was. Beside
a fault of muting there is one fault that comes later: a zero character in the path as it was
given is found after the absolute path was opened, if a `..` has taken it away there. The file
is emptied or made by then, so that such an attempt leaves the files as they were only if the
file was there and empty already.

## Main results

* `Gate.raised_configure_eq_findSome`: a configuration raises its first obstacle.
* `Gate.raised_configure_eq_none_iff`: when a configuration succeeds.
* `Session.step_of_attempt_failed`: a failed attempt leaves the session as it was.
* `Session.content?_step_of_refusedLate`: an attempt that is refused late empties its file.
* `Session.retry_after_failedAttempts`: the three facts together, over runs of attempts.
-/

namespace TraceLog

namespace Gate

variable {platform : Platform} {gate : Gate} {options : Options} {scene : Scene}

/-! ### The first obstacle -/

/-- The faults that the options alone raise, or what the host lacks for them. -/
def refusals (gate : Gate) (options : Options) : List (Option Fault) :=
  [faultOf? (FormatSpec.parse standardFields options.format),
    faultOf? (Level.parse options.level),
    if options.clockPrefix.isTrue && !gate.clock.isGiven then
      some (.refuse "clock_prefix" (.bool true) .noClock) else none,
    if options.suppressHost.isTrue && !gate.hostLogger.isGiven then
      some (.refuse "suppress_host_logger" (.bool true) .noHostLogger) else none]

/-- Everything that can stop a configuration without overriding fields: the format, the level,
the clock, the host's logger, the first sink, and the muting of the host's logger. -/
def obstacles (platform : Platform) (gate : Gate) (options : Options) (scene : Scene) :
    List (Option Fault) :=
  gate.refusals options ++
    [faultOf? (openSink platform options scene).2,
      (gate.muteHost options (openSink platform options scene).1).2]

/-- Options without overriding fields are the options themselves. -/
@[simp] theorem override_nil (options : Options) : options.override [] = .ok options := rfl

/-- Sound options without overriding fields are kept. -/
theorem options_of_validate_nil {settings : Settings}
    (h : gate.validate options [] = .ok settings) : settings.options = options := by
  obtain ⟨hoverride, -⟩ := validate_eq_ok_iff.mp h
  rw [override_nil] at hoverride
  exact (Except.ok.inj hoverride).symm

/-- Options are refused with their first refusal. -/
theorem faultOf?_validate (gate : Gate) (options : Options) :
    faultOf? (gate.validate options []) = (gate.refusals options).findSome? id := by
  rcases hspec : FormatSpec.parse standardFields options.format with fault | spec
  · simp [validate, refusals, hspec, faultOf?, bind, Except.bind]
  rcases hlevel : Level.parse options.level with fault | level
  · simp [validate, refusals, hspec, hlevel, faultOf?, bind, Except.bind]
  rcases hclock : options.clockPrefix.isTrue && !gate.clock.isGiven with - | -
  · rcases hhost : options.suppressHost.isTrue && !gate.hostLogger.isGiven with - | -
    · simp [validate, refusals, hspec, hlevel, hclock, hhost, faultOf?, bind, Except.bind, pure,
        Except.pure]
    · simp [validate, refusals, hspec, hlevel, hclock, hhost, faultOf?, bind, Except.bind,
        throw, throwThe, MonadExceptOf.throw]
  · simp [validate, refusals, hspec, hlevel, hclock, faultOf?, bind, Except.bind,
      throw, throwThe, MonadExceptOf.throw]

/-- With a short level, a configuration without overriding fields raises its first obstacle. -/
theorem raised_configure_eq_findSome (hgate : gate.committed = none)
    (hoptions : options.HasShortLevel) :
    (gate.configure platform options [] scene).raised =
      (obstacles platform gate options scene).findSome? id := by
  have hrefusals := faultOf?_validate gate options
  have houtcome := outcome_configure hgate platform options [] scene
  generalize gate.configure platform options [] scene = attempt at houtcome
  rw [obstacles, List.findSome?_append, ← hrefusals]
  cases houtcome with
  | invalid hvalid => simp [hvalid, faultOf?]
  | unopened hvalid hopen =>
      rw [options_of_validate_nil hvalid] at hopen
      simp [hvalid, hopen, faultOf?]
  | unmuted hvalid hopen hmute =>
      rw [options_of_validate_nil hvalid] at hopen hmute
      simp [hvalid, hopen, hmute, faultOf?]
  | committed hvalid hopen hmute =>
      have hshort := isShort_of_validate hvalid hoptions Options.giveShortLevels_nil
      rw [options_of_validate_nil hvalid] at hopen hmute
      simp [hvalid, hopen, hmute, raised_announce hshort, faultOf?]

/-! ### Success -/

/-- An outcome is no fault when it is a result. -/
theorem faultOf?_eq_none_iff {α : Type} {outcome : Except Fault α} :
    faultOf? outcome = none ↔ ∃ a, outcome = .ok a := by
  rcases outcome with fault | a
  · simp [faultOf?]
  · simp [faultOf?]

/-- The first sink opens when no file is asked for, or when the file opens and neither of the
two spellings of its path holds a zero character. -/
theorem faultOf?_openSink_eq_none_iff :
    faultOf? (openSink platform options scene).2 = none ↔
      ∀ path, options.filePath = some path →
        path.holdsZero = false ∧ (path.absolute platform.directory).holdsZero = false ∧
        ∃ opened, scene.outlets.openFile (path.absolute platform.directory).parts =
          .ok opened := by
  have hopening := opening_openSink platform options scene
  generalize openSink platform options scene = outcome at hopening
  obtain ⟨opened, sink⟩ := outcome
  cases hopening with
  | console hnone => simp [hnone, faultOf?]
  | refused hpath hzero => simp [hpath, hzero, faultOf?]
  | unopened hpath hzero hopen => simp [hpath, hopen, faultOf?]
  | refusedLate hpath hzero hopen hgiven => simp [hpath, hgiven, faultOf?]
  | file hpath hzero hopen hgiven => simp [hpath, hzero, hopen, hgiven, faultOf?]

/-- With a short level, a configuration without overriding fields raises nothing exactly when
the format and the level are read, the host brings what is asked for, the first sink opens,
and muting the host's logger does not fail. -/
theorem raised_configure_eq_none_iff (hgate : gate.committed = none)
    (hoptions : options.HasShortLevel) :
    (gate.configure platform options [] scene).raised = none ↔
      (∃ spec, FormatSpec.parse standardFields options.format = .ok spec) ∧
      (∃ level, Level.parse options.level = .ok level) ∧
      (options.clockPrefix.isTrue = true → gate.clock.isGiven = true) ∧
      (options.suppressHost.isTrue = true → gate.hostLogger.isGiven = true) ∧
      (∀ path, options.filePath = some path →
        path.holdsZero = false ∧ (path.absolute platform.directory).holdsZero = false ∧
        ∃ opened, scene.outlets.openFile (path.absolute platform.directory).parts =
          .ok opened) ∧
      (gate.muteHost options (openSink platform options scene).1).2 = none := by
  rw [raised_configure_eq_findSome hgate hoptions, List.findSome?_eq_none_iff]
  simp only [obstacles, refusals, List.cons_append, List.nil_append, List.forall_mem_cons, id]
  rw [faultOf?_eq_none_iff, faultOf?_eq_none_iff, faultOf?_openSink_eq_none_iff]
  simp

/-- With a short level, a configuration raises nothing exactly when it commits a logger. -/
theorem raised_eq_none_iff_committed {overrides : Table String Value}
    (hgate : gate.committed = none) (hoptions : options.HasShortLevel)
    (hoverrides : Options.GiveShortLevels overrides) :
    (gate.configure platform options overrides scene).raised = none ↔
      (gate.configure platform options overrides scene).gate.committed.isSome = true := by
  constructor
  · exact committed_of_raised_eq_none hgate
  · intro hcommitted
    rcases hraised : (gate.configure platform options overrides scene).raised with - | fault
    · rfl
    · rw [gate_eq_of_raised hgate hoptions hoverrides hraised, hgate] at hcommitted
      simp at hcommitted

end Gate

namespace Session

variable {session : Session} {source : Option OptionSource} {named : Table String Value}

/-! ### Attempts that fail -/

/-- A step configures the host's gate, and muting the host's logger fails. -/
def MutingFails (session : Session) (source : Option OptionSource)
    (named : Table String Value) : Prop :=
  ∃ options overrides, attempted source named = .ok (options, overrides) ∧
    Gate.MutingFails session.platform session.gate options overrides session.scene

/-- A step configures the host's gate, and is refused when its log file is open at `place`. -/
def RefusedLate (session : Session) (source : Option OptionSource) (named : Table String Value)
    (place : Place) : Prop :=
  ∃ options overrides, attempted source named = .ok (options, overrides) ∧
    Gate.RefusedLate session.platform session.gate options overrides session.scene place

/-- A step that raises on a gate without a logger, otherwise than by muting and not late,
leaves the session as it was. -/
theorem step_of_attempt_failed (hgate : session.gate.committed = none)
    (hshort : (Step.configure source named).GivesShortLevels) {fault : Fault}
    (h : (session.step (.configure source named)).2 = .raised fault)
    (hmuting : ¬ session.MutingFails source named)
    (hlate : ∀ place, ¬ session.RefusedLate source named place) :
    session.step (.configure source named) = (session, .raised fault) := by
  rcases hattempted : attempted source named with fault' | ⟨options, overrides⟩
  · rw [step_configure_of_not_attempted hgate hattempted] at h ⊢
    exact Prod.ext rfl h
  obtain ⟨hoptions, hoverrides⟩ := short_of_attempted hshort hattempted
  rw [step_configure_of_attempted hgate hattempted] at h ⊢
  rcases hraised : (session.gate.configure session.platform options overrides
      session.scene).raised with - | fault'
  · simp [finish, hraised, returned] at h
  have hattempt := Gate.configure_eq_of_raised hgate hoptions hoverrides hraised
    (fun hfails => hmuting ⟨options, overrides, hattempted, hfails⟩)
    (fun place hrefused => hlate place ⟨options, overrides, hattempted, hrefused⟩)
  rw [hattempt] at h ⊢
  exact Prod.ext rfl h

/-- A step that is refused late leaves its log file open and empty, and nothing else. -/
theorem step_of_refusedLate (hgate : session.gate.committed = none) {place : Place}
    (h : session.RefusedLate source named place) :
    ∃ handle outlets, session.scene.outlets.openFile place = .ok (handle, outlets) ∧
      session.step (.configure source named) =
        ({ session with scene := { session.scene with outlets } }, .raised .zeroCharacter) := by
  obtain ⟨options, overrides, hattempted, hrefused⟩ := h
  obtain ⟨handle, outlets, hopen, hattempt⟩ := Gate.configure_of_refusedLate hgate hrefused
  refine ⟨handle, outlets, hopen, ?_⟩
  rw [step_configure_of_attempted hgate hattempted, hattempt]
  rfl

/-- A step that is refused late empties its log file, or makes it. -/
theorem content?_step_of_refusedLate (hgate : session.gate.committed = none) {place : Place}
    (h : session.RefusedLate source named place) (other : Place) :
    (session.step (.configure source named)).1.scene.outlets.files.content? other =
      if other = place then some [] else session.scene.outlets.files.content? other := by
  obtain ⟨handle, outlets, hopen, hstep⟩ := step_of_refusedLate hgate h
  rw [hstep]
  exact Outlets.content?_openFile hopen other

/-- A step that raises on a gate without a logger, otherwise than by muting, leaves the files
as they were exactly when it is not refused late, or else the file was there and empty. -/
theorem files_unchanged_iff (hgate : session.gate.committed = none)
    (hshort : (Step.configure source named).GivesShortLevels) {fault : Fault}
    (h : (session.step (.configure source named)).2 = .raised fault)
    (hmuting : ¬ session.MutingFails source named) :
    (∀ place, (session.step (.configure source named)).1.scene.outlets.files.content? place =
        session.scene.outlets.files.content? place) ↔
      ∀ place, session.RefusedLate source named place →
        session.scene.outlets.files.content? place = some [] := by
  constructor
  · intro hsame place hlate
    rw [← hsame place, content?_step_of_refusedLate hgate hlate place, if_pos rfl]
  · intro hempty
    by_cases hlate : ∃ place, session.RefusedLate source named place
    · obtain ⟨place, hlate⟩ := hlate
      intro other
      rw [content?_step_of_refusedLate hgate hlate other]
      split
      · next hother => rw [hother, hempty place hlate]
      · rfl
    · rw [step_of_attempt_failed hgate hshort h hmuting fun place hrefused =>
        hlate ⟨place, hrefused⟩]
      exact fun place => rfl

/-- A step that raises on a gate without a logger, otherwise than by muting, leaves the gate
and the host's logger as they were. -/
theorem gate_and_host_of_attempt_failed (hgate : session.gate.committed = none)
    (hshort : (Step.configure source named).GivesShortLevels) {fault : Fault}
    (h : (session.step (.configure source named)).2 = .raised fault)
    (hmuting : ¬ session.MutingFails source named) :
    (session.step (.configure source named)).1.gate = session.gate ∧
      (session.step (.configure source named)).1.scene.host = session.scene.host := by
  by_cases hlate : ∃ place, session.RefusedLate source named place
  · obtain ⟨place, hlate⟩ := hlate
    obtain ⟨handle, outlets, -, hstep⟩ := step_of_refusedLate hgate hlate
    rw [hstep]
    exact ⟨rfl, rfl⟩
  · rw [step_of_attempt_failed hgate hshort h hmuting fun place hrefused =>
      hlate ⟨place, hrefused⟩]
    exact ⟨rfl, rfl⟩

/-! ### Runs of attempts that fail -/

/-- A run of attempts on the host's gate, each of which raises, otherwise than by muting and
not late. -/
inductive FailedAttempts : Session → List Step → Prop
  | nil {session : Session} : FailedAttempts session []
  | cons {session : Session} {source : Option OptionSource} {named : Table String Value}
      {fault : Fault} {steps : List Step} :
      (session.step (.configure source named)).2 = .raised fault →
      ¬ session.MutingFails source named →
      (∀ place, ¬ session.RefusedLate source named place) →
      FailedAttempts (session.step (.configure source named)).1 steps →
      FailedAttempts session (.configure source named :: steps)

/-- Each attempt of such a run leaves the session as it was. -/
theorem FailedAttempts.run_eq {steps : List Step} (h : session.FailedAttempts steps)
    (hgate : session.gate.committed = none) (hshort : ∀ step ∈ steps, step.GivesShortLevels) :
    ∀ entry ∈ session.run steps, entry.1 = session ∧ ∃ fault, entry.2 = .raised fault := by
  induction h with
  | nil => simp
  | @cons session source named fault steps hraised hmuting hlate _ ih =>
      have hstep := step_of_attempt_failed hgate (hshort _ List.mem_cons_self) hraised hmuting
        hlate
      rw [hstep] at ih
      rw [run_cons (by rw [hstep]; rfl), hstep]
      intro entry hentry
      rcases List.mem_cons.mp hentry with rfl | hentry
      · exact ⟨rfl, fault, rfl⟩
      · exact ih hgate (fun step hmem => hshort step (List.mem_cons_of_mem _ hmem)) entry hentry

/-- A run whose states are all the one that it started from ends in that state. -/
theorem final_eq_self {steps : List Step} (h : ∀ entry ∈ session.run steps, entry.1 = session) :
    session.final steps = session := by
  rw [final, List.getLastD_eq_getLast?]
  rcases hlast : ((session.run steps).map Prod.fst).getLast? with - | last
  · rfl
  · obtain ⟨entry, hentry, rfl⟩ := List.mem_map.mp (List.mem_of_getLast? hlast)
    exact h entry hentry

/-- Attempts that fail are not seen by anything that comes later. -/
theorem FailedAttempts.run_append {steps : List Step} (h : session.FailedAttempts steps)
    (hgate : session.gate.committed = none) (hshort : ∀ step ∈ steps, step.GivesShortLevels)
    (later : List Step) :
    session.run (steps ++ later) = session.run steps ++ session.run later := by
  have hrun := h.run_eq hgate hshort
  rw [Session.run_append ?_ later, final_eq_self fun entry hentry => (hrun entry hentry).1]
  intro entry hentry
  obtain ⟨-, fault, hending⟩ := hrun entry hentry
  rw [hending]
  rfl

/-! ### Trying again -/

/-- **Attempts that fail leave no trace.** Let a gate have no logger, and let no step give a
long integer for a level.

* After attempts each of which raises, otherwise than by muting the host's logger and before
  its file is open, the session is what it was, and whatever follows goes as it would have gone
  without them.
* A configuration without overriding fields succeeds exactly when the format and the level are
  read, the clock and the host's logger are there if they are asked for, the file opens, and
  muting does not fail; it raises the first of these faults, and commits a logger if it raises
  none.
* An attempt that raises, otherwise than by muting, always leaves the gate and the host's
  logger as they were. The files are as they were exactly when it was not refused late, or
  when its file was there and empty. -/
theorem retry_after_failedAttempts (hgate : session.gate.committed = none) {steps : List Step}
    (hfailed : session.FailedAttempts steps) (hshort : ∀ step ∈ steps, step.GivesShortLevels) :
    ((∀ entry ∈ session.run steps, entry.1 = session ∧ ∃ fault, entry.2 = .raised fault) ∧
      ∀ later, session.run (steps ++ later) = session.run steps ++ session.run later) ∧
    (∀ options : Options, options.HasShortLevel →
      let attempt := session.gate.configure session.platform options [] session.scene
      (attempt.raised = none ↔
        (∃ spec, FormatSpec.parse standardFields options.format = .ok spec) ∧
        (∃ level, Level.parse options.level = .ok level) ∧
        (options.clockPrefix.isTrue = true → session.gate.clock.isGiven = true) ∧
        (options.suppressHost.isTrue = true → session.gate.hostLogger.isGiven = true) ∧
        (∀ path, options.filePath = some path →
          path.holdsZero = false ∧ (path.absolute session.platform.directory).holdsZero = false ∧
          ∃ opened, session.scene.outlets.openFile
            (path.absolute session.platform.directory).parts = .ok opened) ∧
        (session.gate.muteHost options
          (Gate.openSink session.platform options session.scene).1).2 = none) ∧
      attempt.raised =
        (Gate.obstacles session.platform session.gate options session.scene).findSome? id ∧
      (attempt.raised = none ↔ attempt.gate.committed.isSome = true)) ∧
    (∀ (source : Option OptionSource) (named : Table String Value) (fault : Fault),
      (Step.configure source named).GivesShortLevels →
      (session.step (.configure source named)).2 = .raised fault →
      ¬ session.MutingFails source named →
      (session.step (.configure source named)).1.gate = session.gate ∧
      (session.step (.configure source named)).1.scene.host = session.scene.host ∧
      ((∀ place,
          (session.step (.configure source named)).1.scene.outlets.files.content? place =
            session.scene.outlets.files.content? place) ↔
        ∀ place, session.RefusedLate source named place →
          session.scene.outlets.files.content? place = some [])) := by
  refine ⟨⟨hfailed.run_eq hgate hshort, hfailed.run_append hgate hshort⟩, ?_, ?_⟩
  · intro options hoptions
    refine ⟨Gate.raised_configure_eq_none_iff hgate hoptions,
      Gate.raised_configure_eq_findSome hgate hoptions, ?_⟩
    exact Gate.raised_eq_none_iff_committed hgate hoptions Options.giveShortLevels_nil
  · intro source named fault hshort hraised hmuting
    obtain ⟨hsame, hhost⟩ := gate_and_host_of_attempt_failed hgate hshort hraised hmuting
    exact ⟨hsame, hhost, files_unchanged_iff hgate hshort hraised hmuting⟩

/-- A session with one file and nothing configured. -/
def holding (place : Place) (content : List UInt8) : Session :=
  { scene := { outlets := { files := { files := [(place, content)] } } } }

/-- Options with a file and a format without selectors. -/
def unselected : Option OptionSource :=
  some (.fields [("file_path", .text "out.log"), ("format", .text ";")])

/-- A format without selectors is refused any number of times, and the file that was asked for
along with it is kept. -/
theorem retry_after_refused_format :
    (holding ["out.log"] [0x6F]).FailedAttempts
        [.configure unselected [], .configure unselected []] ∧
      ∀ later,
        (holding ["out.log"] [0x6F]).run
            ([.configure unselected [], .configure unselected []] ++ later) =
          (holding ["out.log"] [0x6F]).run
              [.configure unselected [], .configure unselected []] ++
            (holding ["out.log"] [0x6F]).run later := by
  have hattempted : attempted unselected [] =
      .ok ({ format := .text ";", filePath := some (.ofText "out.log") }, []) := rfl
  have hstep : (holding ["out.log"] [0x6F]).step (.configure unselected []) =
      (holding ["out.log"] [0x6F], .raised (.refuse "format" (.text ";") .noSelector)) := rfl
  have hmuting : ¬ (holding ["out.log"] [0x6F]).MutingFails unselected [] := by
    rintro ⟨options, overrides, hother, hfails⟩
    obtain ⟨rfl, rfl⟩ := Prod.mk.inj (Except.ok.inj (hattempted.symm.trans hother))
    exact Gate.not_mutingFails_of_invalid rfl hfails
  have hlate : ∀ place, ¬ (holding ["out.log"] [0x6F]).RefusedLate unselected [] place := by
    rintro place ⟨options, overrides, hother, hrefused⟩
    obtain ⟨rfl, rfl⟩ := Prod.mk.inj (Except.ok.inj (hattempted.symm.trans hother))
    exact Gate.not_refusedLate_of_invalid rfl place hrefused
  have hfailed : (holding ["out.log"] [0x6F]).FailedAttempts
      [.configure unselected [], .configure unselected []] := by
    refine .cons (congrArg Prod.snd hstep) hmuting hlate ?_
    rw [hstep]
    refine .cons (congrArg Prod.snd hstep) hmuting hlate ?_
    rw [hstep]
    exact .nil
  have hshort : ∀ step ∈ [Step.configure unselected [], Step.configure unselected []],
      step.GivesShortLevels := by
    simp [Step.GivesShortLevels, unselected, Options.GiveShortLevels]
  exact ⟨hfailed, (retry_after_failedAttempts rfl hfailed hshort).1.2⟩

/-- Options with a file whose path holds a zero character in a name that is taken away by the
`..` behind it. -/
def takenAway : Option OptionSource :=
  some (.fields [("file_path", .text "x\x00/../out.log")])

/-- A path with a zero character that the absolute path lacks is refused when its file has been
emptied: nothing is muted and no logger is there, but the content is lost. -/
theorem content_lost_by_refused_path :
    ((holding ["out.log"] [0x6F]).step (.configure takenAway [])).2 = .raised .zeroCharacter ∧
      ¬ (holding ["out.log"] [0x6F]).MutingFails takenAway [] ∧
      ((holding ["out.log"] [0x6F]).step (.configure takenAway [])).1.gate.committed.isSome =
        false ∧
      (holding ["out.log"] [0x6F]).scene.outlets.files.content? ["out.log"] = some [0x6F] ∧
      ((holding ["out.log"] [0x6F]).step (.configure takenAway [])).1.scene.outlets.files.content?
        ["out.log"] = some [] := by
  have hattempted : attempted takenAway [] =
      .ok ({ filePath := some (.ofText "x\x00/../out.log") }, []) := rfl
  refine ⟨rfl, ?_, rfl, rfl, rfl⟩
  rintro ⟨options, overrides, hother, hfails⟩
  obtain ⟨rfl, rfl⟩ := Prod.mk.inj (Except.ok.inj (hattempted.symm.trans hother))
  exact Gate.RefusedLate.not_mutingFails ⟨_, _, _, _, rfl, rfl, rfl, rfl, rfl, rfl⟩ hfails

end Session

end TraceLog
