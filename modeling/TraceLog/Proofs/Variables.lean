import TraceLog.Proofs.Attempt
import TraceLog.Proofs.Trimming
import TraceLog.Replay

/-!
# Two Readers of the Variables

The environment variables are read in two places: by the loader of options, and by the command,
for the options that are not given on its command line. The command leaves that to a library, of
which no more is taken than what is documented (`OptionReader.Documented`). The two agree on most
texts, but not on all of them. `Replay.variables_read_alike_iff` says for each of the four settings
on which ones:

* The command takes an empty variable for one that is not set, so that an empty level or format is
  the standard one for it, and an empty text for the loader.
* Twelve words are documented as truth values for the command. The loader takes one word for true
  and everything else for false, so that five words are true for the command alone. Of other words
  nothing is documented: the command may refuse them.
* The loader trims a file path, and the command does not; and the command refuses a directory.

That paths differ as soon as their texts do when one is the other without the blanks around it is
due to `FilePath.blanks_ofText`: reading a path keeps all blanks.

## Main results

* `FilePath.ofText_strip_eq_iff`: trimming a path changes it unless there is nothing to trim.
* `OptionReader.standard_documented`: the library that the program runs with is as documented.
* `Replay.run_of_options?`: the command configures its gate with the options that are described.
* `Replay.variables_read_alike_iff`: where the two readers agree.
-/

namespace TraceLog

/-! ### Blanks of a path -/

namespace Text

/-- The blanks of a text. -/
def blanks (s : List Char) : List Char :=
  s.filter isBlank

/-- A text is trimmed when trimming keeps its blanks. -/
theorem trim_eq_self_of_blanks {s : List Char} (h : blanks (trim s) = blanks s) : trim s = s := by
  obtain ⟨before, after, hbefore, hafter, hs⟩ := exists_gaps_append_trim s
  have hall : blanks s = before ++ blanks (trim s) ++ after := by
    conv_lhs => rw [hs]
    rw [blanks, List.filter_append, List.filter_append, List.filter_eq_self.mpr hbefore,
      List.filter_eq_self.mpr hafter]
    rfl
  have hlength := congrArg List.length hall
  rw [h] at hlength
  simp only [List.length_append] at hlength
  have hbefore' : before = [] := List.length_eq_zero_iff.mp (by omega)
  have hafter' : after = [] := List.length_eq_zero_iff.mp (by omega)
  rw [hbefore', hafter'] at hs
  simpa using hs.symm

/-- Joining pieces adds no blanks, unless the separator is one. -/
theorem blanks_joinWith {sep : Char} (h : isBlank sep = false) (pieces : List (List Char)) :
    blanks (joinWith sep pieces) = pieces.flatMap blanks := by
  induction pieces with
  | nil => rfl
  | cons piece pieces ih =>
      cases pieces with
      | nil => simp [joinWith]
      | cons next pieces =>
          rw [joinWith, blanks, List.filter_append, List.filter_cons_of_neg (by simp [h])]
          · exact congrArg (blanks piece ++ ·) ih
          · simp

end Text

namespace FilePath

/-- The blanks of a path are those of its text. -/
theorem blanks_ofText (s : String) :
    (ofText s).parts.flatMap (fun part => Text.blanks part.toList) = Text.blanks s.toList := by
  have hdropped : ∀ pieces : List (List Char),
      (pieces.filter fun piece => piece ≠ [] ∧ piece ≠ ['.']).flatMap Text.blanks =
        pieces.flatMap Text.blanks := by
    intro pieces
    induction pieces with
    | nil => rfl
    | cons piece pieces ih =>
        by_cases hpiece : piece ≠ [] ∧ piece ≠ ['.']
        · rw [List.filter_cons_of_pos (by simpa using hpiece), List.flatMap_cons, ih,
            List.flatMap_cons]
        · have hnone : Text.blanks piece = [] := by
            rcases not_and_or.mp hpiece with hempty | hpoint
            · rw [not_not.mp hempty]
              rfl
            · rw [not_not.mp hpoint]
              rfl
          rw [List.filter_cons_of_neg (by simpa using hpiece), ih, List.flatMap_cons, hnone]
          rfl
  have hslash : Text.isBlank '/' = false := by decide
  have hjoined := Text.blanks_joinWith hslash (Text.splitOn '/' s.toList)
  rw [Text.joinWith_splitOn] at hjoined
  rw [hjoined, ← hdropped, ofText, List.flatMap_map]
  simp

/-- **Trimming the text of a path** changes the path unless there is nothing to trim. -/
theorem ofText_strip_eq_iff {s : String} : ofText (Text.strip s) = ofText s ↔ Text.strip s = s := by
  constructor
  · intro h
    have hblanks := blanks_ofText (Text.strip s)
    rw [h, blanks_ofText] at hblanks
    have hkept : Text.blanks (Text.trim s.toList) = Text.blanks s.toList := by
      rw [hblanks, Text.strip, String.toList_ofList]
    rw [Text.strip, Text.trim_eq_self_of_blanks hkept, String.ofList_toList]
  · exact congrArg ofText

end FilePath

/-! ### What the variables hold -/

namespace Options

/-- The text that the variable for the clock holds; the empty one if it is not set. -/
def switchText (environment : Variables) : String :=
  (environment.find? "SIMLOG_CLOCK_PREFIX").getD ""

/-- The text that the variable for the log file holds; the empty one if it is not set. -/
def fileText (environment : Variables) : String :=
  (environment.find? "SIMLOG_FILE_PATH").getD ""

variable {environment : Variables}

/-- The loader takes one word for true. -/
theorem clockPrefix_ofVariables (environment : Variables) :
    (ofVariables environment).clockPrefix =
      .bool (decide (wordOf (switchText environment) = "true")) := by
  have hword : ∀ s : String,
      (Text.smalls (Text.trim s.toList) == "true".toList) = decide (wordOf s = "true") := by
    intro s
    rw [Bool.eq_iff_iff, beq_iff_eq, decide_eq_true_iff, wordOf]
    constructor
    · intro h
      rw [h]
      rfl
    · intro h
      rw [← h, String.toList_ofList]
  refine congrArg Value.bool ?_
  rw [flagVariable, hword, switchText]
  rcases environment.find? "SIMLOG_CLOCK_PREFIX" with - | value
  · decide
  · rfl

/-- The loader trims the text of a path. -/
theorem filePath_ofVariables (environment : Variables) :
    (ofVariables environment).filePath =
      if Text.strip (fileText environment) = "" then none
      else some (.ofText (Text.strip (fileText environment))) := by
  rw [fileText, ofVariables]

end Options

/-! ### The library -/

namespace OptionReader

open Options

/-- The words of the standard reader are those that are documented, and the empty one. -/
theorem find?_booleans {word : String} {b : Bool}
    (h : word ∈ if b then trueWords else falseWords) :
    UsageFault.booleans.find? word = some b := by
  have hlisted : ∀ b, ∀ word ∈ if b then trueWords else falseWords,
      UsageFault.booleans.find? word = some b := by decide +kernel
  exact hlisted b word h

/-- The library that the program runs with is as documented. -/
theorem standard_documented : standard.Documented where
  counts_iff s := by simp [standard]
  truth_of_true s hword := by
    simp only [standard, readBoolean, find?_booleans (b := true) hword]
  truth_of_false s hword := by
    simp only [standard, readBoolean, find?_booleans (b := false) hword]
  refuses_directory directory tree path place hlocate hdirectory := by
    simp only [standard, checkNoDirectory, hlocate, hdirectory]
    split
    · simp
    · simp

variable {reader : OptionReader} {s : String}

/-- A text that the library has no truth value for is not listed. -/
theorem Documented.not_isListed (hdocumented : reader.Documented) (hne : s ≠ "")
    (h : ∀ b, reader.truth s ≠ .ok b) : ¬ IsListed s := by
  rintro (hempty | htrue | hfalse)
  · exact hne hempty
  · exact h true (hdocumented.truth_of_true s htrue)
  · exact h false (hdocumented.truth_of_false s hfalse)

/-- The truth value of a text is the loader's unless its word is another one that is documented to
be true, or nothing is documented of it and the library takes it for true. -/
theorem Documented.truth_eq_loader_iff (hdocumented : reader.Documented) {b : Bool} (hne : s ≠ "")
    (h : reader.truth s = .ok b) :
    b = decide (wordOf s = "true") ↔
      (wordOf s ∈ trueWords → wordOf s = "true") ∧
        (¬ IsListed s → reader.truth s ≠ .ok true) := by
  by_cases htrue : wordOf s ∈ trueWords
  · obtain rfl : b = true := Except.ok.inj (h.symm.trans (hdocumented.truth_of_true s htrue))
    simp [IsListed, htrue]
  · have hword : wordOf s ≠ "true" := by
      rintro heq
      rw [heq] at htrue
      exact htrue (by decide)
    by_cases hfalse : wordOf s ∈ falseWords
    · obtain rfl : b = false := Except.ok.inj (h.symm.trans (hdocumented.truth_of_false s hfalse))
      simp [IsListed, htrue, hfalse, hword]
    · simp [IsListed, htrue, hfalse, hword, hne, h]

end OptionReader

/-! ### The command without options -/

namespace Request

open Options

variable {reader : OptionReader} {directory : FilePath} {files : FileTree}
  {environment : Options.Variables} {path : String} {trace : TraceSource}

/-- What a variable holds, if it is not empty. -/
theorem setVariable?_eq (hdocumented : reader.Documented) (environment : Options.Variables)
    (name : String) :
    setVariable? reader environment name =
      if (environment.find? name).getD "" = "" then none
      else some ((environment.find? name).getD "") := by
  rcases hfind : environment.find? name with - | value
  · simp [setVariable?, hfind]
  · by_cases hempty : value = ""
    · simp [setVariable?, hfind, hempty, Option.filter, hdocumented.counts_iff]
    · have hcounts : reader.counts value = true := (hdocumented.counts_iff value).mpr hempty
      simp [setVariable?, hfind, hempty, Option.filter, hcounts]

/-- What the command reads in place of a default is what the loader reads, unless the variable is
empty. -/
theorem getD_setVariable?_eq_iff (hdocumented : reader.Documented) {name default : String}
    (h : default ≠ "") :
    (setVariable? reader environment name).getD default =
        (environment.find? name).getD default ↔
      environment.find? name ≠ some "" := by
  rw [setVariable?_eq hdocumented]
  rcases environment.find? name with - | value
  · simp
  · by_cases hempty : value = ""
    · simp [hempty, h]
    · simp [hempty]

/-- The log file that the command takes from its variable. -/
def variableFile (reader : OptionReader) (directory : FilePath) (files : FileTree)
    (environment : Options.Variables) : Except RequestFault (Option String) :=
  match setVariable? reader environment "SIMLOG_FILE_PATH" with
  | some path => do
    reader.checkFile directory files path
    return some path
  | none => .ok none

/-- The switch for the clock that the command takes from its variable. -/
def variableSwitch (reader : OptionReader) (environment : Options.Variables) :
    Except RequestFault Bool :=
  match setVariable? reader environment "SIMLOG_CLOCK_PREFIX" with
  | some value => reader.truth value
  | none => .ok false

/-- A command line with a trace and no options takes everything from the variables. -/
theorem ofArguments_of_no_settings (hopen : reader.openTrace directory files path = .ok trace) :
    ofArguments reader directory files environment { positional := [path] } = do
      let clockPrefix ← variableSwitch reader environment
      let file ← variableFile reader directory files environment
      return {
        trace
        level := (setVariable? reader environment "SIMLOG_LEVEL").getD "INFO"
        format := (setVariable? reader environment "SIMLOG_FORMAT").getD "level;message"
        clockPrefix
        file
        logLevel := "WARNING" } := by
  have hswitch : readClockPrefix reader environment { positional := [path] } =
      variableSwitch reader environment := rfl
  have hgiven : ({ positional := [path] } : Arguments).file? = none := rfl
  simp only [ofArguments, hopen, hswitch, hgiven]
  rcases variableSwitch reader environment with fault | clockPrefix
  · rfl
  rcases hpath : setVariable? reader environment "SIMLOG_FILE_PATH" with - | log
  · simp only [variableFile, hpath]
    rfl
  · rcases hcheck : reader.checkFile directory files log with fault | ⟨⟩
    · simp only [variableFile, hpath, hcheck]
      rfl
    · simp only [variableFile, hpath, hcheck]
      rfl

/-- The command asks the library for the truth value of a text that is not empty. -/
theorem variableSwitch_eq (hdocumented : reader.Documented) (environment : Options.Variables) :
    variableSwitch reader environment =
      if switchText environment = "" then .ok false
      else reader.truth (switchText environment) := by
  rw [variableSwitch, setVariable?_eq hdocumented, ← switchText]
  by_cases hempty : switchText environment = ""
  · rw [if_pos hempty, if_pos hempty]
  · rw [if_neg hempty, if_neg hempty]

/-- The command refuses the variable for the clock only if it holds a text that the library has no
truth value for. -/
theorem exists_variableSwitch_iff (hdocumented : reader.Documented) :
    (∃ b, variableSwitch reader environment = .ok b) ↔
      ¬ (switchText environment ≠ "" ∧ ∀ b, reader.truth (switchText environment) ≠ .ok b) := by
  rw [variableSwitch_eq hdocumented]
  by_cases hempty : switchText environment = ""
  · simp [hempty]
  · rw [if_neg hempty]
    simp only [ne_eq, hempty, not_false_eq_true, true_and, not_forall, not_not]

/-- The command and the loader take the same switch, unless the word is documented to be true and
is not the loader's, or the library takes one for true that is not listed. -/
theorem clockPrefix_eq_iff (hdocumented : reader.Documented) {b : Bool}
    (h : variableSwitch reader environment = .ok b) :
    Value.bool b = (Options.ofVariables environment).clockPrefix ↔
      (wordOf (switchText environment) ∈ OptionReader.trueWords →
        wordOf (switchText environment) = "true") ∧
      (¬ OptionReader.IsListed (switchText environment) →
        reader.truth (switchText environment) ≠ .ok true) := by
  rw [clockPrefix_ofVariables, Value.bool.injEq]
  rw [variableSwitch_eq hdocumented] at h
  by_cases hempty : switchText environment = ""
  · rw [if_pos hempty] at h
    obtain rfl : false = b := Except.ok.inj h
    have hword : wordOf "" = "" := by decide
    have hunlisted : "" ∉ OptionReader.trueWords := by decide
    simp [hempty, hword, hunlisted, OptionReader.IsListed]
  · rw [if_neg hempty] at h
    exact hdocumented.truth_eq_loader_iff hempty h

/-- The command takes the path as it is, if the library lets it pass. -/
theorem variableFile_eq (hdocumented : reader.Documented) (directory : FilePath)
    (files : FileTree) (environment : Options.Variables) :
    variableFile reader directory files environment =
      if fileText environment = "" then .ok none
      else (reader.checkFile directory files (fileText environment)).map
        fun _ => some (fileText environment) := by
  rw [variableFile, setVariable?_eq hdocumented, ← fileText]
  by_cases hempty : fileText environment = ""
  · rw [if_pos hempty, if_pos hempty]
  · rw [if_neg hempty, if_neg hempty]
    rcases hcheck : reader.checkFile directory files (fileText environment) with fault | ⟨⟩
    · simp only [hcheck]
      rfl
    · simp only [hcheck]
      rfl

/-- The command refuses the variable for the log file only if the library does not let it pass. -/
theorem exists_variableFile_iff (hdocumented : reader.Documented) :
    (∃ file, variableFile reader directory files environment = .ok file) ↔
      ¬ (fileText environment ≠ "" ∧
        reader.checkFile directory files (fileText environment) ≠ .ok ()) := by
  rw [variableFile_eq hdocumented]
  by_cases hempty : fileText environment = ""
  · simp [hempty]
  · rcases reader.checkFile directory files (fileText environment) with fault | ⟨⟩
    · simp [hempty, Except.map]
    · simp [hempty, Except.map]

/-- The command and the loader take the same file when there is nothing to trim. -/
theorem filePath_eq_iff (hdocumented : reader.Documented) {file : Option String}
    (h : variableFile reader directory files environment = .ok file) :
    file.map FilePath.ofText = (Options.ofVariables environment).filePath ↔
      Text.strip (fileText environment) = fileText environment := by
  rw [filePath_ofVariables]
  rw [variableFile_eq hdocumented] at h
  by_cases hempty : fileText environment = ""
  · rw [if_pos hempty] at h
    obtain rfl := Except.ok.inj h
    have hnothing : Text.strip "" = "" := by decide
    simp [hempty, hnothing]
  · rw [if_neg hempty] at h
    obtain ⟨-, -, rfl⟩ := map_eq_ok.mp h
    by_cases hblank : Text.strip (fileText environment) = ""
    · simp [hblank, Ne.symm hempty]
    · rw [if_neg hblank, Option.map_some, Option.some.injEq, eq_comm,
        FilePath.ofText_strip_eq_iff]

end Request

namespace Replay

open Options

/-- The options that the command gives to its gate, if it comes to that. -/
def options? (reader : OptionReader) (directory : FilePath) (arguments : List String)
    (environment : Options.Variables) (files : FileTree) : Option Options :=
  match reader.arguments arguments with
  | .error _ => none
  | .ok arguments =>
    if arguments.asksForHelp then none
    else
      match Request.ofArguments reader directory files environment arguments with
      | .error _ => none
      | .ok request => some (options request)

variable {reader : OptionReader} {platform : Platform} {directory : FilePath}
  {arguments : List String} {environment : Options.Variables} {files : FileTree} {path : String}
  {trace : TraceSource}

/-- **The command performs a request** with the options that it gives to its gate, or does nothing
at all, whatever library reads its command line. -/
theorem run_of_options? (reader : OptionReader) (platform : Platform) (moments : Nat → Moment)
    (arguments : List String) (environment : Options.Variables) (files : FileTree)
    (standardInput : List UInt8) :
    let result := run reader platform moments arguments environment standardInput files
    match options? reader platform.directory arguments environment files with
    | some given => ∃ request, options request = given ∧
        result = perform platform moments request standardInput files
    | none => result.scene = { outlets := { files } } := by
  intro result
  rcases hread : reader.arguments arguments with fault | given
  · simp only [options?, result, run, hread]
  rcases hhelp : given.asksForHelp with - | -
  · rcases hrequest : Request.ofArguments reader platform.directory files environment given with
      fault | request
    · cases fault with
      | usage fault => simp [options?, result, run, hread, hhelp, hrequest]
      | fault fault => simp [options?, result, run, hread, hhelp, hrequest]
    · simp only [options?, result, run, hread, hhelp, hrequest, Bool.false_eq_true, if_false]
      exact ⟨request, rfl, rfl⟩
  · simp [options?, result, run, hread, hhelp]

/-- The options of a command line with a trace and no options. -/
theorem options?_eq (hread : reader.arguments arguments = .ok { positional := [path] })
    (hopen : reader.openTrace directory files path = .ok trace) {given : Options} :
    options? reader directory arguments environment files = some given ↔
      ∃ clockPrefix file, Request.variableSwitch reader environment = .ok clockPrefix ∧
        Request.variableFile reader directory files environment = .ok file ∧
        given = {
          level := .text ((Request.setVariable? reader environment "SIMLOG_LEVEL").getD "INFO")
          format := .text
            ((Request.setVariable? reader environment "SIMLOG_FORMAT").getD "level;message")
          clockPrefix := .bool clockPrefix
          filePath := file.map FilePath.ofText } := by
  have hhelp : ({ positional := [path] } : Arguments).asksForHelp = false := rfl
  simp only [options?, hread, hhelp, Request.ofArguments_of_no_settings hopen]
  rcases Request.variableSwitch reader environment with fault | clockPrefix
  · simp [bind, Except.bind]
  rcases Request.variableFile reader directory files environment with fault | file
  · simp [bind, Except.bind]
  · simp [bind, Except.bind, pure, Except.pure, options, eq_comm]

/-- No options come to the gate exactly if one of the variables is refused. -/
theorem options?_eq_none_iff (hdocumented : reader.Documented)
    (hread : reader.arguments arguments = .ok { positional := [path] })
    (hopen : reader.openTrace directory files path = .ok trace) :
    options? reader directory arguments environment files = none ↔
      (switchText environment ≠ "" ∧ ∀ b, reader.truth (switchText environment) ≠ .ok b) ∨
        fileText environment ≠ "" ∧
          reader.checkFile directory files (fileText environment) ≠ .ok () := by
  have hgiven : (∃ given, options? reader directory arguments environment files = some given) ↔
      (∃ b, Request.variableSwitch reader environment = .ok b) ∧
        ∃ file, Request.variableFile reader directory files environment = .ok file := by
    constructor
    · rintro ⟨given, hgiven⟩
      obtain ⟨b, file, hswitch, hfile, -⟩ := (options?_eq hread hopen).mp hgiven
      exact ⟨⟨b, hswitch⟩, file, hfile⟩
    · rintro ⟨⟨b, hswitch⟩, file, hfile⟩
      exact ⟨_, (options?_eq hread hopen).mpr ⟨b, file, hswitch, hfile, rfl⟩⟩
  rw [Request.exists_variableSwitch_iff hdocumented,
    Request.exists_variableFile_iff hdocumented, ← not_or, ← Option.ne_none_iff_exists'] at hgiven
  exact not_iff_not.mp hgiven

/-- **Where the two readers agree.** Let a library that is as documented read a command line with a
trace that opens and no options.

* The command gives the gate options unless a variable is refused: the one for the clock that holds
  a text which is not listed as a truth value, and which the library has none for, or the one for
  the log file that the library does not let pass, as it never does for a directory.
* Otherwise the four settings are those of the loader exactly under these conditions. The level and
  the format are not set to the empty text. The clock is not switched on by one of the words that
  are documented to be true for the command alone, or by a text that is not listed and that the
  library takes for true. The path of the log file has no blanks around it. -/
theorem variables_read_alike_iff (hdocumented : reader.Documented)
    (hread : reader.arguments arguments = .ok { positional := [path] })
    (hopen : reader.openTrace directory files path = .ok trace) :
    (options? reader directory arguments environment files = none ↔
      (¬ OptionReader.IsListed (switchText environment) ∧
          ∀ b, reader.truth (switchText environment) ≠ .ok b) ∨
        fileText environment ≠ "" ∧
          reader.checkFile directory files (fileText environment) ≠ .ok ()) ∧
    (∀ place, fileText environment ≠ "" →
      files.locate directory (fileText environment) = .ok place → files.isDirectory place = true →
      options? reader directory arguments environment files = none) ∧
    ∀ given, options? reader directory arguments environment files = some given →
      (given.level = (Options.ofVariables environment).level ↔
        environment.find? "SIMLOG_LEVEL" ≠ some "") ∧
      (given.format = (Options.ofVariables environment).format ↔
        environment.find? "SIMLOG_FORMAT" ≠ some "") ∧
      (given.clockPrefix = (Options.ofVariables environment).clockPrefix ↔
        (wordOf (switchText environment) ∈ OptionReader.trueWords →
          wordOf (switchText environment) = "true") ∧
        (¬ OptionReader.IsListed (switchText environment) →
          reader.truth (switchText environment) ≠ .ok true)) ∧
      (given.filePath = (Options.ofVariables environment).filePath ↔
        Text.strip (fileText environment) = fileText environment) := by
  have hnone : options? reader directory arguments environment files = none ↔ _ :=
    options?_eq_none_iff hdocumented hread hopen
  refine ⟨hnone.trans (or_congr_left ?_), ?_, ?_⟩
  · constructor
    · exact fun ⟨hne, hrefused⟩ => ⟨hdocumented.not_isListed hne hrefused, hrefused⟩
    · exact fun ⟨hunlisted, hrefused⟩ => ⟨fun hempty => hunlisted (.inl hempty), hrefused⟩
  · intro place hne hlocate hdirectory
    exact hnone.mpr (.inr ⟨hne, hdocumented.refuses_directory _ _ _ place hlocate hdirectory⟩)
  · intro given hgiven
    obtain ⟨clockPrefix, file, hswitch, hfile, rfl⟩ := (options?_eq hread hopen).mp hgiven
    refine ⟨?_, ?_, Request.clockPrefix_eq_iff hdocumented hswitch,
      Request.filePath_eq_iff hdocumented hfile⟩
    · rw [← Request.getD_setVariable?_eq_iff hdocumented (show "INFO" ≠ "" by decide)]
      exact Value.text.injEq _ _ ▸ Iff.rfl
    · rw [← Request.getD_setVariable?_eq_iff hdocumented (show "level;message" ≠ "" by decide)]
      exact Value.text.injEq _ _ ▸ Iff.rfl

/-- A path with a blank behind it, and a clock that is switched on by a number: the command gives
the gate other settings than the loader, and the same level and format. -/
theorem variables_read_alike_iff_of_padded_path :
    let environment : Options.Variables :=
      [("SIMLOG_LEVEL", "fine"), ("SIMLOG_CLOCK_PREFIX", "1"), ("SIMLOG_FILE_PATH", "out.log ")]
    OptionReader.standard.Documented ∧
      OptionReader.standard.arguments ["-"] = .ok { positional := ["-"] } ∧
      OptionReader.standard.openTrace ⟨"/", []⟩ {} "-" = .ok .standardInput ∧
      ∃ given, options? .standard ⟨"/", []⟩ ["-"] environment {} = some given ∧
        given.level = (Options.ofVariables environment).level ∧
        given.format = (Options.ofVariables environment).format ∧
        given.clockPrefix ≠ (Options.ofVariables environment).clockPrefix ∧
        given.filePath ≠ (Options.ofVariables environment).filePath := by
  intro environment
  have hdocumented := OptionReader.standard_documented
  have hread : OptionReader.standard.arguments ["-"] = .ok { positional := ["-"] } := by
    decide +kernel
  have hopen : OptionReader.standard.openTrace ⟨"/", []⟩ {} "-" = .ok .standardInput := rfl
  obtain ⟨given, hgiven⟩ :
      ∃ given, options? .standard ⟨"/", []⟩ ["-"] environment {} = some given :=
    ⟨_, (options?_eq hread hopen).mpr ⟨true, some "out.log ", rfl, rfl, rfl⟩⟩
  obtain ⟨-, -, hsettings⟩ := variables_read_alike_iff hdocumented hread hopen
  obtain ⟨hlevel, hformat, hclock, hfile⟩ := hsettings given hgiven
  refine ⟨hdocumented, hread, hopen, given, hgiven, hlevel.mpr (by decide +kernel),
    hformat.mpr (by decide +kernel), hclock.not.mpr ?_, hfile.not.mpr (by decide +kernel)⟩
  -- the number is documented to be true, and is not the loader's word for that
  rintro ⟨hword, -⟩
  exact absurd (hword (by decide +kernel)) (by decide +kernel)

/-- A clock that is switched on by a number for the command, and not for the loader. -/
theorem switched_on_by_number :
    let environment : Options.Variables := [("SIMLOG_CLOCK_PREFIX", "1")]
    ∃ given, options? .standard ⟨"/", []⟩ ["-"] environment {} = some given ∧
      given.clockPrefix = .bool true ∧
      (Options.ofVariables environment).clockPrefix = .bool false := by
  intro environment
  have hread : OptionReader.standard.arguments ["-"] = .ok { positional := ["-"] } := by
    decide +kernel
  have hopen : OptionReader.standard.openTrace ⟨"/", []⟩ {} "-" = .ok .standardInput := rfl
  have hswitch : Request.variableSwitch .standard environment = .ok true := rfl
  refine ⟨_, (options?_eq hread hopen).mpr ⟨true, none, hswitch, rfl, rfl⟩, rfl, ?_⟩
  rw [clockPrefix_ofVariables]
  exact congrArg Value.bool (by decide +kernel)

end Replay

end TraceLog
