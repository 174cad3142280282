import TraceLog.Proofs.Variables

/-!
# The Two Loaders

Options are loaded from a mapping of properties or from environment variables. A setting
(`Options.Setting`) has a key in the mapping and a variable of its own, and the same texts may be
chosen in either place. Both loaders then give the same level, format and truth values. They treat
the file path differently: the one from variables trims it and takes an empty one for none, the one
from properties takes it as it is. The two paths are the same exactly when there was nothing to
trim, and something to name a file with.

## Main results

* `Options.ofProperties_of_texts`, `Options.ofVariables_of_texts`: the options that are loaded.
* `Options.loaders_agree`: what the two loaders give for the same texts.
-/

namespace TraceLog

namespace Options

/-- The five settings. -/
inductive Setting where
  | level
  | clockPrefix
  | format
  | filePath
  | suppressHost
  deriving DecidableEq, Repr

namespace Setting

/-- The key of a setting among the properties. -/
def key : Setting → String
  | level => "LogLevel"
  | clockPrefix => "LogCloudSimClock"
  | format => "LogFormat"
  | filePath => "FilePath"
  | suppressHost => "ShutStandardLogger"

/-- The environment variable of a setting. -/
def variableName : Setting → String
  | level => "SIMLOG_LEVEL"
  | clockPrefix => "SIMLOG_CLOCK_PREFIX"
  | format => "SIMLOG_FORMAT"
  | filePath => "SIMLOG_FILE_PATH"
  | suppressHost => "SIMLOG_SUPPRESS_HOST_LOGGER"

end Setting

variable {chosen : Setting → Option String} {properties : Table String Value}
  {environment : Variables}

/-- Whether a text that may be chosen for a setting is the word for true. -/
def isTrue (word? : Option String) : Bool :=
  word?.any fun word => Text.smalls (Text.trim word.toList) == "true".toList

/-- What both loaders give for the settings other than the file path. -/
def ofTexts (chosen : Setting → Option String) (filePath : Option FilePath) : Options where
  level := .text ((chosen .level).getD "INFO")
  clockPrefix := .bool (isTrue (chosen .clockPrefix))
  format := .text ((chosen .format).getD "level;message")
  filePath := filePath
  suppressHost := .bool (isTrue (chosen .suppressHost))

/-- A truth value among the properties, chosen as a text. -/
theorem parseFlag_of_text (word? : Option String) :
    parseFlag ((word?.map Value.text).getD (.bool false)) = .ok (isTrue word?) := by
  cases word? with
  | none => rfl
  | some word => rfl

/-- A text among the properties, or its default. -/
theorem plainText_of_text (default : String) (word? : Option String) :
    ((word?.map Value.text).getD (.text default)).plainText = .ok (word?.getD default) := by
  cases word? with
  | none => rfl
  | some word => rfl

/-- **Properties that are texts** are all taken. The file path is the one of the text. -/
theorem ofProperties_of_texts
    (h : ∀ setting : Setting, properties.find? setting.key = (chosen setting).map .text) :
    ofProperties properties = .ok (ofTexts chosen ((chosen .filePath).map .ofText)) := by
  have hlevel := h .level
  have hclock := h .clockPrefix
  have hformat := h .format
  have hfile := h .filePath
  have hhost := h .suppressHost
  simp only [Setting.key] at hlevel hclock hformat hfile hhost
  rw [ofProperties, hlevel, hclock, hformat, hfile, hhost, parseFlag_of_text, parseFlag_of_text,
    plainText_of_text, plainText_of_text]
  cases chosen .filePath with
  | none => rfl
  | some path => rfl

/-- A truth value among the variables. -/
theorem flagVariable_eq (environment : Variables) (name : String) :
    flagVariable environment name = isTrue (environment.find? name) := by
  rw [flagVariable]
  cases environment.find? name with
  | none => rfl
  | some word => rfl

/-- **Variables** are all taken. The file path is the one of the trimmed text, unless that is
empty. -/
theorem ofVariables_of_texts
    (h : ∀ setting : Setting, environment.find? setting.variableName = chosen setting) :
    ofVariables environment = ofTexts chosen
      (if Text.strip ((chosen .filePath).getD "") = "" then none
        else some (.ofText (Text.strip ((chosen .filePath).getD "")))) := by
  have hlevel := h .level
  have hclock := h .clockPrefix
  have hformat := h .format
  have hfile := h .filePath
  have hhost := h .suppressHost
  simp only [Setting.variableName] at hlevel hclock hformat hfile hhost
  rw [ofVariables, flagVariable_eq, flagVariable_eq, hlevel, hclock, hformat, hfile, hhost]
  rfl

/-- The path of a text is the one of the trimmed text where that counts, exactly for texts that are
trimmed and not empty. -/
theorem map_ofText_eq_iff (text? : Option String) :
    (text?.map FilePath.ofText =
      if Text.strip (text?.getD "") = "" then none
        else some (.ofText (Text.strip (text?.getD "")))) ↔
      ∀ text ∈ text?, text ≠ "" ∧ Text.IsTrimmed text.toList := by
  cases text? with
  | none => exact iff_of_true rfl (by simp)
  | some text =>
      simp only [Option.map_some, Option.getD_some, Option.mem_some_iff, forall_eq',
        ← Text.strip_eq_iff]
      by_cases hblank : Text.strip text = ""
      · rw [if_pos hblank]
        refine iff_of_false (by simp) ?_
        rintro ⟨hne, htrimmed⟩
        exact hne (htrimmed.symm.trans hblank)
      · rw [if_neg hblank, Option.some_inj, eq_comm, FilePath.ofText_strip_eq_iff]
        refine ⟨fun h => ⟨?_, h⟩, fun h => h.2⟩
        rintro rfl
        exact hblank rfl

/-- **The two loaders** agree on the level, the format and both truth values, whatever texts are
chosen for the settings. They agree on the file path exactly if none is chosen, or one that is not
empty and has no blank at either end. -/
theorem loaders_agree (chosen : Setting → Option String)
    (hproperties : ∀ setting : Setting,
      properties.find? setting.key = (chosen setting).map .text)
    (henvironment : ∀ setting : Setting,
      environment.find? setting.variableName = chosen setting) :
    ∃ options, ofProperties properties = .ok options ∧
      options.level = (ofVariables environment).level ∧
      options.format = (ofVariables environment).format ∧
      options.clockPrefix = (ofVariables environment).clockPrefix ∧
      options.suppressHost = (ofVariables environment).suppressHost ∧
      (options.filePath = (ofVariables environment).filePath ↔
        ∀ text ∈ chosen .filePath, text ≠ "" ∧ Text.IsTrimmed text.toList) := by
  refine ⟨_, ofProperties_of_texts hproperties, ?_⟩
  rw [ofVariables_of_texts henvironment]
  simp only [ofTexts, true_and]
  exact map_ofText_eq_iff (chosen .filePath)

/-- A path with a blank behind it is one path for the properties and another one for the
variables. -/
theorem loaders_agree_of_padded_path :
    let properties : Table String Value :=
      [("ShutStandardLogger", .text " True"), ("FilePath", .text "out.log "), ("Other", .null)]
    let environment : Variables :=
      [("SIMLOG_FILE_PATH", "out.log "), ("SIMLOG_SUPPRESS_HOST_LOGGER", " True")]
    ∃ options, ofProperties properties = .ok options ∧
      options.suppressHost = (ofVariables environment).suppressHost ∧
      options.filePath ≠ (ofVariables environment).filePath := by
  intro properties environment
  let chosen : Setting → Option String
    | .suppressHost => some " True"
    | .filePath => some "out.log "
    | _ => none
  have hproperties : ∀ setting : Setting,
      properties.find? setting.key = (chosen setting).map .text := by
    rintro (_ | _ | _ | _ | _) <;> simp [properties, chosen, Table.find?, Setting.key]
  have henvironment : ∀ setting : Setting,
      environment.find? setting.variableName = chosen setting := by
    rintro (_ | _ | _ | _ | _) <;> simp [environment, chosen, Table.find?, Setting.variableName]
  obtain ⟨options, hoptions, -, -, -, hhost, hfile⟩ :=
    loaders_agree chosen hproperties henvironment
  refine ⟨options, hoptions, hhost, hfile.not.mpr fun h => ?_⟩
  exact absurd (h "out.log " rfl).2 (by decide)

end Options

end TraceLog
