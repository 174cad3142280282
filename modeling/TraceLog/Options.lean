import TraceLog.Fault
import TraceLog.Text.Blank
import TraceLog.Text.Letter

/-!
# Options

The five settings of a logger, from explicit fields, from a mapping of property keys, or from
environment variables. The values are kept as they are given; whether they make sense is
decided when the logger is configured. Only the file path is converted at once.

## Main definitions

* `Options`: the settings, with their defaults.
* `Options.override`, `Options.ofFields`: settings by their field names.
* `Options.ofProperties`, `Options.ofVariables`: the two loaders.
* `Options.parseFlag`: the one spelling of true.
-/

namespace TraceLog

/-- The settings of a logger. -/
structure Options where
  /-- The threshold: a level name or number. -/
  level : Value := .text "INFO"
  /-- Whether lines start with the virtual time. -/
  clockPrefix : Value := .bool false
  /-- The selected fields. -/
  format : Value := .text "level;message"
  /-- The file that lines go to, in place of the console. -/
  filePath : Option FilePath := none
  /-- Whether the host's own logger is muted. -/
  suppressHost : Value := .bool false
  deriving Repr

namespace Options

/-- Only the word true, in any case and with blanks around it, is true; everything else
than a truth value is read as its text. -/
def parseFlag : Value → Except Fault Bool
  | .bool b => .ok b
  | v => do return Text.smalls (Text.trim (← v.plainText).toList) == "true".toList

/-! ### Fields -/

/-- The names of the fields. -/
def fieldNames : List String :=
  ["level", "clock_prefix", "format", "file_path", "suppress_host_logger"]

/-- A value, or the default in place of null. -/
def orDefault (default : Value) : Value → Value
  | .null => default
  | v => v

/-- The options with one field replaced. Null stands for the default level, the default
format, and no file. -/
def setField (options : Options) (name : String) (value : Value) : Except Fault Options :=
  if name = "level" then
    .ok { options with level := orDefault ({} : Options).level value }
  else if name = "clock_prefix" then .ok { options with clockPrefix := value }
  else if name = "format" then
    .ok { options with format := orDefault ({} : Options).format value }
  else if name = "file_path" then
    match value with
    | .null => .ok { options with filePath := none }
    | v => do return { options with filePath := some (← FilePath.ofValue v) }
  else if name = "suppress_host_logger" then .ok { options with suppressHost := value }
  else .error (.unknownOption name)

/-- The fault of giving options a field by some name: there is none of this name, or the name
stands for the options themselves. -/
def nameFault? (name : String) : Option Fault :=
  if name = "self" then some (.repeatedArgument "LogOptions.__init__" name)
  else if fieldNames.contains name then none
  else some (.unknownOption name)

/-- The options with some fields replaced. The first name that is no field is reported before
any value is looked at. -/
def override (options : Options) (fields : Table String Value) : Except Fault Options :=
  match List.findSome? (fun field => nameFault? field.1) fields with
  | some fault => .error fault
  | none => List.foldlM (fun options field => options.setField field.1 field.2) options fields

/-- The options with the given fields and the defaults elsewhere. -/
def ofFields (fields : Table String Value) : Except Fault Options :=
  override {} fields

/-! ### Properties -/

/-- The options of a mapping of properties. Level and format are the texts of their values. -/
def ofProperties (properties : Table String Value) : Except Fault Options := do
  let level ← ((properties.find? "LogLevel").getD (.text "INFO")).plainText
  let clockPrefix ← parseFlag ((properties.find? "LogCloudSimClock").getD (.bool false))
  let format ← ((properties.find? "LogFormat").getD (.text "level;message")).plainText
  let filePath ← match properties.find? "FilePath" with
    | none | some .null => pure none
    | some v => do pure (some (FilePath.ofText (← v.plainText)))
  let suppressHost ← parseFlag ((properties.find? "ShutStandardLogger").getD (.bool false))
  return {
    level := .text level
    clockPrefix := .bool clockPrefix
    format := .text format
    filePath
    suppressHost := .bool suppressHost }

/-! ### Variables -/

/-- Environment variables. -/
abbrev Variables : Type := Table String String

/-- Whether a variable is set to true. -/
def flagVariable (environment : Variables) (name : String) : Bool :=
  Text.smalls (Text.trim ((environment.find? name).getD "false").toList) == "true".toList

/-- The options of the environment variables. A file path is trimmed, and an empty one is
none. -/
def ofVariables (environment : Variables) : Options :=
  let path := Text.strip ((environment.find? "SIMLOG_FILE_PATH").getD "")
  { level := .text ((environment.find? "SIMLOG_LEVEL").getD "INFO")
    clockPrefix := .bool (flagVariable environment "SIMLOG_CLOCK_PREFIX")
    format := .text ((environment.find? "SIMLOG_FORMAT").getD "level;message")
    filePath := if path = "" then none else some (.ofText path)
    suppressHost := .bool (flagVariable environment "SIMLOG_SUPPRESS_HOST_LOGGER") }

end Options

end TraceLog
