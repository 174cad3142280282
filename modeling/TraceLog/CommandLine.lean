import TraceLog.FileTree
import TraceLog.Options
import TraceLog.Text.Quoted
import TraceLog.Text.Similar
import TraceLog.Text.Terminal

/-!
# The Command Line

The options of the command that replays a trace. The last of repeated options counts. An option
that is not given takes its environment variable, if that counts as set, and then its default.

Arguments are read before any value is checked; when one of them asks for help, no value is
checked at all. Values are then checked in the order in which
the options came, followed by the trace and the options that were not given.

How arguments are told apart, which variables count as set, which words are truth values and what
is checked of paths is left to a library (`OptionReader`), of which no more is known than its
documentation says (`OptionReader.Documented`). The program runs with `OptionReader.standard`.
There an argument that starts with a dash is an option, unless it is the dash alone or stands behind
two dashes; every other argument is a positional one, the first of which is the trace. An option
takes its value from behind an equals sign or from the next argument, whatever that is. The
complaint about an unknown option names the options most similar to it.

## Main definitions

* `UsageFault`: the complaints about a command line.
* `OptionReader`, `OptionReader.Documented`: what is left to the library, and what is known of that.
* `Request`, `Request.ofArguments`: the checked values.
* `OptionReader.standard`: the library that the program runs with.
-/

namespace TraceLog

/-! ### Complaints -/

/-- What is wrong with a command line. -/
inductive UsageFault where
  /-- An unknown option; `similar` are the options that may have been meant. -/
  | noSuchOption (name : String) (similar : List String)
  | requiresValue (name : String)
  | takesNoValue (name : String)
  | missingTrace
  | extraArguments (arguments : List String)
  | traceDoesNotOpen (path : String) (cause : FileFault)
  | fileIsDirectory (path : String)
  | notBoolean (value : String)
  /-- A complaint of the command itself. -/
  | complaint (text : String)
  deriving DecidableEq, Repr

namespace UsageFault

/-- The spellings of a boolean variable that the standard reader accepts; the empty one counts as
false. -/
def booleans : Table String Bool :=
  [("", false), ("0", false), ("1", true), ("f", false), ("false", false), ("n", false),
    ("no", false), ("off", false), ("on", true), ("t", true), ("true", true), ("y", true),
    ("yes", true)]

/-- The question whether one of some names was meant; nothing if there are none. -/
def question (names : List String) : String :=
  match (names.mergeSort fun a b => decide (a ≤ b)).map Text.quoted with
  | [] => ""
  | [name] => s!" Did you mean {name}?"
  | names => s!" (Did you mean one of: {commaList names}?)"

/-- The wording of a complaint. -/
def message : UsageFault → String
  | .noSuchOption name similar => s!"No such option {Text.quoted name}.{question similar}"
  | .requiresValue name => s!"Option {Text.quoted name} requires an argument."
  | .takesNoValue name => s!"Option {Text.quoted name} does not take a value."
  | .missingTrace => "Missing argument 'TRACE'."
  | .extraArguments arguments =>
    "Got unexpected extra argument" ++ (if arguments.length = 1 then "" else "s") ++ " (" ++
      String.intercalate " " arguments ++ ")"
  | .traceDoesNotOpen path cause => s!"Invalid value for 'TRACE': '{path}': {cause.message}"
  | .fileIsDirectory path =>
    s!"Invalid value for '--file': File {Text.quoted path} is a directory."
  | .notBoolean value =>
    s!"Invalid value for '--clock-prefix': {Text.quoted value} is not a valid boolean. " ++
      s!"Recognized values: {commaList (booleans.map (·.1))}"
  | .complaint text => text

/-- Whether the usage of the command is shown in front of a complaint. It is not when an
option is used with a wrong number of values. -/
def showsUsage : UsageFault → Bool
  | .requiresValue _ | .takesNoValue _ => false
  | _ => true

/-- A complaint as the user sees it. What it quotes from the command line is shown without
control sequences. -/
def text (fault : UsageFault) : String :=
  (if fault.showsUsage then
    "Usage: cli replay [OPTIONS] TRACE\nTry 'cli replay --help' for help.\n\n" else "") ++
    "Error: " ++ String.ofList (Text.plain fault.message.toList) ++ "\n"

end UsageFault

/-! ### Arguments -/

/-- An option that was given. -/
inductive Setting where
  | level (value : String)
  | format (value : String)
  | clockPrefix (on : Bool)
  | file (value : String)
  | logLevel (value : String)
  | help
  deriving DecidableEq, Repr

/-- What an option name makes: a setting, or a setting from a value. -/
inductive OptionForm where
  | switch (setting : Setting)
  | valued (setting : String → Setting)

/-- The option names. -/
def optionForms : Table String OptionForm :=
  [("--level", .valued .level), ("--format", .valued .format),
    ("--clock-prefix", .switch (.clockPrefix true)),
    ("--no-clock-prefix", .switch (.clockPrefix false)), ("--file", .valued .file),
    ("--log-level", .valued .logLevel), ("--help", .switch .help)]

/-- What the user is told who asks for help. -/
def helpText : String :=
  "Usage: cli replay [OPTIONS] TRACE\n\n" ++
  "  Replay TRACE (or - for stdin) through a configured logger.\n\n" ++
  "Options:\n" ++
  "  --level TEXT                    Threshold level; records below it are\n" ++
  "                                  dropped. OFF disables output.  [default:\n" ++
  "                                  INFO]\n" ++
  "  --format TEXT                   Semicolon-delimited selector list.\n" ++
  "                                  [default: level;message]\n" ++
  "  --clock-prefix / --no-clock-prefix\n" ++
  "                                  Prefix each line with the virtual time.\n" ++
  "                                  [default: no-clock-prefix]\n" ++
  "  --file FILE                     Write to this file (truncated) instead of\n" ++
  "                                  the console.\n" ++
  "  --log-level TEXT                Diagnostics log level.  [default: WARNING]\n" ++
  "  --help                          Show this message and exit.\n"

/-- The options and positional arguments of a command line, each in order. -/
structure Arguments where
  settings : List Setting := []
  positional : List String := []
  deriving DecidableEq, Repr

namespace Arguments

/-- The arguments with a setting in front. -/
def addSetting (setting : Setting) (arguments : Arguments) : Arguments :=
  { arguments with settings := setting :: arguments.settings }

/-- The arguments with a positional one in front. -/
def addPositional (argument : String) (arguments : Arguments) : Arguments :=
  { arguments with positional := argument :: arguments.positional }

/-- The value of the last setting that `pick` accepts. -/
def last? {α : Type} (pick : Setting → Option α) (arguments : Arguments) : Option α :=
  (arguments.settings.filterMap pick).getLast?

/-- The level that was given. -/
def level? (arguments : Arguments) : Option String :=
  arguments.last? fun | .level value => some value | _ => none

/-- The format that was given. -/
def format? (arguments : Arguments) : Option String :=
  arguments.last? fun | .format value => some value | _ => none

/-- The switch for the clock that was given. -/
def clockPrefix? (arguments : Arguments) : Option Bool :=
  arguments.last? fun | .clockPrefix on => some on | _ => none

/-- The file that was given. -/
def file? (arguments : Arguments) : Option String :=
  arguments.last? fun | .file value => some value | _ => none

/-- Whether help is asked for. -/
def asksForHelp (arguments : Arguments) : Bool :=
  arguments.settings.contains .help

/-- The level of the diagnostics that was given. -/
def logLevel? (arguments : Arguments) : Option String :=
  arguments.last? fun | .logLevel value => some value | _ => none

end Arguments

/-! ### Requests -/

/-- Where a trace is read from. -/
inductive TraceSource where
  | standardInput
  | file (place : Place)
  deriving DecidableEq, Repr

/-- The checked values of a command line. -/
structure Request where
  trace : TraceSource
  level : String
  format : String
  clockPrefix : Bool
  file : Option String
  logLevel : String
  deriving DecidableEq, Repr

/-- Why a command line gives no request: a complaint, or a fault. -/
inductive RequestFault where
  | usage (fault : UsageFault)
  | fault (fault : Fault)
  deriving Repr

/-! ### What is left to a library -/

/-- The word that a text holds: in small letters, and without blanks around it. -/
def wordOf (s : String) : String :=
  String.ofList (Text.smalls (Text.trim s.toList))

/-- The library that reads command lines, as far as the command leaves its options to it. -/
structure OptionReader where
  /-- The options and positional arguments of a command line. -/
  arguments : List String → Except UsageFault Arguments
  /-- Whether a variable with this text counts as set. -/
  counts : String → Bool
  /-- The truth value that a text stands for. -/
  truth : String → Except RequestFault Bool
  /-- Checks that a path can be that of the log. -/
  checkFile : FilePath → FileTree → String → Except RequestFault Unit
  /-- Opens the trace. -/
  openTrace : FilePath → FileTree → String → Except RequestFault TraceSource

namespace OptionReader

/-- The words that are documented to be true. -/
def trueWords : List String := ["1", "on", "t", "true", "y", "yes"]

/-- The words that are documented to be false. -/
def falseWords : List String := ["0", "f", "false", "n", "no", "off"]

/-- The truth value of a text is documented: the text is empty, and does not count, or its word is
one of those that are listed. -/
def IsListed (s : String) : Prop :=
  s = "" ∨ wordOf s ∈ trueWords ∨ wordOf s ∈ falseWords

/-- What the documentation says of a reader. Nothing is said of other words than the listed ones. -/
structure Documented (reader : OptionReader) : Prop where
  /-- An empty variable counts as not set, and every other one as set. -/
  counts_iff : ∀ s, reader.counts s = true ↔ s ≠ ""
  truth_of_true : ∀ s, wordOf s ∈ trueWords → reader.truth s = .ok true
  truth_of_false : ∀ s, wordOf s ∈ falseWords → reader.truth s = .ok false
  /-- The log may not be a directory that is there. -/
  refuses_directory : ∀ directory (tree : FileTree) path place,
    tree.locate directory path = .ok place → tree.isDirectory place = true →
      reader.checkFile directory tree path ≠ .ok ()

end OptionReader

namespace Request

/-- The value of a variable, if it counts as set. -/
def setVariable? (reader : OptionReader) (environment : Options.Variables) (name : String) :
    Option String :=
  (environment.find? name).filter reader.counts

/-- The switch for the clock: as given, as its variable spells it, or off. -/
def readClockPrefix (reader : OptionReader) (environment : Options.Variables)
    (arguments : Arguments) : Except RequestFault Bool :=
  match arguments.clockPrefix? with
  | some on => .ok on
  | none =>
    match setVariable? reader environment "SIMLOG_CLOCK_PREFIX" with
    | some value => reader.truth value
    | none => .ok false

/-- The request that arguments make. -/
def ofArguments (reader : OptionReader) (directory : FilePath) (tree : FileTree)
    (environment : Options.Variables) (arguments : Arguments) : Except RequestFault Request := do
  let given := arguments.file?
  if let some path := given then reader.checkFile directory tree path
  let trace ← match arguments.positional with
    | [] => throw (.usage .missingTrace)
    | path :: _ => reader.openTrace directory tree path
  let clockPrefix ← readClockPrefix reader environment arguments
  let file ← match given with
    | some path => pure (some path)
    | none => match setVariable? reader environment "SIMLOG_FILE_PATH" with
      | some path => do
        reader.checkFile directory tree path
        pure (some path)
      | none => pure none
  match arguments.positional.drop 1 with
  | [] => pure ()
  | extra => throw (.usage (.extraArguments extra))
  return {
    trace
    level := (arguments.level? <|> setVariable? reader environment "SIMLOG_LEVEL").getD "INFO"
    format := (arguments.format? <|>
      setVariable? reader environment "SIMLOG_FORMAT").getD "level;message"
    clockPrefix
    file
    logLevel := arguments.logLevel?.getD "WARNING" }

end Request

/-! ### The standard reader -/

namespace Arguments

/-- Whether an argument is read as an option. -/
def isOption (argument : String) : Bool :=
  match argument.toList with
  | '-' :: _ :: _ => true
  | _ => false

/-- The name of an option, and the value behind an equals sign if there is one. -/
def splitOption (argument : String) : String × Option String :=
  let s := argument.toList
  match s.dropWhile (· != '=') with
  | [] => (argument, none)
  | _ :: value => (String.ofList (s.takeWhile (· != '=')), some (String.ofList value))

/-- The complaint about an unknown option, with up to three similar ones. With a single dash
only the first letter is looked at, and nothing is similar to it. -/
def unknownOption (argument name : String) : UsageFault :=
  match argument.toList with
  | '-' :: '-' :: _ => .noSuchOption name (Text.nearest 3 name (optionForms.map (·.1)))
  | s => .noSuchOption (String.ofList (s.take 2)) []

/-- Reads arguments into options and positional ones. -/
def read : List String → Except UsageFault Arguments
  | [] => .ok {}
  | argument :: rest =>
    if argument = "--" then .ok { positional := rest }
    else if !isOption argument then do return (← read rest).addPositional argument
    else
      let (name, value?) := splitOption argument
      match optionForms.find? name, value? with
      | none, _ => .error (unknownOption argument name)
      | some (.switch _), some _ => .error (.takesNoValue name)
      | some (.switch setting), none => do return (← read rest).addSetting setting
      | some (.valued make), some value => do return (← read rest).addSetting (make value)
      | some (.valued make), none =>
        match rest with
        | [] => .error (.requiresValue name)
        | value :: rest => do return (← read rest).addSetting (make value)

end Arguments

namespace OptionReader

/-- Checks that a path for the log is no directory. -/
def checkNoDirectory (directory : FilePath) (tree : FileTree) (path : String) :
    Except RequestFault Unit :=
  if path.toList.contains '\x00' then .error (.fault .zeroCharacter)
  else
    match tree.locate directory path with
    | .ok place =>
      if tree.isDirectory place then .error (.usage (.fileIsDirectory path)) else .ok ()
    | .error _ => .ok ()

/-- Opens the trace, a dash standing for the standard input. -/
def openOrInput (directory : FilePath) (tree : FileTree) (path : String) :
    Except RequestFault TraceSource :=
  if path = "-" then .ok .standardInput
  else if path.toList.contains '\x00' then .error (.fault .zeroCharacter)
  else
    match tree.readFrom directory path with
    | .ok place => .ok (.file place)
    | .error cause => .error (.usage (.traceDoesNotOpen path cause))

/-- The truth value that a text spells, in any case and with blanks around it. -/
def readBoolean (value : String) : Except RequestFault Bool :=
  match UsageFault.booleans.find? (wordOf value) with
  | some b => .ok b
  | none => .error (.usage (.notBoolean value))

/-- The library that the program runs with. -/
def standard : OptionReader where
  arguments := Arguments.read
  counts s := s != ""
  truth := readBoolean
  checkFile := checkNoDirectory
  openTrace := openOrInput

end OptionReader

end TraceLog
