import TraceLog.FileTree
import TraceLog.Text.Utf8
import TraceLog.Value

/-!
# Faults

Everything that can go wrong, by cause. A fault has a title, the name of its class, and a
message; both appear in reports. The causes are grouped by where they arise: the library's
own refusals, numbers and their texts, printf-style templates, streams, and the options.

## Main definitions

* `Fault`: the causes.
* `Fault.title`, `Fault.message`: the words of a report.
* `Fault.report`: title and message in one line.
* `Fault.configuration`: the refusal of an option's value.
-/

namespace TraceLog

/-! ### The library's own refusals -/

/-- Why the value of an option is refused. -/
inductive Refusal where
  /-- A level is neither a name nor a number. -/
  | notLevel
  /-- A level number is below the lowest level. -/
  | belowLowestLevel (lowest : Int)
  | unknownLevel (known : List String)
  | notText
  | noSelector
  /-- The segment at this position, counted from one, is empty. -/
  | emptySelector (position : Nat)
  | unknownSelector (name : String) (known : List String)
  | noClock
  | noHostLogger
  deriving DecidableEq, Repr

/-- Names one after the other. -/
def commaList (names : List String) : String :=
  String.intercalate ", " names

/-- The wording of a refusal. -/
def Refusal.message : Refusal → String
  | .notLevel => "expected a level name or number"
  | .belowLowestLevel lowest => s!"numeric levels must be >= {lowest}"
  | .unknownLevel known => s!"unknown level name (known: {commaList known})"
  | .notText => "expected a string"
  | .noSelector => "at least one selector is required"
  | .emptySelector position => s!"selector #{position} is empty"
  | .unknownSelector name known =>
    s!"unknown selector {Text.quoted name} (known: {commaList known})"
  | .noClock => "no virtual clock was supplied"
  | .noHostLogger => "no host logger was supplied"

/-! ### Numbers -/

/-- What goes wrong with numbers and their texts. -/
inductive NumberFault where
  /-- A text or byte string, quoted, that writes no integer. -/
  | notInteger (quoted : String)
  | notIntegerKind (kind : String)
  /-- A text of more digits than are read. -/
  | tooManyDigits (count : Nat)
  /-- An integer with more digits than are written. -/
  | tooLongToWrite
  /-- A text or byte string, quoted, that writes no real number. -/
  | notReal (quoted : String)
  | notRealKind (kind : String)
  | integerBeyondReals
  | nanToInteger
  | infinityToInteger
  | operands (operator left right : String)
  /-- A value of this kind has no layout of this letter. -/
  | unknownLayout (letter : Char) (kind : String)
  /-- A value of this kind has no layouts at all. -/
  | noLayouts (kind : String)
  deriving DecidableEq, Repr

/-- The class of a number fault. -/
def NumberFault.title : NumberFault → String
  | .notIntegerKind _ | .notRealKind _ | .operands .. | .noLayouts _ => "TypeError"
  | .integerBeyondReals | .infinityToInteger => "OverflowError"
  | _ => "ValueError"

/-- The wording of a number fault. -/
def NumberFault.message : NumberFault → String
  | .notInteger quoted =>
    "invalid literal for int() with base 10: " ++ String.ofList (quoted.toList.take 200)
  | .notIntegerKind kind =>
    "int() argument must be a string, a bytes-like object or a real number, not " ++
      s!"'{kind}'"
  | .tooManyDigits count =>
    s!"Exceeds the limit ({Value.digitLimit} digits) for integer string conversion: " ++
      s!"value has {count} digits; use sys.set_int_max_str_digits() to increase the limit"
  | .tooLongToWrite =>
    s!"Exceeds the limit ({Value.digitLimit} digits) for integer string conversion; " ++
      "use sys.set_int_max_str_digits() to increase the limit"
  | .notReal quoted => s!"could not convert string to float: {quoted}"
  | .notRealKind kind => s!"float() argument must be a string or a real number, not '{kind}'"
  | .integerBeyondReals => "int too large to convert to float"
  | .nanToInteger => "cannot convert float NaN to integer"
  | .infinityToInteger => "cannot convert float infinity to integer"
  | .operands operator left right =>
    s!"unsupported operand type(s) for {operator}: '{left}' and '{right}'"
  | .unknownLayout letter kind => s!"Unknown format code '{letter}' for object of type '{kind}'"
  | .noLayouts kind => s!"unsupported format string passed to {kind}.__format__"

/-! ### Templates -/

/-- What goes wrong when a template is filled in. -/
inductive TemplateFault where
  | incomplete
  | incompleteKey
  | mappingRequired
  /-- A mapping lacks a key, here quoted. -/
  | missingKey (quoted : String)
  | listKey
  | widthTooBig
  | precisionTooBig (word : String)
  | precisionTooLarge
  /-- What a directive makes is longer than any text can be. -/
  | tooLong
  | starWantsInteger
  /-- A number given for a star does not fit the named type. -/
  | starTooLarge (target : String)
  | notEnoughArguments
  /-- Arguments are left over; the word names what was filled in. -/
  | leftOver (word : String)
  /-- An unknown conversion letter: as it is shown, its place, and its position. -/
  | unsupported (shown : Char) (place position : Nat)
  /-- A conversion letter that cannot even be shown, so that nothing is said about it. -/
  | unshowable
  | integerRequired (letter : Char) (kind : String)
  | numberRequired (letter : Char) (kind : String)
  | realRequired (kind : String)
  | floatRequired (kind : String)
  | characterRequired
  | characterTooLarge
  /-- The place given for a character is one of a surrogate. Such a character makes a text that is
  none here, where texts hold no surrogates: what comes of it is left open. -/
  | surrogate
  | byteRequired
  | byteTooLarge
  | bytesRequired (kind : String)
  deriving DecidableEq, Repr

/-- The class of a template fault. -/
def TemplateFault.title : TemplateFault → String
  | .incomplete | .incompleteKey | .widthTooBig | .precisionTooBig _ | .unsupported ..
  | .unshowable | .surrogate => "ValueError"
  | .missingKey _ => "KeyError"
  | .precisionTooLarge | .starTooLarge _ | .characterTooLarge | .byteTooLarge =>
    "OverflowError"
  | .tooLong => "MemoryError"
  | _ => "TypeError"

/-- The wording of a template fault. -/
def TemplateFault.message : TemplateFault → String
  | .incomplete => "incomplete format"
  | .incompleteKey => "incomplete format key"
  | .mappingRequired => "format requires a mapping"
  | .missingKey quoted => quoted
  | .listKey => "list indices must be integers or slices, not str"
  | .widthTooBig => "width too big"
  | .precisionTooBig word => s!"{word} too big"
  | .precisionTooLarge => "precision too large"
  | .starWantsInteger => "* wants int"
  | .starTooLarge target => s!"Python int too large to convert to C {target}"
  | .notEnoughArguments => "not enough arguments for format string"
  | .leftOver word => s!"not all arguments converted during {word} formatting"
  | .unsupported shown place position =>
    s!"unsupported format character '{shown}' " ++
      s!"(0x{String.ofList (Nat.toDigits 16 place)}) at index {position}"
  | .unshowable | .tooLong => ""
  | .integerRequired letter kind => s!"%{letter} format: an integer is required, not {kind}"
  | .numberRequired letter kind => s!"%{letter} format: a real number is required, not {kind}"
  | .realRequired kind => s!"must be real number, not {kind}"
  | .floatRequired kind => s!"float argument required, not {kind}"
  | .characterRequired => "%c requires int or char"
  | .characterTooLarge => "%c arg not in range(0x110000)"
  | .surrogate => "%c arg is a surrogate"
  | .byteRequired => "%c requires an integer in range(256) or a single byte"
  | .byteTooLarge => "%c arg not in range(256)"
  | .bytesRequired kind =>
    s!"%b requires a bytes-like object, or an object that implements __bytes__, not '{kind}'"

/-! ### Streams -/

/-- The errors with which a stream may fail by design. -/
inductive StreamFailure where
  | system
  | value
  | recursion
  deriving DecidableEq, Repr

/-- The class of a failure. -/
def StreamFailure.title : StreamFailure → String
  | .system => "OSError"
  | .value => "ValueError"
  | .recursion => "RecursionError"

/-- What goes wrong when a stream is written. -/
inductive StreamFault where
  /-- The stream is closed; streams over bytes end the message with a stop. -/
  | closed (stop : Bool)
  | bytesRequired
  | failed (failure : StreamFailure)
  /-- A run of characters that ASCII lacks, from this position on. -/
  | notAscii (position : Nat) (run : List Char)
  deriving DecidableEq, Repr

/-- The class of a stream fault. -/
def StreamFault.title : StreamFault → String
  | .closed _ => "ValueError"
  | .bytesRequired => "TypeError"
  | .failed failure => failure.title
  | .notAscii .. => "UnicodeEncodeError"

/-- The wording of a stream fault. -/
def StreamFault.message : StreamFault → String
  | .closed stop => "I/O operation on closed file" ++ if stop then "." else ""
  | .bytesRequired => "a bytes-like object is required, not 'str'"
  | .failed _ => "sink failed"
  | .notAscii position run =>
    let what := match run with
      | [c] => s!"character '{String.ofList (Text.escapedPlace c.toNat)}' in position {position}"
      | run => s!"characters in position {position}-{position + run.length - 1}"
    s!"'ascii' codec can't encode {what}: ordinal not in range(128)"

/-- The wording of an error of decoding. -/
def Text.Utf8Error.message (e : Text.Utf8Error) : String :=
  let what := match e.blamed with
    | [b] =>
      s!"byte 0x{String.ofList (Number.inRadix 16 2 b.toNat)} in position {e.position}"
    | run => s!"bytes in position {e.position}-{e.position + run.length - 1}"
  s!"'utf-8' codec can't decode {what}: {e.reason.message}"

/-! ### All faults -/

/-- A record that cannot be rendered: the selector at fault, and the report of its cause. -/
structure FormattingFault where
  selector : String
  detail : String
  deriving DecidableEq, Repr

/-- The wording of a formatting fault. -/
def FormattingFault.message (f : FormattingFault) : String :=
  s!"Cannot render selector '{f.selector}': {f.detail}"

/-- The wording of a refused option value; the value is given by its quoted text. -/
def refusalMessage (option quotedValue detail : String) : String :=
  s!"Invalid {option}={quotedValue}: {detail}"

/-- The wording for a log file that does not open. -/
def sinkOpenMessage (path detail : String) : String :=
  s!"Cannot open log file '{path}': {detail}"

/-- Everything that can go wrong. -/
inductive Fault where
  /-- The value of an option is refused. -/
  | configuration (option : String) (value : Value) (refusal : Refusal)
  /-- The log file cannot be opened. -/
  | sinkOpen (path : FilePath) (cause : FileFault)
  | formatting (fault : FormattingFault)
  /-- The logger is asked for before it is configured. -/
  | notConfigured
  | number (fault : NumberFault)
  | template (fault : TemplateFault)
  | stream (fault : StreamFault)
  /-- A file of the host does not open; its absolute path is shown. -/
  | file (path : FilePath) (cause : FileFault)
  | notUtf8 (error : Text.Utf8Error)
  | unknownOption (name : String)
  /-- A call is given a parameter by name that already has its argument. -/
  | repeatedArgument (callee name : String)
  /-- A call is given two arguments of one name. -/
  | repeatedName (callee name : String)
  /-- Fields are to be replaced in what is no options. -/
  | notOptions
  /-- A value of this kind is called. -/
  | notCallable (kind : String)
  /-- A value of this kind is no path. -/
  | notPath (kind : String)
  | bytesPath
  /-- A record is given a level that is no integer. -/
  | levelNotInteger
  /-- A value of this kind cannot be looked up. -/
  | notKey (kind : String)
  /-- A path or the value of a variable holds a zero character. -/
  | zeroCharacter
  | illegalVariableName
  /-- The clock is asked to go from one time to an earlier one, both in their texts. -/
  | timeBackwards (time current : String)
  | clockRequired
  /-- A value of this kind lacks something that is asked of it. -/
  | noAttribute (kind name : String)
  | attributeNotText (kind : String)
  /-- A text is no level of the diagnostics. -/
  | unknownDiagnosticLevel (text : String)
  /-- Something other than a number or a text, here as it is shown, is no level of the
  diagnostics. -/
  | notDiagnosticLevel (shown : String)
  /-- A template of the host names no field. -/
  | uselessTemplate (text : String)
  /-- A record of the host lacks a field, here quoted. -/
  | fieldNotFound (quoted : String)
  /-- Raised by a collaborator, with its own title and text. -/
  | raised (title text : String)
  deriving Repr

namespace Fault

/-- The class of a fault. -/
def title : Fault → String
  | .configuration .. => "ConfigurationError"
  | .sinkOpen .. => "SinkOpenError"
  | .formatting _ => "FormattingError"
  | .notConfigured => "NotConfiguredError"
  | .number fault => fault.title
  | .template fault => fault.title
  | .stream fault => fault.title
  | .file _ cause => cause.title
  | .notUtf8 _ => "UnicodeDecodeError"
  | .repeatedArgument .. | .repeatedName .. | .notOptions | .notCallable _
  | .unknownOption _ | .notPath _ | .bytesPath | .levelNotInteger | .notKey _
  | .attributeNotText _ | .notDiagnosticLevel _ => "TypeError"
  | .noAttribute .. => "AttributeError"
  | .raised title _ => title
  | .zeroCharacter | .illegalVariableName | .timeBackwards .. | .clockRequired
  | .unknownDiagnosticLevel _ | .uselessTemplate _ | .fieldNotFound _ => "ValueError"

/-- The wording of a fault. -/
def message : Fault → String
  | .configuration option value refusal =>
    refusalMessage option (value.quoted?.getD "") refusal.message
  | .sinkOpen path cause => sinkOpenMessage path.toText cause.message
  | .formatting fault => fault.message
  | .notConfigured => "configure() must succeed before the logger is used"
  | .number fault => fault.message
  | .template fault => fault.message
  | .stream fault => fault.message
  | .file path cause =>
    s!"[Errno {cause.number}] {cause.message}: {Text.quoted path.toText}"
  | .notUtf8 error => error.message
  | .unknownOption name =>
    s!"LogOptions.__init__() got an unexpected keyword argument '{name}'"
  | .repeatedArgument callee name =>
    s!"{callee}() got multiple values for argument '{name}'"
  | .repeatedName callee name =>
    s!"{callee}() got multiple values for keyword argument '{name}'"
  | .notOptions => "replace() should be called on dataclass instances"
  | .notCallable kind => s!"'{kind}' object is not callable"
  | .notPath kind => s!"expected str, bytes or os.PathLike object, not {kind}"
  | .bytesPath =>
    "argument should be a str object or an os.PathLike object returning str, " ++
      "not <class 'bytes'>"
  | .levelNotInteger => "level must be an integer"
  | .notKey kind => s!"unhashable type: '{kind}'"
  | .zeroCharacter => "embedded null byte"
  | .illegalVariableName => "illegal environment variable name"
  | .timeBackwards time current => s!"Virtual time cannot go backwards: {time} < {current}"
  | .clockRequired => "clock_prefix requires a clock"
  | .noAttribute kind name => s!"'{kind}' object has no attribute '{name}'"
  | .attributeNotText kind => s!"attribute name must be string, not '{kind}'"
  | .unknownDiagnosticLevel text => s!"Unknown level: {Text.quoted text}"
  | .notDiagnosticLevel shown => s!"Level not an integer or a valid string: {shown}"
  | .uselessTemplate text => s!"Invalid format '{text}' for '%' style"
  | .fieldNotFound quoted => s!"Formatting field not found in record: {quoted}"
  | .raised _ text => text

/-- A fault in one line. -/
def report (fault : Fault) : String :=
  s!"{fault.title}: {fault.message}"

/-- The fault for a refused value: the refusal, or that the value is too long to be shown. -/
def refuse (option : String) (value : Value) (refusal : Refusal) : Fault :=
  match value.quoted? with
  | some _ => .configuration option value refusal
  | none => .number .tooLongToWrite

end Fault

/-- The plain text of a value, or the fault that it is too long to be written. -/
def Value.plainText (v : Value) : Except Fault String :=
  match v.text? with
  | some s => .ok s
  | none => .error (.number .tooLongToWrite)

/-- The quoted text of a value, or the fault that it is too long to be written. -/
def Value.quotedText (v : Value) : Except Fault String :=
  match v.quoted? with
  | some s => .ok s
  | none => .error (.number .tooLongToWrite)

/-- The path that a value means. -/
def FilePath.ofValue : Value → Except Fault FilePath
  | .text s => .ok (.ofText s)
  | .bytes _ => .error .bytesPath
  | v => .error (.notPath v.kindName)

end TraceLog
