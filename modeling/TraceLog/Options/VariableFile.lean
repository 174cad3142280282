import TraceLog.Options
import TraceLog.Text.Lines

/-!
# Files of Variables

A file that sets environment variables, one binding per line: an optional `export`, a key,
and an optional equals sign with a value. A value stands in single or double quotes, with
escapes, and may then run over several lines; or it is the rest of its line, without a
comment that follows a blank; the blank may stand right behind the equals sign. A line that
is no binding is skipped. A byte order mark in front of the file is no part of its text.

A value may refer to variables, with or without a default. Variables that are already set
win over bindings, also in references; of several bindings of a key the last one counts. A
key without equals sign is bound to nothing. A variable of its own says that no file is to be
loaded.

## Main definitions

* `bindings`: the bindings of a file, in order.
* `expand`: a value with its references replaced.
* `isSwitchedOff`: whether files are not to be loaded.
* `Variables.load`: the variables after a file was loaded.
-/

namespace TraceLog.Options

open Text

/-- A binding: a key, and its value unless there is no equals sign. -/
structure Binding where
  key : String
  value : Option String
  deriving DecidableEq, Repr

/-- A blank that does not end a line. -/
def isInlineBlank (c : Char) : Bool :=
  isBlank c && c != '\n' && c != '\r'

/-- The rest of a text after its current line. -/
def afterLine (s : List Char) : List Char :=
  (s.dropWhile (· != '\n')).drop 1

/-! ### Quoted values -/

/-- The text up to the closing quotation mark, and the rest. A character behind a backslash
does not close. -/
def closeQuote? (mark : Char) : List Char → Option (List Char × List Char)
  | [] => none
  | '\\' :: c :: s => (closeQuote? mark s).map fun (value, after) => ('\\' :: c :: value, after)
  | c :: s =>
    if c = mark then some ([], s)
    else (closeQuote? mark s).map fun (value, after) => (c :: value, after)

/-- The character that an escape letter stands for inside double quotes. -/
def escapeOf? (c : Char) : Option Char :=
  if c = '\\' ∨ c = '\'' ∨ c = '"' then some c
  else if c = 'a' then some '\x07'
  else if c = 'b' then some '\x08'
  else if c = 'f' then some '\x0c'
  else if c = 'n' then some '\n'
  else if c = 'r' then some '\r'
  else if c = 't' then some '\t'
  else if c = 'v' then some '\x0b'
  else none

/-- A text with its escapes replaced; a backslash that begins none is kept. -/
def unescape (escape? : Char → Option Char) : List Char → List Char
  | '\\' :: c :: s =>
    match escape? c with
    | some e => e :: unescape escape? s
    | none => '\\' :: unescape escape? (c :: s)
  | c :: s => c :: unescape escape? s
  | [] => []
  termination_by s => s.length

/-- The escapes inside single quotes: the backslash and the quote. -/
def singleEscapeOf? (c : Char) : Option Char :=
  if c = '\\' ∨ c = '\'' then some c else none

/-! ### Bindings -/

/-- An unquoted value without its comment, which starts with a number sign behind a blank. -/
def dropComment : List Char → List Char
  | [] => []
  | c :: s =>
    if isBlank c ∧ (s.dropWhile isBlank).head? = some '#' then [] else c :: dropComment s

/-- The value at the front of a text, and the rest; none when a quotation mark is not
closed. -/
def readValue? (s : List Char) : Option (List Char × List Char) :=
  match s.dropWhile isInlineBlank with
  | '\'' :: s => (closeQuote? '\'' s).map fun (v, rest) => (unescape singleEscapeOf? v, rest)
  | '"' :: s => (closeQuote? '"' s).map fun (v, rest) => (unescape escapeOf? v, rest)
  | _ => some (trim (dropComment (s.takeWhile (· != '\n'))), s.dropWhile (· != '\n'))

/-- The key at the front of a text, which is empty for a comment, and the rest. -/
def readKey? (s : List Char) : Except (List Char) (List Char × List Char) :=
  match s with
  | '#' :: _ => .ok ([], s)
  | '\'' :: t =>
    match t.takeWhile (· != '\''), t.dropWhile (· != '\'') with
    | [], _ => .error s
    | _, [] => .error s
    | key, _ :: rest => .ok (key, rest)
  | s =>
    let inKey (c : Char) : Bool := c != '=' && c != '#' && !isBlank c
    match s.takeWhile inKey with
    | [] => .error s
    | key => .ok (key, s.dropWhile inKey)

/-- The text after the word `export` and the blanks behind it, if it starts so. -/
def dropExport (s : List Char) : List Char :=
  match s with
  | 'e' :: 'x' :: 'p' :: 'o' :: 'r' :: 't' :: c :: rest =>
    if isInlineBlank c then rest.dropWhile isInlineBlank else s
  | _ => s

/-- The text after a comment and the end of the line; none when something else follows. -/
def endOfBinding? (s : List Char) : Option (List Char) :=
  let s := match s.dropWhile isInlineBlank with
    | '#' :: rest => rest.dropWhile (· != '\n')
    | rest => rest
  match s with
  | [] => some []
  | '\n' :: rest => some rest
  | _ => none

/-- The binding at the front of a text that does not start with a blank, if it is one, and
the text after its line. -/
def readBinding (s : List Char) : Option Binding × List Char :=
  match readKey? (dropExport s) with
  | .error rest => (none, afterLine rest)
  | .ok (key, rest) =>
    let rest := rest.dropWhile isInlineBlank
    let value? : Option (Option (List Char) × List Char) := match rest with
      | '=' :: more => (readValue? more).map fun (v, after) => (some v, after)
      | rest => some (none, rest)
    match value? with
    | none =>
      (none, afterLine rest)
    | some (value, after) =>
      match endOfBinding? after with
      | none => (none, afterLine after)
      | some next =>
        if key = [] then (none, next)
        else (some ⟨String.ofList key, value.map String.ofList⟩, next)

/-- The bindings of a text whose lines end in line feeds. -/
def bindingsOf (s : List Char) : List Binding :=
  match s.dropWhile isBlank with
  | [] => []
  | c :: t =>
    let (binding, rest) := readBinding (c :: t)
    if rest.length < s.length then binding.toList ++ bindingsOf rest else binding.toList
  termination_by s.length

/-- A text without the byte order mark in front, if there is one. A second one is text. -/
def dropMark : List Char → List Char
  | c :: s => if c = '\ufeff' then s else c :: s
  | [] => []

/-- The bindings of a file. -/
def bindings (file : String) : List Binding :=
  bindingsOf (unifyEndings (dropMark file.toList))

/-! ### References -/

/-- The reference at the front of a text, behind its dollar sign and opening brace: the name,
the default, which is empty if there is none, and the rest. -/
def readReference? (s : List Char) : Option (List Char × List Char × List Char) :=
  let name := s.takeWhile fun c => c != '}' && c != ':'
  match s.dropWhile fun c => c != '}' && c != ':' with
  | '}' :: rest => some (name, [], rest)
  | ':' :: '-' :: rest =>
    match rest.dropWhile (· != '}') with
    | _ :: after => some (name, rest.takeWhile (· != '}'), after)
    | [] => none
  | _ => none

/-- A value with its references replaced; `value?` gives the value of a name, or none for
the default. -/
def expand (value? : String → Option String) : List Char → List Char
  | [] => []
  | '$' :: '{' :: t =>
    match readReference? t with
    | some (name, default, rest) =>
      let value := match value? (String.ofList name) with
        | some v => v.toList
        | none => default
      if rest.length < t.length then value ++ expand value? rest else value
    | none => '$' :: expand value? ('{' :: t)
  | c :: t => c :: expand value? t
  termination_by s => s.length

/-- The values that bindings give to their keys, in order of first appearance. A reference
is looked up among the variables first and then among the bindings so far, where a key bound
to nothing counts as empty. -/
def resolveBindings (environment : Variables) :
    Table String (Option String) → List Binding → Table String (Option String)
  | done, [] => done
  | done, binding :: more =>
    let value? (name : String) : Option String :=
      match environment.find? name, done.find? name with
      | some v, _ => some v
      | none, some v => some (v.getD "")
      | none, none => none
    let value := binding.value.map fun v => String.ofList (expand value? v.toList)
    resolveBindings environment (done.put binding.key value) more

/-- Sets the bound variables that are not set yet. A key that is no name for a variable and
a value with a zero character are refused. -/
def setVariables (environment : Variables) :
    Table String (Option String) → Except Fault Variables
  | [] => .ok environment
  | (key, value) :: more =>
    match value, environment.find? key with
    | some v, none =>
      if key.toList.contains '\x00' ∨ v.toList.contains '\x00' then .error .zeroCharacter
      else if key.toList.contains '=' then .error .illegalVariableName
      else setVariables (environment.put key v) more
    | _, _ => setVariables environment more

/-! ### Loading -/

/-- The spellings of yes, in any case and without blanks around, for `isSwitchedOff`. -/
def switchWords : List String := ["1", "true", "t", "yes", "y"]

/-- Whether files of variables are not to be loaded, as a variable may say. It counts only when
it is set already, not when the file sets it. -/
def isSwitchedOff (environment : Variables) : Bool :=
  (environment.find? "PYTHON_DOTENV_DISABLED").any fun value =>
    switchWords.contains (String.ofList (folded value.toList))

/-- The variables after a file of variables was loaded, if it is to be loaded. -/
def Variables.load (environment : Variables) (file : String) : Except Fault Variables :=
  if isSwitchedOff environment then .ok environment
  else setVariables environment (resolveBindings environment [] (bindings file))

end TraceLog.Options
