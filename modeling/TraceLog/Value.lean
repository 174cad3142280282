import TraceLog.Number.Decimal
import TraceLog.Text.Quoted

/-!
# Values

The values that callers hand to the logger: as messages, levels, options, clock readings and
arguments of a template. Their kinds have fixed names, which error texts mention, and two
texts each: the plain text, and the quoted text that shows the kind as well. The two differ
for texts only; the members of a container are always quoted.

An integer of more than 4300 decimal digits has no text, and neither has a container that
holds one.

## Main definitions

* `Value`: a dynamic value.
* `Value.kindName`, `Value.isTrue`: the name of its kind, and whether it counts as true.
* `Value.text?`, `Value.quoted?`: its two texts.
* `Value.dictOf`: a dictionary from its entries, later ones replacing earlier ones.
-/

namespace TraceLog

open Number

/-- A dynamic value. -/
inductive Value where
  | null
  | bool (b : Bool)
  | int (n : Int)
  | real (x : Binary64)
  | text (s : String)
  | bytes (bs : List UInt8)
  | list (items : List Value)
  | tuple (items : List Value)
  | dict (entries : List (Value × Value))
  deriving Repr, Inhabited

namespace Value

/-- The name of a value's kind. -/
def kindName : Value → String
  | .null => "NoneType"
  | .bool _ => "bool"
  | .int _ => "int"
  | .real _ => "float"
  | .text _ => "str"
  | .bytes _ => "bytes"
  | .list _ => "list"
  | .tuple _ => "tuple"
  | .dict _ => "dict"

/-- Whether a value counts as true: neither null, nor false, nor zero, nor empty. -/
def isTrue : Value → Bool
  | .null => false
  | .bool b => b
  | .int n => n != 0
  | .real x => !x.isZero
  | .text s => s != ""
  | .bytes bs => !bs.isEmpty
  | .list items => !items.isEmpty
  | .tuple items => !items.isEmpty
  | .dict entries => !entries.isEmpty

/-- The integer that a truth value or an integer stands for. -/
def integer? : Value → Option Int
  | .bool b => some (if b then 1 else 0)
  | .int n => some n
  | _ => none

/-! ### Texts -/

/-- The greatest number of decimal digits of an integer that has a text. -/
def digitLimit : Nat := 4300

/-- The text of an integer, within the limit on its digits. -/
def intText? (n : Int) : Option String :=
  if n.natAbs < Nat.pow 10 digitLimit then some (toString n) else none

mutual

/-- The quoted text of a value. -/
def quoted? : Value → Option String
  | .null => some "None"
  | .bool b => some (if b then "True" else "False")
  | .int n => intText? n
  | .real x => some x.shortText
  | .text s => some (Text.quoted s)
  | .bytes bs => some (Text.quotedBytes bs)
  | .list items => (quotedItems? items).map fun parts =>
    "[" ++ String.intercalate ", " parts ++ "]"
  | .tuple items => (quotedItems? items).map fun parts =>
    match parts with
    | [part] => "(" ++ part ++ ",)"
    | parts => "(" ++ String.intercalate ", " parts ++ ")"
  | .dict entries => (quotedEntries? entries).map fun parts =>
    "\x7b" ++ String.intercalate ", " parts ++ "\x7d"

/-- The quoted texts of some values. -/
def quotedItems? : List Value → Option (List String)
  | [] => some []
  | item :: items => do
    let part ← quoted? item
    let parts ← quotedItems? items
    return part :: parts

/-- The quoted texts of the entries of a dictionary. -/
def quotedEntries? : List (Value × Value) → Option (List String)
  | [] => some []
  | (key, item) :: entries => do
    let keyPart ← quoted? key
    let part ← quoted? item
    let parts ← quotedEntries? entries
    return (keyPart ++ ": " ++ part) :: parts

end

/-- The plain text of a value: a text itself, and the quoted text of anything else. -/
def text? : Value → Option String
  | .text s => some s
  | v => v.quoted?

/-- The plain text of a text is the text. -/
@[simp] theorem text?_text (s : String) : text? (.text s) = some s := rfl

/-! ### Dictionaries -/

mutual

/-- Whether two values are the same key: truth values and numbers are compared by their
number, and everything else must be of one kind. -/
def sameKey : Value → Value → Bool
  | .null, .null => true
  | .text s, .text t => s == t
  | .bytes a, .bytes b => a == b
  | .tuple a, .tuple b => sameKeys a b
  | .real x, .real y => x.eq y
  | .real x, .int n => x.eqInt n
  | .real x, .bool b => x.eqInt (if b then 1 else 0)
  | .int n, .real x => x.eqInt n
  | .bool b, .real x => x.eqInt (if b then 1 else 0)
  | .int n, .int m => n == m
  | .int n, .bool b => n == if b then 1 else 0
  | .bool b, .int n => n == if b then 1 else 0
  | .bool a, .bool b => a == b
  | _, _ => false

/-- `sameKey` member by member. -/
def sameKeys : List Value → List Value → Bool
  | [], [] => true
  | a :: as, b :: bs => sameKey a b && sameKeys as bs
  | _, _ => false

end

mutual

/-- The kind of what keeps a value from being looked up: a list or a dictionary, the value
itself or the first one in it. -/
def notKey? : Value → Option String
  | .list items => some (kindName (.list items))
  | .dict entries => some (kindName (.dict entries))
  | .tuple items => notKeys? items
  | _ => none

/-- `notKey?` of the first of some values that has one. -/
def notKeys? : List Value → Option String
  | [] => none
  | item :: items => (notKey? item).or (notKeys? items)

end

/-- The entries with one more: under a key already there the item is replaced and the key
stays, else the entry comes last. -/
def putEntry (key item : Value) : List (Value × Value) → List (Value × Value)
  | [] => [(key, item)]
  | (k, old) :: entries =>
    if sameKey k key then (k, item) :: entries else (k, old) :: putEntry key item entries

/-- A dictionary from its entries. -/
def dictOf (entries : List (Value × Value)) : Value :=
  .dict (entries.foldl (fun done (key, item) => putEntry key item done) [])

/-- The item under a key. -/
def lookup? (key : Value) (entries : List (Value × Value)) : Option Value :=
  (entries.find? fun entry => sameKey entry.1 key).map (·.2)

end Value

end TraceLog
