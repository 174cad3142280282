import TraceLog.Template.Directive
import TraceLog.Value.Real

/-!
# Filling Templates

A template is filled from a tuple of arguments, each directive and each star taking the next
one, or from a single argument, which a directive with a key looks the key up in. Of a tuple
nothing may be left over. What is filled in is never read as a template again.

Templates are texts or byte strings. A byte string is handled as a text of characters below
256; it differs in what its directives accept and in some wordings.

## Main definitions

* `Dialect`: text or bytes.
* `convert`: one argument as a directive shows it.
* `fill`: a template filled from its arguments.
* `Value.remainder`: the operation on values, for templates of any kind.
-/

namespace TraceLog.Template

open Number

/-- What a template and its result are made of. -/
inductive Dialect where
  | text
  | bytes
  deriving DecidableEq, Repr

/-! ### Arguments -/

/-- Arguments that are still to be taken. -/
inductive Supply where
  | each (rest : List Value)
  | single (value : Option Value)
  deriving Repr

/-- The arguments of a template: what keys are looked up in, and what is to be taken. -/
structure Arguments where
  mapping : Option Value
  supply : Supply
  deriving Repr

/-- The arguments that a value stands for. -/
def Arguments.ofValue (dialect : Dialect) : Value → Arguments
  | .tuple items => ⟨none, .each items⟩
  | v =>
    match v, dialect with
    | .dict _, _ | .list _, _ | .bytes _, .text => ⟨some v, .single (some v)⟩
    | _, _ => ⟨none, .single (some v)⟩

/-- The next argument, and those after it. -/
def Arguments.next (args : Arguments) : Except Fault (Value × Arguments) :=
  match args.supply with
  | .each (v :: rest) => .ok (v, { args with supply := .each rest })
  | .single (some v) => .ok (v, { args with supply := .single none })
  | _ => .error (.template .notEnoughArguments)

/-- Whether an argument is left over. A mapping may be left unused. -/
def Arguments.leftOver (args : Arguments) : Bool :=
  match args.mapping, args.supply with
  | none, .each rest => !rest.isEmpty
  | none, .single value => value.isSome
  | some _, _ => false

/-- Characters below 256 as bytes. -/
def toBytes (s : List Char) : List UInt8 :=
  s.map fun c => UInt8.ofNat c.toNat

/-- Bytes as characters below 256. -/
def ofBytes (bs : List UInt8) : List Char :=
  bs.map fun b => Char.ofNat b.toNat

/-- The item of a mapping under a key. -/
def lookUp (dialect : Dialect) (mapping : Value) (name : List Char) : Except Fault Value :=
  let key : Value := match dialect with
    | .text => .text (String.ofList name)
    | .bytes => .bytes (toBytes name)
  match mapping with
  | .dict entries =>
    match Value.lookup? key entries with
    | some v => .ok v
    | none => .error (.template (.missingKey (key.quoted?.getD "")))
  | _ => .error (.template .listKey)

/-- The arguments for a directive with this key. -/
def Arguments.select (dialect : Dialect) (args : Arguments) : Key → Except Fault Arguments
  | .absent => .ok args
  | key =>
    match args.mapping, key with
    | none, _ => .error (.template .mappingRequired)
    | some mapping, .named name => do
      let v ← lookUp dialect mapping name
      return { args with supply := .single (some v) }
    | some _, _ => .error (.template .incompleteKey)

/-! ### Sizes -/

/-- The greatest width. -/
def widthLimit : Nat := 9223372036854775807

/-- The greatest precision. -/
def precisionLimit : Nat := 2147483647

/-- The greatest number of characters that a directive may make. -/
def lengthLimit : Nat := 10000000000

/-- The number that the next argument gives for a star; it has to lie within the range of
the named type, whose greatest number is `limit`. -/
def starNumber (limit : Nat) (target : String) (args : Arguments) :
    Except Fault (Int × Arguments) := do
  let (v, args) ← args.next
  match v.integer? with
  | none => throw (.template .starWantsInteger)
  | some n =>
    if n < -(limit : Int) - 1 ∨ limit < n then throw (.template (.starTooLarge target))
    return (n, args)

/-- The width of a directive: none when it is absent. It is negative for padding on the
right; the one negative width that has no opposite within the range pads nothing. -/
def takeWidth (size : Size) (args : Arguments) : Except Fault (Option Int × Arguments) :=
  match size with
  | .absent => .ok (none, args)
  | .given n =>
    if widthLimit < n then .error (.template .widthTooBig) else .ok (some n, args)
  | .star => do
    let (n, args) ← starNumber widthLimit "ssize_t" args
    return (some (if n < -(widthLimit : Int) then 0 else n), args)

/-- The precision of a directive: none when it is absent. A negative one counts as zero. -/
def takePrecision (dialect : Dialect) (size : Size) (args : Arguments) :
    Except Fault (Option Nat × Arguments) :=
  match size with
  | .absent => .ok (none, args)
  | .given n =>
    if precisionLimit < n then
      .error (.template (.precisionTooBig (if dialect = .text then "precision" else "prec")))
    else .ok (some n, args)
  | .star => do
    let (n, args) ← starNumber precisionLimit "int" args
    return (some n.toNat, args)

/-! ### Conversions -/

/-- An argument as a directive shows it, before it is padded: for a number its sign, a mark
that stays in front of padding zeros, and the rest. -/
structure Shown where
  numeric : Bool := false
  negative : Bool := false
  mark : List Char := []
  body : List Char
  deriving Repr

/-- An integer with at least `precision` digits, in the radix of its letter. The alternate
form marks the radices other than ten. -/
def showInteger (letter : Char) (alternate : Bool) (precision : Option Nat) (n : Int) :
    Except Fault Shown := do
  let places := precision.getD 0
  if precisionLimit - 3 < places then throw (.template .precisionTooLarge)
  let radix := if letter = 'o' then 8 else if letter = 'x' ∨ letter = 'X' then 16 else 10
  if radix = 10 ∧ (Value.intText? n).isNone then throw (.number .tooLongToWrite)
  let digits := inRadix radix places n.natAbs
  return {
    numeric := true
    negative := n < 0
    mark := if alternate ∧ radix ≠ 10 then ['0', letter] else []
    body := if letter = 'X' then digits.map Char.toUpper else digits }

/-- The integer that a value gives for an integer conversion. Real numbers are cut to their
integer parts for radix ten, and are refused for the others. -/
def integerFor (letter : Char) (v : Value) : Except Fault Int :=
  let decimal := letter = 'd' ∨ letter = 'i' ∨ letter = 'u'
  match v, v.integer? with
  | _, some n => .ok n
  | .real x, none =>
    if decimal then
      match x.truncate?, x with
      | some n, _ => .ok n
      | none, .nan => .error (.number .nanToInteger)
      | none, _ => .error (.number .infinityToInteger)
    else .error (.template (.integerRequired letter v.kindName))
  | _, none =>
    if decimal then .error (.template (.numberRequired letter v.kindName))
    else .error (.template (.integerRequired letter v.kindName))

/-- The real number that a value stands for. -/
def realNumber (v : Value) : Except Fault Binary64 :=
  match v, v.integer? with
  | .real x, _ => .ok x
  | _, some n => Value.realOfInt n
  | _, none => .error (.template (.realRequired v.kindName))

/-- The real number that a value gives for a real conversion. -/
def realFor (dialect : Dialect) (v : Value) : Except Fault Binary64 :=
  match dialect with
  | .text => realNumber v
  | .bytes => (realNumber v).mapError fun _ => .template (.floatRequired v.kindName)

/-- The places that a letter of real numbers asks for, six where no precision is given. The
general layout drops zeros at the end, and no number has more digits than a few hundred, so
that a greater precision changes nothing there. The greatest of all leaves the scientific
layout no room for its first digit, and counts as none. -/
def placesFor (letter : Char) (alternate : Bool) (precision : Option Nat) : Nat :=
  let places := precision.getD 6
  if letter = 'e' ∨ letter = 'E' then if places = precisionLimit then 0 else places
  else if (letter = 'g' ∨ letter = 'G') ∧ !alternate then min places 1100
  else places

/-- A real number in the layout of its letter. -/
def showReal (letter : Char) (alternate : Bool) (precision : Option Nat) (x : Binary64) :
    Shown :=
  let places := placesFor letter alternate precision
  let upper := letter.isUpper
  let mark := if upper then 'E' else 'e'
  let body := match x with
    | .nan => "nan".toList
    | .infinite _ => "inf".toList
    | .finite _ units =>
      if letter = 'e' ∨ letter = 'E' then scientific alternate mark places units
      else if letter = 'f' ∨ letter = 'F' then fixedPlaces alternate places units
      else significant alternate mark places units
  { numeric := true
    negative := x.isNegative
    body := if upper then body.map Char.toUpper else body }

/-- A character given by itself or by its place. Texts hold no surrogates, so that the place of one
gives no character. -/
def showCharacter (dialect : Dialect) (v : Value) : Except Fault (List Char) :=
  match dialect, v, v.integer? with
  | .text, _, some n =>
    if 0 ≤ n ∧ n < 0x110000 then
      if 0xD800 ≤ n ∧ n < 0xE000 then .error (.template .surrogate)
      else .ok [Char.ofNat n.toNat]
    else .error (.template .characterTooLarge)
  | .text, .text s, none =>
    if s.length = 1 then .ok s.toList else .error (.template .characterRequired)
  | .text, _, none => .error (.template .characterRequired)
  | .bytes, _, some n =>
    if 0 ≤ n ∧ n < 256 then .ok [Char.ofNat n.toNat] else .error (.template .byteTooLarge)
  | .bytes, .bytes bs, none =>
    if bs.length = 1 then .ok (ofBytes bs) else .error (.template .byteRequired)
  | .bytes, _, none => .error (.template .byteRequired)

/-- The text of a value for the letters of plain and quoted texts; none for other letters.
In byte strings the plain form is for byte strings only, and the quoted form keeps to
ASCII. -/
def textFor? (dialect : Dialect) (letter : Char) (v : Value) : Option (Except Fault String) :=
  match dialect with
  | .text =>
    if letter = 's' then some v.plainText
    else if letter = 'r' then some v.quotedText
    else if letter = 'a' then some (v.quotedText.map Text.asciiOnly)
    else none
  | .bytes =>
    if letter = 's' ∨ letter = 'b' then
      match v with
      | .bytes bs => some (.ok (String.ofList (ofBytes bs)))
      | v => some (.error (.template (.bytesRequired v.kindName)))
    else if letter = 'r' ∨ letter = 'a' then some (v.quotedText.map Text.asciiOnly)
    else none

/-- The fault for a letter that converts nothing. A text names printable ASCII letters and
shows the others as a question mark. Byte strings name every letter behind a digit, and else
the ASCII ones alone. -/
def unsupported (dialect : Dialect) (d : Directive) (letter : Char) : Fault :=
  let n := letter.toNat
  match dialect with
  | .text =>
    .template (.unsupported (if 31 ≤ n ∧ n ≤ 126 then letter else '?') n d.position)
  | .bytes =>
    .template (if n < 128 ∨ d.behindDigit then .unsupported letter n d.position else .unshowable)

/-- One argument as a directive shows it. -/
def convert (dialect : Dialect) (d : Directive) (letter : Char) (precision : Option Nat)
    (v : Value) : Except Fault Shown :=
  match textFor? dialect letter v with
  | some outcome => do
    let s ← outcome
    return { body := match precision with
      | some n => s.toList.take n
      | none => s.toList }
  | none =>
    if letter = 'c' then do return { body := ← showCharacter dialect v }
    else if letter ∈ ['d', 'i', 'u', 'o', 'x', 'X'] then do
      let letter := if dialect = .bytes ∧ letter = 'i' then 'd' else letter
      showInteger letter d.flags.alternate precision (← integerFor letter v)
    else if letter ∈ ['e', 'E', 'f', 'F', 'g', 'G'] then do
      return showReal letter d.flags.alternate precision (← realFor dialect v)
    else .error (unsupported dialect d letter)

/-- What is shown, padded to a width. Zeros stand between the sign and the digits. -/
def pad (flags : Flags) (width : Option Int) (shown : Shown) : List Char :=
  let sign :=
    if shown.negative then ['-']
    else if shown.numeric ∧ flags.plus then ['+']
    else if shown.numeric ∧ flags.blank then [' ']
    else []
  let front := sign ++ shown.mark
  let least := (width.getD 0).natAbs
  if flags.left ∨ width.getD 0 < 0 then padRight least ' ' (front ++ shown.body)
  else if shown.numeric ∧ flags.zero then
    front ++ padLeft (least - front.length) '0' shown.body
  else padLeft least ' ' (front ++ shown.body)

/-! ### Filling -/

/-- A directive filled from the arguments, and the arguments after it. -/
def fillDirective (dialect : Dialect) (d : Directive) (args : Arguments) :
    Except Fault (List Char × Arguments) := do
  let args ← args.select dialect d.key
  let (width, args) ← takeWidth d.width args
  let (precision, args) ← takePrecision dialect d.precision args
  match d.conversion with
  | none => throw (.template .incomplete)
  | some letter =>
    let (v, args) ← args.next
    let shown ← convert dialect d letter precision v
    if lengthLimit < (width.getD 0).natAbs then throw (.template .tooLong)
    return (pad d.flags width shown, args)

/-- Pieces filled from the arguments. -/
def fillPieces (dialect : Dialect) : List Piece → Arguments → Except Fault (List Char)
  | [], args =>
    if args.leftOver then
      .error (.template (.leftOver (if dialect = .text then "string" else "bytes")))
    else .ok []
  | .literal c :: pieces, args => do
    let rest ← fillPieces dialect pieces args
    return c :: rest
  | .directive d :: pieces, args => do
    let (front, args) ← fillDirective dialect d args
    let rest ← fillPieces dialect pieces args
    return front ++ rest

/-- A template filled from the arguments that a value stands for. -/
def fill (dialect : Dialect) (template : List Char) (args : Value) :
    Except Fault (List Char) :=
  fillPieces dialect (pieces template) (.ofValue dialect args)

end TraceLog.Template

namespace TraceLog.Value

/-- A template of any kind filled from `args`: texts and byte strings are templates, and
nothing else is. -/
def remainder (template args : Value) : Except Fault Value :=
  match template with
  | .text s => do return .text (String.ofList (← Template.fill .text s.toList args))
  | .bytes bs => do
    return .bytes (Template.toBytes (← Template.fill .bytes (Template.ofBytes bs) args))
  | v => .error (.number (.operands "%" v.kindName args.kindName))

end TraceLog.Value
