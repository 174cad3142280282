import TraceLog.Number.Binary64
import TraceLog.Text.Blank
import TraceLog.Text.Digit
import TraceLog.Text.Letter

/-!
# Reading Numbers

A real number is written as an optional sign followed by decimal digits with an optional
point and an optional exponent, or by one of the words `inf`, `infinity` and `nan` in any
case. Single underscores may stand between digits. Digits of every script count as decimal
digits, and blanks around the number are dropped: the six blanks of ASCII that are
characters of layout, and every blank beyond ASCII.

The value is the exact decimal rounded once.

## Main definitions

* `readReal?`: the number that a text writes.
* `readAsciiReal?`: the same for a text of ASCII characters, or raw bytes.
* `naturalOfDigits`: the value of decimal digits.
-/

namespace TraceLog.Number

open Text

/-- The value of a list of digits, most significant first. -/
def naturalOfDigits (digits : List Nat) : Nat :=
  digits.foldl (fun n d => n * 10 + d) 0

/-- The value of a text of ASCII digits. -/
def naturalOf (s : List Char) : Nat :=
  naturalOfDigits (s.map fun c => c.toNat - 48)

/-- A blank of ASCII that is a character of layout. -/
def isLayoutBlank (c : Char) : Bool :=
  c == ' ' || (9 ≤ c.toNat && c.toNat ≤ 13)

/-- A decimal digit of ASCII. -/
def isAsciiDigit (c : Char) : Bool :=
  '0' ≤ c && c ≤ '9'

/-- The text without its underscores; none when an underscore does not stand between two
digits. `previous` is the character before the text. -/
def dropUnderscores? (previous : Char) : List Char → Option (List Char)
  | [] => if previous = '_' then none else some []
  | c :: rest =>
    if c = '_' then
      if isAsciiDigit previous then dropUnderscores? c rest else none
    else if previous = '_' && !isAsciiDigit c then none
    else (dropUnderscores? c rest).map (c :: ·)

/-- The exponent at the end of a number: none at all, or the letter, an optional sign and
digits. -/
def readExponent? : List Char → Option Int
  | [] => some 0
  | c :: rest =>
    if c = 'e' ∨ c = 'E' then
      let (negative, digits) := match rest with
        | '-' :: more => (true, more)
        | '+' :: more => (false, more)
        | more => (false, more)
      if digits ≠ [] ∧ digits.all isAsciiDigit then
        some (if negative then -(naturalOf digits : Int) else naturalOf digits)
      else none
    else none

/-- The number nearest to `count` times ten to the power `exponent`. A magnitude far outside
of the finite numbers is not computed. -/
def ofDecimal (negative : Bool) (count : Nat) (exponent : Int) : Binary64 :=
  let lead := (Nat.toDigits 10 count).length + exponent
  if count = 0 ∨ lead < -400 then .finite negative 0
  else if 400 < lead then .infinite negative
  else if 0 ≤ exponent then Binary64.ofRatio negative (count * Nat.pow 10 exponent.toNat) 1
  else Binary64.ofRatio negative count (Nat.pow 10 (-exponent).toNat)

/-- A number without its sign. -/
def readMagnitude? (negative : Bool) (s : List Char) : Option Binary64 :=
  let word := smalls s
  if word = ['i', 'n', 'f'] ∨ word = ['i', 'n', 'f', 'i', 'n', 'i', 't', 'y'] then
    some (.infinite negative)
  else if word = ['n', 'a', 'n'] then some .nan
  else
    let whole := s.takeWhile isAsciiDigit
    let (fraction, rest) := match s.dropWhile isAsciiDigit with
      | '.' :: more => (more.takeWhile isAsciiDigit, more.dropWhile isAsciiDigit)
      | more => ([], more)
    if whole = [] ∧ fraction = [] then none
    else (readExponent? rest).map fun e =>
      ofDecimal negative (naturalOf (whole ++ fraction)) (e - fraction.length)

/-- The number that a text of ASCII characters writes. -/
def readAsciiReal? (s : List Char) : Option Binary64 := do
  let core := ((s.dropWhile isLayoutBlank).reverse.dropWhile isLayoutBlank).reverse
  let plain ← dropUnderscores? ' ' core
  match plain with
  | '-' :: rest => readMagnitude? true rest
  | '+' :: rest => readMagnitude? false rest
  | rest => readMagnitude? false rest

/-- A character in the spelling of ASCII: a blank beyond ASCII becomes a space, a digit of
another script the same digit of ASCII. Any other character beyond ASCII becomes a question
mark, which is part of no number. -/
def asciiSpelling (c : Char) : Char :=
  if c.toNat < 127 then c
  else if isBlank c then ' '
  else match digitValue? c with
    | some d => Char.ofNat (48 + d)
    | none => '?'

/-- The number that a text writes. -/
def readReal? (s : List Char) : Option Binary64 :=
  readAsciiReal? (s.map asciiSpelling)

end TraceLog.Number
