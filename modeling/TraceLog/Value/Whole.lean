import TraceLog.Fault
import TraceLog.Number.Reading

/-!
# Values as Integers

How an integer is read from a text or a byte string: an optional sign and decimal digits,
with single underscores between digits. Digits of every script count, and blanks around the
number are dropped, as for real numbers. More digits than the limit are refused, whatever
stands behind them.

## Main definitions

* `Value.readInteger`: the integer that characters write.
* `Value.integerOfText`, `Value.integerOfBytes`: the integer of a text and of a byte string.
-/

namespace TraceLog.Value

open Number

/-- The integer that characters write, in the spelling of ASCII; `quoted` is how a fault
shows them. -/
def readInteger (quoted : String) (s : List Char) : Except NumberFault Int :=
  let (negative, s) := match s.dropWhile isLayoutBlank with
    | '-' :: rest => (true, rest)
    | '+' :: rest => (false, rest)
    | rest => (false, rest)
  let inNumber (c : Char) : Bool := isAsciiDigit c || c == '_'
  match dropUnderscores? ' ' (s.takeWhile inNumber) with
  | none => .error (.notInteger quoted)
  | some digits =>
    if digitLimit < digits.length then .error (.tooManyDigits digits.length)
    else if digits ≠ [] ∧ (s.dropWhile inNumber).all isLayoutBlank then
      .ok (if negative then -(naturalOf digits : Int) else naturalOf digits)
    else .error (.notInteger quoted)

/-- The integer that a text writes. -/
def integerOfText (s : List Char) : Except NumberFault Int :=
  readInteger (Text.quoted (String.ofList s)) (s.map asciiSpelling)

/-- The integer that a byte string writes. A fault shows its first two hundred bytes. -/
def integerOfBytes (bs : List UInt8) : Except NumberFault Int :=
  readInteger (Text.quotedBytes (bs.take 200)) (bs.map fun b => Char.ofNat b.toNat)

end TraceLog.Value
