import TraceLog.Fault
import TraceLog.Number.Reading

/-!
# Values as Real Numbers

How a value is read as a real number, added to one, and laid out as one. Truth values count
as zero and one. Texts and byte strings are read as numbers where a conversion is asked for,
but have no layout of their own.

## Main definitions

* `Value.toReal`: the conversion to a real number.
* `Value.addTo`: a real number with a value added to it.
* `Value.fixedText`, `Value.generalText`: the layouts with fixed places and with six
  significant digits.
-/

namespace TraceLog.Value

open Number

/-- The real number nearest to an integer, unless it is beyond all of them. -/
def realOfInt (n : Int) : Except Fault Binary64 :=
  (Binary64.ofInt? n).elim (.error (.number .integerBeyondReals)) .ok

/-- The real number that a value stands for or writes. -/
def toReal : Value → Except Fault Binary64
  | .real x => .ok x
  | .int n => realOfInt n
  | .bool b => realOfInt (if b then 1 else 0)
  | .text s =>
    match readReal? s.toList with
    | some x => .ok x
    | none => .error (.number (.notReal (Text.quoted s)))
  | .bytes bs =>
    match readAsciiReal? (bs.map fun b => Char.ofNat b.toNat) with
    | some x => .ok x
    | none => .error (.number (.notReal (Text.quotedBytes bs)))
  | v => .error (.number (.notRealKind v.kindName))

/-- The sum of a real number and a value, which has to be a number. -/
def addTo (x : Binary64) : Value → Except Fault Binary64
  | .real y => .ok (x.add y)
  | .int n => (realOfInt n).map x.add
  | .bool b => (realOfInt (if b then 1 else 0)).map x.add
  | v => .error (.number (.operands "+" (kindName (.real x)) v.kindName))

/-- The number of a value that has layouts of numbers; `letter` names the layout asked
for. -/
def numberFor (letter : Char) : Value → Except Fault Binary64
  | .real x => .ok x
  | .int n => realOfInt n
  | .bool b => realOfInt (if b then 1 else 0)
  | .text s => .error (.number (.unknownLayout letter (kindName (.text s))))
  | v => .error (.number (.noLayouts v.kindName))

/-- A value with `places` digits after the point. -/
def fixedText (places : Nat) (v : Value) : Except Fault String :=
  (numberFor 'f' v).map (Binary64.fixedText places)

/-- A value with six significant digits. -/
def generalText (v : Value) : Except Fault String :=
  (numberFor 'g' v).map (Binary64.textWith (significant false 'e' 6))

/-- A real number stands for itself. -/
@[simp] theorem toReal_real (x : Binary64) : toReal (.real x) = .ok x := rfl

end TraceLog.Value
