import TraceLog.Number.Binary64
import TraceLog.Number.Radix

/-!
# Decimal Text of Binary Numbers

Finite binary numbers in decimal: with a fixed number of places, with an exponent, with a
given number of significant digits, and with the fewest digits that read back as the same
number. All digits come from exact integer arithmetic; where digits are dropped the number
is rounded to the nearest, a tie to the even digit.

## Main definitions

* `fixedPlaces`, `scientific`, `significant`: the three layouts of a magnitude.
* `fewestDigits`: the shortest decimal that reads back.
* `Binary64.shortText`: the text of a number with the fewest digits.
* `Binary64.fixedText`: the text of a number with a fixed number of places.
-/

namespace TraceLog.Number

open Binary64

/-- The number of decimal digits of a natural number; one for zero. -/
def decimalLength (n : Nat) : Nat :=
  (Nat.toDigits 10 n).length

/-- The place of the leading decimal digit of a positive magnitude in units: 0 for the
ones, 1 for the tens, -1 for the tenths. -/
def leadingPlace (units : Nat) : Int :=
  if unitsPerOne ≤ units then (decimalLength (units / unitsPerOne) : Int) - 1
  else -(decimalLength ((unitsPerOne - 1) / units) : Int)

/-- The magnitude in units of the decimal place `place`, as a quotient. -/
def scaledTo (units : Nat) (place : Int) : Nat × Nat :=
  if 0 ≤ place then (units, unitsPerOne * Nat.pow 10 place.toNat)
  else (units * Nat.pow 10 (-place).toNat, unitsPerOne)

/-- The magnitude rounded to a multiple of the decimal place `place`, in that multiple. -/
def roundedTo (units : Nat) (place : Int) : Nat :=
  let (num, den) := scaledTo units place
  roundDiv num den

/-- Digits without the zeros at their end. -/
def dropTrailingZeros (s : List Char) : List Char :=
  (s.reverse.dropWhile (· == '0')).reverse

/-! ### Layouts -/

/-- Whole digits and digits after the point; the point is left out with the digits, unless
`keepPoint` is set. -/
def joinPoint (keepPoint : Bool) (whole fraction : List Char) : List Char :=
  if fraction.isEmpty && !keepPoint then whole else whole ++ '.' :: fraction

/-- An exponent: its sign and at least two digits. -/
def exponentText (e : Int) : List Char :=
  (if e < 0 then '-' else '+') :: inRadix 10 2 e.natAbs

/-- A decimal count of the place `-places` in positional notation, split at the point. -/
def splitPlaces (places count : Nat) : List Char × List Char :=
  let digits := inRadix 10 (places + 1) count
  (digits.take (digits.length - places), digits.drop (digits.length - places))

/-- A magnitude with `places` digits after the point. -/
def fixedPlaces (keepPoint : Bool) (places units : Nat) : List Char :=
  let (whole, fraction) := splitPlaces places (roundedTo units (-(places : Int)))
  joinPoint keepPoint whole fraction

/-- The first `places + 1` digits of a magnitude and the place of the first of them, after
rounding. -/
def roundedDigits (places units : Nat) : List Char × Int :=
  if units = 0 then (List.replicate (places + 1) '0', 0)
  else
    let lead := leadingPlace units
    let count := roundedTo units (lead - places)
    if count < Nat.pow 10 (places + 1) then (Nat.toDigits 10 count, lead)
    else (Nat.toDigits 10 (count / 10), lead + 1)

/-- A magnitude with one digit before the point, `places` after it, and an exponent. -/
def scientific (keepPoint : Bool) (mark : Char) (places units : Nat) : List Char :=
  let (digits, lead) := roundedDigits places units
  joinPoint keepPoint (digits.take 1) (digits.drop 1) ++ mark :: exponentText lead

/-- A magnitude with `count` significant digits: in positional notation when its leading
place lies between -4 and `count`, else with an exponent. Trailing zeros after the point
are kept only with `alternate`. -/
def significant (alternate : Bool) (mark : Char) (count units : Nat) : List Char :=
  let count := max count 1
  let (digits, lead) := roundedDigits (count - 1) units
  let tidy (s : List Char) := if alternate then s else dropTrailingZeros s
  if -4 ≤ lead ∧ lead < count then
    let places := ((count : Int) - 1 - lead).toNat
    let (whole, fraction) := splitPlaces places (roundedTo units (-(places : Int)))
    joinPoint alternate whole (tidy fraction)
  else
    joinPoint alternate (digits.take 1) (tidy (digits.drop 1)) ++ mark :: exponentText lead

/-! ### The fewest digits -/

/-- Whether `count` times ten to the power `place` reads back as the magnitude. -/
def readsBack (units count : Nat) (place : Int) : Bool :=
  if 0 ≤ place then roundUnits (count * Nat.pow 10 place.toNat * unitsPerOne) 1 == units
  else roundUnits (count * unitsPerOne) (Nat.pow 10 (-place).toNat) == units

/-- The decimal with the last digit at `place` that is nearest to a magnitude among its two
neighbours on that grid that read back; a tie goes to the even one. -/
def nearestOnGrid? (units : Nat) (place : Int) : Option Nat :=
  let (num, den) := scaledTo units place
  let below := num / den
  let nearest := roundDiv num den
  if readsBack units nearest place then some nearest
  else if readsBack units below place then some below
  else if readsBack units (below + 1) place then some (below + 1)
  else none

/-- The decimal with the fewest digits that reads back as a magnitude: a count and the place
of its last digit. Coarser grids are tried first; `steps` bounds their number. -/
def fewestDigitsFrom (units : Nat) (place : Int) : Nat → Nat × Int
  | 0 => (roundedTo units place, place)
  | steps + 1 =>
    match nearestOnGrid? units place with
    | some count => (count, place)
    | none => fewestDigitsFrom units (place - 1) steps

/-- The decimal with the fewest digits that reads back. Seventeen digits are always enough. -/
def fewestDigits (units : Nat) : Nat × Int :=
  fewestDigitsFrom units (leadingPlace units) 16

/-- The shortest text of a magnitude: positional from the place -4 up to the place 15, with
at least one digit after the point; with an exponent outside of that. -/
def shortMagnitude (units : Nat) : List Char :=
  if units = 0 then ['0', '.', '0']
  else
    let (count, place) := fewestDigits units
    let all := Nat.toDigits 10 count
    let lead := place + all.length - 1
    let digits := dropTrailingZeros all
    if -4 ≤ lead ∧ lead < 16 then
      if lead < 0 then
        '0' :: '.' :: List.replicate (-lead - 1).toNat '0' ++ digits
      else
        let wholeLength := lead.toNat + 1
        let whole := digits.take wholeLength ++
          List.replicate (wholeLength - digits.length) '0'
        let fraction := digits.drop wholeLength
        whole ++ '.' :: (if fraction.isEmpty then ['0'] else fraction)
    else
      joinPoint false (digits.take 1) (digits.drop 1) ++ 'e' :: exponentText lead

/-! ### Texts of numbers -/

/-- The text of a number whose magnitude, when finite, is laid out by `layout`. -/
def Binary64.textWith (layout : Nat → List Char) : Binary64 → String
  | .nan => "nan"
  | .infinite negative => if negative then "-inf" else "inf"
  | .finite negative units =>
    String.ofList (if negative then '-' :: layout units else layout units)

/-- The text of a number with the fewest digits that read back. -/
def Binary64.shortText (x : Binary64) : String :=
  x.textWith shortMagnitude

/-- The text of a number with `places` digits after the point. -/
def Binary64.fixedText (places : Nat) (x : Binary64) : String :=
  x.textWith (fixedPlaces false places)

end TraceLog.Number
