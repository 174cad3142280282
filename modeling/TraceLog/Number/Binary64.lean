/-!
# Binary Floating-Point Numbers

The numbers of the 64-bit binary format with exact arithmetic. A finite number is counted
in units of the smallest positive one, which is 2 to the power -1074, so that every finite
number is a sign and a natural number of units, comparison is comparison of integers, and
an operation is its exact result rounded once: to the nearest number, a tie to the even
one, and to infinity beyond the largest number.

## Main definitions

* `Binary64`: a number, signed zeros and infinities included, or not a number.
* `roundDiv`: a quotient rounded to the nearest integer, a tie to the even one.
* `Binary64.ofRatio`: the number nearest to a quotient.
* `Binary64.lt`, `Binary64.add`, `Binary64.mul`, `Binary64.truncate?`.
* `Binary64.isWithin`: the numbers up to a bound.
-/

namespace TraceLog.Number

/-- The quotient rounded to the nearest integer, a tie to the even one. -/
def roundDiv (num den : Nat) : Nat :=
  let q := num / den
  let twice := 2 * (num % den)
  if twice < den then q
  else if den < twice then q + 1
  else if q % 2 = 0 then q else q + 1

/-- A number of the 64-bit binary format. -/
inductive Binary64 where
  /-- Not a number. -/
  | nan
  | infinite (negative : Bool)
  /-- A sign, and a magnitude in units of 2 to the power -1074. -/
  | finite (negative : Bool) (units : Nat)
  deriving DecidableEq, Repr, Inhabited

namespace Binary64

/-- The number of units in one. -/
def unitsPerOne : Nat := Nat.pow 2 1074

/-- The largest finite magnitude, in units: 53 binary ones. -/
def largestUnits : Nat := (Nat.pow 2 53 - 1) * Nat.pow 2 2045

/-- Zero, with positive sign. -/
def zero : Binary64 := .finite false 0

/-- The magnitude nearest to `num / den` units: at most 53 binary digits are kept. -/
def roundUnits (num den : Nat) : Nat :=
  let dropped := Nat.log2 (num / den) - 52
  roundDiv num (den * Nat.pow 2 dropped) * Nat.pow 2 dropped

/-- The number nearest to a quotient of units. -/
def ofUnitRatio (negative : Bool) (num den : Nat) : Binary64 :=
  let units := roundUnits num den
  if largestUnits < units then .infinite negative else .finite negative units

/-- The number nearest to a quotient. -/
def ofRatio (negative : Bool) (num den : Nat) : Binary64 :=
  ofUnitRatio negative (num * unitsPerOne) den

/-- The number nearest to an integer; none when the integer is beyond all finite numbers. -/
def ofInt? (n : Int) : Option Binary64 :=
  match ofRatio (n < 0) n.natAbs 1 with
  | .infinite _ => none
  | x => some x

/-- A sign and a magnitude as an integer. -/
def signedUnits (negative : Bool) (units : Nat) : Int :=
  if negative then -(units : Int) else units

/-- Whether the sign is set. -/
def isNegative : Binary64 → Bool
  | .nan => false
  | .infinite negative => negative
  | .finite negative _ => negative

/-- Whether a number is zero of either sign. -/
def isZero : Binary64 → Bool
  | .finite _ units => units == 0
  | _ => false

/-! ### Comparison -/

/-- The order of numbers; nothing is below or above what is not a number. -/
def lt : Binary64 → Binary64 → Bool
  | .nan, _ => false
  | _, .nan => false
  | .infinite s, .infinite t => s && !t
  | .infinite s, .finite .. => s
  | .finite .., .infinite t => !t
  | .finite s u, .finite t v => signedUnits s u < signedUnits t v

/-- Numerical equality: the two zeros are equal, and what is not a number differs from
everything. -/
def eq : Binary64 → Binary64 → Bool
  | .nan, _ => false
  | _, .nan => false
  | .infinite s, .infinite t => s == t
  | .finite s u, .finite t v => signedUnits s u == signedUnits t v
  | _, _ => false

/-- Whether a number equals an integer. -/
def eqInt (x : Binary64) (n : Int) : Bool :=
  match x with
  | .finite s u => signedUnits s u == n * unitsPerOne
  | _ => false

/-! ### Arithmetic -/

/-- The sum. Opposite infinities have none. A sum of zero is negative only when both terms
are. -/
def add : Binary64 → Binary64 → Binary64
  | .nan, _ => .nan
  | _, .nan => .nan
  | .infinite s, .infinite t => if s = t then .infinite s else .nan
  | .infinite s, .finite .. => .infinite s
  | .finite .., .infinite t => .infinite t
  | .finite s u, .finite t v =>
    let sum := signedUnits s u + signedUnits t v
    if sum = 0 then .finite (s && t && u == 0 && v == 0) 0
    else ofUnitRatio (sum < 0) sum.natAbs 1

/-- The product. Zero times infinity has none. -/
def mul : Binary64 → Binary64 → Binary64
  | .nan, _ => .nan
  | _, .nan => .nan
  | .infinite s, .infinite t => .infinite (s != t)
  | .infinite s, .finite t v => if v = 0 then .nan else .infinite (s != t)
  | .finite s u, .infinite t => if u = 0 then .nan else .infinite (s != t)
  | .finite s u, .finite t v => ofUnitRatio (s != t) (u * v) unitsPerOne

/-- The integer part; none but of finite numbers. -/
def truncate? : Binary64 → Option Int
  | .finite s u => some (signedUnits s (u / unitsPerOne))
  | _ => none

/-! ### Ranges -/

/-- Whether a number is finite and not further from zero than `bound`. -/
def isWithin (bound : Nat) : Binary64 → Bool
  | .finite _ units => units ≤ bound * unitsPerOne
  | _ => false

/-- Zero lies within every range. -/
theorem isWithin_zero (bound : Nat) : zero.isWithin bound = true := by
  simp [isWithin, zero]

/-! ### Laws of the order -/

/-- No number is below itself. -/
@[simp] theorem lt_irrefl (x : Binary64) : lt x x = false := by
  cases x <;> simp [lt]

/-- The order is transitive, also through infinities. -/
theorem lt_trans {x y z : Binary64} (hxy : lt x y = true) (hyz : lt y z = true) :
    lt x z = true := by
  cases x <;> cases y <;> cases z <;> simp_all [lt]
  omega

end Binary64

end TraceLog.Number
