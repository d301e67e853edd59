import Catalog.Number.Double

/-!
The shortest decimal that reads back as a given double, and of the shortest the nearest.
-/

namespace Catalog.Number

/-- The number `digits · 10 ^ scale`. -/
structure Decimal where
  digits : Nat
  scale : Int
  deriving DecidableEq, Repr

namespace Decimal

def digitChars (d : Decimal) : List Char := Nat.toDigits 10 d.digits

/-- Where the decimal point stands, counted from the first digit. -/
def point (d : Decimal) : Int := d.digitChars.length + d.scale

end Decimal

namespace Double

/-- Four times the mantissa, and around it the ends of the interval that rounds to this double. -/
def quarters (d : Double) : Nat × Nat × Nat :=
  let m := d.mantissa
  -- Below a power of two the next smaller double is only half as far away.
  let below := if m = Nat.pow 2 52 && d.exponentBits > 1 then 1 else 2
  (4 * m - below, 4 * m, 4 * m + 2)

/-- The number of digits before the point; of a number below a tenth, less than none. -/
def decimalSize (d : Double) : Int :=
  let (num, den) := d.ratio
  ((Nat.toDigits 10 (num * Nat.pow 10 400 / den)).length : Int) - 400

/-- The nearest decimal of `count` digits, if one of that length reads back as `d`; of two that
are equally near, the one that `tie` says. -/
def decimalOfSize? (tie : Tie) (d : Double) (count : Nat) : Option Decimal :=
  let scale := d.decimalSize - count
  let power := d.exponent - 2
  let (low, mid, high) := d.quarters
  let units (x : Nat) := x * Nat.pow 2 power.toNat * Nat.pow 10 (-scale).toNat
  let den := Nat.pow 2 (-power).toNat * Nat.pow 10 scale.toNat
  let reads (c : Nat) : Bool :=
    if d.mantissa % 2 = 0 then units low ≤ c * den && c * den ≤ units high
    else units low < c * den && c * den < units high
  let nearest := roundDiv tie (units mid) den
  let floor := units mid / den
  let other := if nearest = floor then floor + 1 else floor
  let pick := if reads nearest then some nearest else if reads other then some other else none
  pick.map fun c =>
    -- A carry into one more digit leaves a power of ten.
    if c = Nat.pow 10 count then ⟨1, scale + count⟩ else ⟨c, scale⟩

/-- Seventeen digits always suffice. -/
def shortest (tie : Tie) (d : Double) : Decimal :=
  ((List.range 17).findSome? fun n => d.decimalOfSize? tie (n + 1)).getD ⟨0, 0⟩

end Double

end Catalog.Number
