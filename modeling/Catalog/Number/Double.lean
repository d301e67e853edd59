/-!
Double-precision numbers as bit patterns, and the double nearest to a ratio or a decimal.

A finite double is `mantissa · 2 ^ exponent`; nothing here computes with hardware floats, so
every value can be reasoned about in integers.
-/

namespace Catalog.Number

/-- A sign bit, eleven bits of exponent and fifty-two of fraction. -/
structure Double where
  bits : UInt64
  deriving DecidableEq, Inhabited, Repr

/-- Where a half goes: to the even neighbour, or up. -/
inductive Tie
  | even
  | up
  deriving DecidableEq, Repr

/-- The quotient as the nearest integer. -/
def roundDiv (tie : Tie) (num den : Nat) : Nat :=
  let floor := num / den
  let twice := 2 * (num % den)
  let down := twice < den || (twice == den && tie = .even && floor % 2 == 0)
  if down then floor else floor + 1

namespace Double

def negative (d : Double) : Bool := d.bits.toNat / Nat.pow 2 63 == 1

def exponentBits (d : Double) : Nat := d.bits.toNat / Nat.pow 2 52 % Nat.pow 2 11

def fractionBits (d : Double) : Nat := d.bits.toNat % Nat.pow 2 52

def isFinite (d : Double) : Bool := d.exponentBits != 2047

def isNaN (d : Double) : Bool := !d.isFinite && d.fractionBits != 0

def mantissa (d : Double) : Nat :=
  if d.exponentBits = 0 then d.fractionBits else Nat.pow 2 52 + d.fractionBits

def exponent (d : Double) : Int := (max d.exponentBits 1 : Nat) - 1075

/-- The magnitude of a finite double as a quotient. -/
def ratio (d : Double) : Nat × Nat :=
  (d.mantissa * Nat.pow 2 d.exponent.toNat, Nat.pow 2 (-d.exponent).toNat)

def infinityBits : Nat := 2047 * Nat.pow 2 52

/-- The double with this sign whose other bits are `magnitude`. -/
def ofMagnitude (negative : Bool) (magnitude : Nat) : Double :=
  ⟨UInt64.ofNat (if negative then Nat.pow 2 63 + magnitude else magnitude)⟩

def zero (negative : Bool) : Double := ofMagnitude negative 0

def infinity (negative : Bool) : Double := ofMagnitude negative infinityBits

/-- The double nearest to `num / den`, a half going to the even one. -/
def ofRatio (negative : Bool) (num den : Nat) : Double :=
  if num = 0 then zero negative
  else
    -- The quotient is between 2 ^ 52 and 2 ^ 54 units of 2 ^ rough.
    let rough : Int := (num.log2 : Int) - den.log2 - 53
    let above := num * Nat.pow 2 (-rough).toNat / (den * Nat.pow 2 rough.toNat) ≥ Nat.pow 2 53
    let unit := max (if above then rough + 1 else rough) (-1074)
    let count := roundDiv .even (num * Nat.pow 2 (-unit).toNat) (den * Nat.pow 2 unit.toNat)
    ofMagnitude negative (min (count + (unit + 1074).toNat * Nat.pow 2 52) infinityBits)

/-- The double nearest to `digits · 10 ^ scale`. -/
def ofDecimal (negative : Bool) (digits : Nat) (scale : Int) : Double :=
  let size := (Nat.toDigits 10 digits).length + scale
  if digits = 0 || size < -330 then zero negative
  else if size > 310 then infinity negative
  else ofRatio negative (digits * Nat.pow 10 scale.toNat) (Nat.pow 10 (-scale).toNat)

/-- The double nearest to an integer. -/
def ofInt (i : Int) : Double := ofRatio (i < 0) i.natAbs 1

def neg (d : Double) : Double := ofMagnitude (!d.negative) (d.bits.toNat % Nat.pow 2 63)

/-- The rounded product of two finite numbers that are not negative. -/
def mulMagnitude (a b : Double) : Double :=
  ofRatio false (a.ratio.1 * b.ratio.1) (a.ratio.2 * b.ratio.2)

/-- The rounded quotient of two finite numbers that are not negative. -/
def divMagnitude (a b : Double) : Double :=
  ofRatio false (a.ratio.1 * b.ratio.2) (a.ratio.2 * b.ratio.1)

end Double

end Catalog.Number
