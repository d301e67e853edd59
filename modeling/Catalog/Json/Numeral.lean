import Catalog.Number.Double

/-!
Numbers as JSON writes them, and the values they are read as.

An integer within 64 bits is itself. Any other number is a double, read in two roundings: first
of the leading digits, as many as fit in 64 bits, then of their product with a power of ten or
their quotient by one. A number too large for a double has no value.
-/

namespace Catalog.Json

open Catalog.Number

/-- The parts of a number's text: digits, and signed digits for the power of ten. -/
structure Numeral where
  negative : Bool
  whole : List Char
  fraction : List Char
  scale : Int
  /-- Written with neither a point nor a power of ten. -/
  isWhole : Bool
  deriving DecidableEq

inductive Quantity
  | int (i : Int)
  | double (d : Double)
  deriving DecidableEq

/-- The number of the leading digits that fit in 64 bits, after `n`, and how many they are. -/
def takeDigits (n : Nat) : List Char → Nat × Nat
  | [] => (n, 0)
  | c :: cs =>
    let next := 10 * n + (c.toNat - '0'.toNat)
    if next < Nat.pow 2 64 then
      let (m, count) := takeDigits next cs
      (m, count + 1)
    else (n, 0)

/-- A double over a power of ten too large to divide by at once. -/
def shrink (d : Double) (scale : Int) : Double × Int :=
  if scale < -308 && d.mantissa != 0 then
    shrink (d.divMagnitude (.ofDecimal false 1 308)) (scale + 308)
  else (d, scale)
termination_by (-scale).toNat
decreasing_by simp_all; omega

/-- `digits · 10 ^ scale`, each step rounded; nothing if it is too large. -/
def scaled? (digits : Nat) (scale : Int) : Option Double :=
  let (d, scale) := shrink (.ofRatio false digits 1) scale
  if d.mantissa = 0 then some (.zero false)
  else if scale > 308 then none
  else
    let power := Double.ofDecimal false 1 scale.natAbs
    let d := if scale ≥ 0 then d.mulMagnitude power else d.divMagnitude power
    if d.isFinite then some d else none

namespace Numeral

def value? (n : Numeral) : Option Quantity :=
  let (digits, taken) := takeDigits 0 n.whole
  let asDouble (d : Double) : Quantity := .double (if n.negative then d.neg else d)
  if n.isWhole && taken = n.whole.length then
    if !n.negative then some (.int digits)
    -- There is no negative zero among the integers.
    else if digits = 0 || digits > Nat.pow 2 63 then some (asDouble (.ofRatio false digits 1))
    else some (.int (-digits))
  else
    let (digits, more) := takeDigits digits n.fraction
    (scaled? digits ((n.whole.length - taken : Nat) - (more : Int) + n.scale)).map asDouble

end Numeral

end Catalog.Json
