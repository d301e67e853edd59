/-!
Integers in decimal digits.
-/

namespace Catalog.Text

/-- The number that a non-empty run of digits stands for. -/
def readDigits? (cs : List Char) : Option Nat :=
  if !cs.isEmpty && cs.all Char.isDigit then some (Nat.ofDigitChars 10 cs 0) else none

/-- A number of at most `max`. A plus may stand before it. -/
def readUnsigned? (max : Nat) (s : String) : Option Nat :=
  let digits := match s.toList with
    | '+' :: cs => cs
    | cs => cs
  (readDigits? digits).filter (· ≤ max)

/-- A number between `min` and `max`. A sign may stand before it. -/
def readSigned? (min max : Int) (s : String) : Option Int :=
  let value := match s.toList with
    | '-' :: cs => (readDigits? cs).map fun n => -(n : Int)
    | '+' :: cs => (readDigits? cs).map Int.ofNat
    | cs => (readDigits? cs).map Int.ofNat
  value.filter fun i => min ≤ i && i ≤ max

def maxUnsigned (bits : Nat) : Nat := Nat.pow 2 bits - 1

/-- A number that fits in so many bits, two's complement. -/
def readWord? (bits : Nat) (s : String) : Option Int :=
  readSigned? (-Int.pow 2 (bits - 1)) (Int.pow 2 (bits - 1) - 1) s

end Catalog.Text
