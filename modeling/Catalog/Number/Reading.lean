import Catalog.Number.Double
import Catalog.Text.Integer

/-!
Doubles read from decimal text, rounded once: digits, a point among them or none, and a power of
ten after the letter e.
-/

namespace Catalog.Number

open Catalog.Text

/-- The digits at the front, and what follows them. -/
def digitsOf (cs : List Char) : List Char × List Char :=
  (cs.takeWhile Char.isDigit, cs.dropWhile Char.isDigit)

/-- A power of ten with its letter, or nothing at all. -/
def readScale? : List Char → Option Int
  | [] => some 0
  | c :: cs =>
    if c = 'e' || c = 'E' then
      match cs with
      | '-' :: ds => (readDigits? ds).map fun n => -(n : Int)
      | '+' :: ds => (readDigits? ds).map Int.ofNat
      | ds => (readDigits? ds).map Int.ofNat
    else none

def readDouble? (cs : List Char) : Option Double :=
  let (negative, cs) := match cs with
    | '-' :: rest => (true, rest)
    | rest => (false, rest)
  let (whole, rest) := digitsOf cs
  let (fraction, rest) := match rest with
    | '.' :: more => digitsOf more
    | _ => ([], rest)
  if whole.isEmpty && fraction.isEmpty then none
  else
    (readScale? rest).map fun scale =>
      Double.ofDecimal negative (Nat.ofDigitChars 10 (whole ++ fraction) 0)
        (scale - fraction.length)

end Catalog.Number
