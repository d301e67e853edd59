import Catalog.Number.Shortest

/-!
Written forms of doubles: by shortest digits, with or without a power of ten, and by a fixed
count of places.
-/

namespace Catalog.Number

/-- What a written form decides: from where to where the decimal point may stand for the digits
to be written out, whether a whole number shows a zero after its point, whether a positive power
of ten shows its sign, and which of two equally near decimals is taken. -/
structure Style where
  lowestPoint : Option Int
  highestPoint : Option Int
  pointZero : Bool
  plusSign : Bool
  tie : Tie

/-- Digits written out, whole numbers without a point. -/
def Style.plain : Style := ⟨none, none, false, false, .up⟩

/-- Digits written out from 0.0001 to below 10 ^ 16. -/
def Style.tagged : Style := ⟨some (-3), some 16, true, false, .up⟩

/-- Digits written out from 0.00001 to below 10 ^ 16. -/
def Style.json : Style := ⟨some (-4), some 16, true, true, .even⟩

namespace Decimal

def zeros (n : Int) : List Char := List.replicate n.toNat '0'

def positional (pointZero : Bool) (d : Decimal) : List Char :=
  let ds := d.digitChars
  let tail := if pointZero then ['.', '0'] else []
  if d.scale ≥ 0 then ds ++ zeros d.scale ++ tail
  else if d.point ≤ 0 then ['0', '.'] ++ zeros (-d.point) ++ ds
  else ds.take d.point.toNat ++ ['.'] ++ ds.drop d.point.toNat

def scientific (plusSign : Bool) (d : Decimal) : List Char :=
  let digits := match d.digitChars with
    | c :: c' :: cs => c :: '.' :: c' :: cs
    | cs => cs
  let power := d.point - 1
  digits ++ ['e'] ++ (if plusSign && power ≥ 0 then ['+'] else []) ++ (toString power).toList

def render (style : Style) (d : Decimal) : List Char :=
  let tooLow := style.lowestPoint.any (d.point < ·)
  let tooHigh := style.highestPoint.any (· < d.point)
  if tooLow || tooHigh then d.scientific style.plusSign else d.positional style.pointZero

end Decimal

namespace Double

def sign (d : Double) : List Char := if d.negative then ['-'] else []

/-- The shortest digits that read back, in the given style. -/
def render (d : Double) (style : Style) : String :=
  if d.isNaN then "NaN"
  else if !d.isFinite then String.ofList (d.sign ++ "inf".toList)
  else if d.mantissa = 0 then
    String.ofList (d.sign ++ (if style.pointZero then "0.0".toList else ['0']))
  else String.ofList (d.sign ++ (d.shortest style.tie).render style)

/-- The exact value with so many places, a half going to the even digit. -/
def fixed (places : Nat) (d : Double) : String :=
  let (num, den) := d.ratio
  let scaled := roundDiv .even (num * Nat.pow 10 places) den
  let whole := Nat.toDigits 10 (scaled / Nat.pow 10 places)
  let rest := Nat.toDigits 10 (scaled % Nat.pow 10 places)
  String.ofList
    (d.sign ++ whole ++ ['.'] ++ List.replicate (places - rest.length) '0' ++ rest)

end Double

end Catalog.Number
