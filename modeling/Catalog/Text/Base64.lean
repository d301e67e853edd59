/-!
Bytes as base64 text. Decoding accepts only what encoding writes: no foreign characters, no bits
left over, and padding exactly where it belongs or not at all.
-/

namespace Catalog.Text.Base64

/-- The alphabets differ in their last two characters. -/
inductive Alphabet
  | standard
  | urlSafe
  deriving DecidableEq, Repr

namespace Alphabet

def last : Alphabet → Char × Char
  | standard => ('+', '/')
  | urlSafe => ('-', '_')

/-- The character for six bits. -/
def char (a : Alphabet) (n : Nat) : Char :=
  if n < 26 then Char.ofNat ('A'.toNat + n)
  else if n < 52 then Char.ofNat ('a'.toNat + (n - 26))
  else if n < 62 then Char.ofNat ('0'.toNat + (n - 52))
  else if n = 62 then a.last.1
  else a.last.2

/-- The six bits that a character stands for. -/
def value? (a : Alphabet) (c : Char) : Option Nat :=
  if 'A' ≤ c ∧ c ≤ 'Z' then some (c.toNat - 'A'.toNat)
  else if 'a' ≤ c ∧ c ≤ 'z' then some (c.toNat - 'a'.toNat + 26)
  else if '0' ≤ c ∧ c ≤ '9' then some (c.toNat - '0'.toNat + 52)
  else if c = a.last.1 then some 62
  else if c = a.last.2 then some 63
  else none

end Alphabet

/-! ### Groups of three bytes and four sixes of bits -/

/-- The groups of six bits in a run of bytes, the last filled up with zeros. -/
def sextets : List UInt8 → List Nat
  | [] => []
  | [a] => [a.toNat / 4, a.toNat % 4 * 16]
  | [a, b] => [a.toNat / 4, a.toNat % 4 * 16 + b.toNat / 16, b.toNat % 16 * 4]
  | a :: b :: c :: rest =>
    (a.toNat / 4) :: (a.toNat % 4 * 16 + b.toNat / 16) :: (b.toNat % 16 * 4 + c.toNat / 64)
      :: (c.toNat % 64) :: sextets rest

/-- The bytes in a run of groups of six bits, if what fills up the last is zero. -/
def bytes? : List Nat → Option (List UInt8)
  | [] => some []
  | [_] => none
  | [p, q] => if q % 16 = 0 then some [UInt8.ofNat (p * 4 + q / 16)] else none
  | [p, q, r] =>
    if r % 4 = 0 then
      some [UInt8.ofNat (p * 4 + q / 16), UInt8.ofNat (q % 16 * 16 + r / 4)]
    else none
  | p :: q :: r :: s :: rest =>
    (bytes? rest).map fun bs =>
      UInt8.ofNat (p * 4 + q / 16) :: UInt8.ofNat (q % 16 * 16 + r / 4)
        :: UInt8.ofNat (r % 4 * 64 + s) :: bs

/-! ### Text -/

/-- The text without padding. -/
def encode (a : Alphabet) (bs : List UInt8) : List Char := (sextets bs).map a.char

/-- The padding that fills a text of so many characters up to a multiple of four. -/
def padding (length : Nat) : List Char := List.replicate ((4 - length % 4) % 4) '='

def encodePadded (a : Alphabet) (bs : List UInt8) : List Char :=
  let text := encode a bs
  text ++ padding text.length

/-- The bytes of a text without padding. -/
def decode? (a : Alphabet) (cs : List Char) : Option (List UInt8) :=
  (cs.mapM a.value?).bind bytes?

/-- The text without the equals signs at its end. -/
def stripPadding (cs : List Char) : List Char := (cs.reverse.dropWhile (· = '=')).reverse

/-- The bytes of a text that is padded as it should be. -/
def decodePadded? (a : Alphabet) (cs : List Char) : Option (List UInt8) :=
  let text := stripPadding cs
  if cs = text ++ padding text.length then decode? a text else none

end Catalog.Text.Base64
