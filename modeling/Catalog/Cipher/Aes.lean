/-!
The block cipher AES with keys of 128 bits.

A block holds its bytes column by column. Bytes are polynomials over two elements, multiplied
modulo `x⁸ + x⁴ + x³ + x + 1`.
-/

namespace Catalog.Cipher

abbrev Block := Vector UInt8 16

/-- The byte at a place, counted modulo 16. -/
def Block.entry (s : Block) (i : Nat) : UInt8 := s.get ⟨i % 16, Nat.mod_lt _ (by decide)⟩

def Block.xor (a b : Block) : Block := a.zipWith (· ^^^ ·) b

namespace Aes

/-! ### Bytes as a field -/

/-- The product with `x`. -/
def double (a : UInt8) : UInt8 := (a <<< 1) ^^^ (if a ≥ 0x80 then 0x1b else 0)

/-- The product with the lowest `n` bits of `b`. -/
def mulBits : Nat → UInt8 → UInt8 → UInt8
  | 0, _, _ => 0
  | n + 1, a, b => (if b &&& 1 = 1 then a else 0) ^^^ mulBits n (double a) (b >>> 1)

def mul (a b : UInt8) : UInt8 := mulBits 8 a b

/-- The product of the squares of `a`, their squares, and so on, `n` in all. -/
def powers : Nat → UInt8 → UInt8
  | 0, _ => 1
  | n + 1, a => mul (mul a a) (powers n (mul a a))

/-- The multiplicative inverse, the 254th power; of zero, zero. -/
def inverse (a : UInt8) : UInt8 := powers 7 a

def rotateLeft (a : UInt8) (n : UInt8) : UInt8 := (a <<< n) ||| (a >>> (8 - n))

def substitute (a : UInt8) : UInt8 :=
  let b := inverse a
  b ^^^ rotateLeft b 1 ^^^ rotateLeft b 2 ^^^ rotateLeft b 3 ^^^ rotateLeft b 4 ^^^ 0x63

def restore (a : UInt8) : UInt8 :=
  inverse (rotateLeft a 1 ^^^ rotateLeft a 3 ^^^ rotateLeft a 6 ^^^ 0x05)

/-- The values of a function on bytes, worked out once. -/
def table (f : UInt8 → UInt8) : Vector UInt8 256 := Vector.ofFn fun i => f (UInt8.ofNat i)

def look (t : Vector UInt8 256) (a : UInt8) : UInt8 := t.get ⟨a.toNat, a.toNat_lt⟩

def substituteTable : Vector UInt8 256 := table substitute

def restoreTable : Vector UInt8 256 := table restore

/-! ### Steps of a round -/

def subBytes (s : Block) : Block := s.map (look substituteTable)

def restoreBytes (s : Block) : Block := s.map (look restoreTable)

/-- Row `r` moves `r` columns to the left. -/
def shiftRows (s : Block) : Block :=
  Vector.ofFn fun i => s.entry (i.val + 4 * (i.val % 4))

def unshiftRows (s : Block) : Block :=
  Vector.ofFn fun i => s.entry (i.val + 12 * (i.val % 4))

/-- Every column times a matrix whose rows are `a, b, c, d` turned round. -/
def mixWith (a b c d : UInt8) (s : Block) : Block :=
  Vector.ofFn fun i =>
    let entry (k : Nat) : UInt8 := s.entry (i.val / 4 * 4 + (i.val + k) % 4)
    mul (entry 0) a ^^^ mul (entry 1) b ^^^ mul (entry 2) c ^^^ mul (entry 3) d

def mixColumns : Block → Block := mixWith 2 3 1 1

def unmixColumns : Block → Block := mixWith 14 11 13 9

/-! ### Keys of the rounds -/

/-- The key of the next round; `r` is that round's constant. -/
def nextKey (r : UInt8) (k : Block) : Block :=
  let turned (i : Nat) : UInt8 := look substituteTable (k.entry (12 + (i + 1) % 4))
  -- A column is the sum of the key's columns up to it and of its last one, turned round.
  Vector.ofFn fun i =>
    let row := i.val % 4
    let column (c : Nat) : UInt8 :=
      if c ≤ i.val / 4 then k.entry (4 * c + row) else 0
    turned row ^^^ (if row = 0 then r else 0) ^^^ column 0 ^^^ column 1 ^^^ column 2 ^^^ column 3

/-- The keys of `n` further rounds. -/
def keysFrom : Nat → UInt8 → Block → List Block
  | 0, _, _ => []
  | n + 1, r, k =>
    let next := nextKey r k
    next :: keysFrom n (double r) next

def middleKeys (key : Block) : List Block := (keysFrom 10 1 key).dropLast

def lastKey (key : Block) : Block := (keysFrom 10 1 key).getLastD key

/-! ### Blocks -/

def encrypt (key block : Block) : Block :=
  let start := block.xor key
  let s := (middleKeys key).foldl
    (fun s k => (mixColumns (shiftRows (subBytes s))).xor k) start
  (shiftRows (subBytes s)).xor (lastKey key)

def decrypt (key block : Block) : Block :=
  let s := restoreBytes (unshiftRows (block.xor (lastKey key)))
  let s := (middleKeys key).foldr
    (fun k s => restoreBytes (unshiftRows (unmixColumns (s.xor k)))) s
  s.xor key

end Aes

end Catalog.Cipher
