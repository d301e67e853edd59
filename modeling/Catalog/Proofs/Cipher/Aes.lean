import Catalog.Cipher.Aes
import Mathlib.Tactic.Common

/-!
A block that was encrypted is decrypted to itself: every step of a round has its inverse. The
field is small enough to try out all of its elements; what mixes several of them is linear.
-/

namespace Catalog.Cipher

/-! ### Blocks -/

@[simp] lemma Block.xor_xor (a b : Block) : (a.xor b).xor b = a := by
  ext i hi
  simp only [Block.xor, Vector.getElem_zipWith]
  rw [UInt8.xor_assoc, UInt8.xor_self, UInt8.xor_zero]

lemma Block.entry_of_lt (s : Block) {i : ℕ} (hi : i < 16) : s.entry i = s[i] := by
  simp only [Block.entry, Nat.mod_eq_of_lt hi]
  rfl

lemma Block.entry_ofFn (f : Fin 16 → UInt8) (i : ℕ) :
    Block.entry (Vector.ofFn f) i = f ⟨i % 16, Nat.mod_lt _ (by decide)⟩ :=
  Vector.getElem_ofFn _

lemma Block.ext_entry {s t : Block} (h : ∀ i < 16, s.entry i = t.entry i) : s = t := by
  ext i hi
  rw [← s.entry_of_lt hi, ← t.entry_of_lt hi, h i hi]

namespace Aes

/-! ### The field in numbers -/

/-- `mulBits` on numbers below 256, where there are many products to try out. -/
def product : ℕ → ℕ → ℕ → ℕ
  | 0, _, _ => 0
  | n + 1, a, b => (b % 2 * a) ^^^ product n (2 * a % 256 ^^^ a / 128 * 27) (b / 2)

/-- `powers` on numbers below 256. -/
def powerProduct : ℕ → ℕ → ℕ
  | 0, _ => 1
  | n + 1, a => product 8 (product 8 a a) (powerProduct n (product 8 a a))

/-- What holds of all bytes can be found out by trying them. -/
instance decidableForallByte (p : UInt8 → Prop) [DecidablePred p] : Decidable (∀ a, p a) :=
  decidable_of_iff (∀ n : Fin 256, p (UInt8.ofFin n))
    ⟨fun h a => h a.toFin, fun h n => h (UInt8.ofFin n)⟩

lemma toNat_double : ∀ a, (double a).toNat = 2 * a.toNat % 256 ^^^ a.toNat / 128 * 27 := by
  decide +kernel

lemma toNat_lowest : ∀ b : UInt8,
    (b &&& 1 = 1 ↔ b.toNat % 2 = 1) ∧ (b >>> 1).toNat = b.toNat / 2 := by
  decide +kernel

lemma toNat_mulBits (n : ℕ) (a b : UInt8) :
    (mulBits n a b).toNat = product n a.toNat b.toNat := by
  induction n generalizing a b with
  | zero => rfl
  | succ n ih =>
    obtain ⟨hbit, hrest⟩ := toNat_lowest b
    rw [mulBits, product, UInt8.toNat_xor, ih, toNat_double, hrest]
    simp only [hbit]
    rcases Nat.mod_two_eq_zero_or_one b.toNat with h | h <;> simp [h]

lemma toNat_mul (a b : UInt8) : (mul a b).toNat = product 8 a.toNat b.toNat :=
  toNat_mulBits 8 a b

lemma toNat_powers (n : ℕ) (a : UInt8) : (powers n a).toNat = powerProduct n a.toNat := by
  induction n generalizing a with
  | zero => rfl
  | succ n ih => rw [powers, powerProduct, toNat_mul, ih, toNat_mul]

/-! ### Bytes -/

lemma inverse_inverse (a : UInt8) : inverse (inverse a) = a := by
  have h : ∀ n < 256, powerProduct 7 (powerProduct 7 n) = n := by decide +kernel
  rw [← UInt8.toNat_inj, inverse, inverse, toNat_powers, toNat_powers, h a.toNat a.toNat_lt]

/-- The bits that `substitute` turns round are turned back. -/
lemma rotate_rotate : ∀ a : UInt8,
    let b := a ^^^ rotateLeft a 1 ^^^ rotateLeft a 2 ^^^ rotateLeft a 3 ^^^ rotateLeft a 4 ^^^ 0x63
    rotateLeft b 1 ^^^ rotateLeft b 3 ^^^ rotateLeft b 6 ^^^ 0x05 = a := by
  decide +kernel

lemma restore_substitute (a : UInt8) : restore (substitute a) = a := by
  simp only [restore, substitute]
  rw [rotate_rotate, inverse_inverse]

lemma look_table (f : UInt8 → UInt8) (a : UInt8) : look (table f) a = f a := by
  have h : look (table f) a = f (UInt8.ofNat a.toNat) := Vector.getElem_ofFn _
  rw [h, UInt8.ofNat_toNat]

lemma restoreBytes_subBytes (s : Block) : restoreBytes (subBytes s) = s := by
  ext i hi
  simp [restoreBytes, subBytes, substituteTable, restoreTable, look_table, restore_substitute]

/-! ### Rows -/

lemma unshiftRows_shiftRows (s : Block) : unshiftRows (shiftRows s) = s := by
  refine Block.ext_entry fun i hi => ?_
  simp only [unshiftRows, shiftRows, Block.entry_ofFn, Nat.mod_eq_of_lt hi]
  simp only [Block.entry]
  congr 2
  omega

/-! ### Columns -/

lemma double_xor (a b : UInt8) : double (a ^^^ b) = double a ^^^ double b := by
  -- A byte overflows by its highest bit, and that bit of a sum is the sum of the bits.
  have hmsb (c : UInt8) : (c ≥ 0x80) ↔ c.toBitVec.msb = true := by
    rw [BitVec.msb_eq_decide, decide_eq_true_iff, ge_iff_le, UInt8.le_iff_toNat_le]
    rfl
  have hxor : (a ^^^ b).toBitVec.msb = (a.toBitVec.msb ^^ b.toBitVec.msb) := by simp
  simp only [double, hmsb, hxor, UInt8.shiftLeft_xor]
  cases a.toBitVec.msb <;> cases b.toBitVec.msb
  · simp
  · simp [UInt8.xor_assoc]
  · simp only [Bool.true_xor, Bool.not_false, if_true]
    simp only [Bool.false_eq_true, if_false, UInt8.xor_zero]
    ac_rfl
  · have hcarry : (0x1b : UInt8) ^^^ 0x1b = 0 := UInt8.xor_self
    have hswap (x y z : UInt8) : x ^^^ y ^^^ (z ^^^ z) = (x ^^^ z) ^^^ (y ^^^ z) := by ac_rfl
    simpa [hcarry] using hswap (a <<< 1) (b <<< 1) 0x1b

lemma mulBits_xor (n : ℕ) (a b c : UInt8) :
    mulBits n (a ^^^ b) c = mulBits n a c ^^^ mulBits n b c := by
  induction n generalizing a b c with
  | zero => simp [mulBits]
  | succ n ih =>
    simp only [mulBits, double_xor, ih]
    split
    · ac_rfl
    · simp

lemma mul_xor (a b c : UInt8) : mul (a ^^^ b) c = mul a c ^^^ mul b c := mulBits_xor 8 a b c

/-- A row of one matrix with a column of the other, times a byte. -/
def row (a b c d p q r s : UInt8) (e : UInt8) : UInt8 :=
  mul (mul e p) a ^^^ mul (mul e q) b ^^^ mul (mul e r) c ^^^ mul (mul e s) d

/-- The product of the two matrices has ones where a row meets its own column, and else zeros. -/
lemma row_eq (e : UInt8) :
    row 14 11 13 9 2 1 1 3 e = e ∧ row 14 11 13 9 3 2 1 1 e = 0
      ∧ row 14 11 13 9 1 3 2 1 e = 0 ∧ row 14 11 13 9 1 1 3 2 e = 0 := by
  let times (a b c d p q r s n : ℕ) : ℕ := product 8 (product 8 n p) a
    ^^^ product 8 (product 8 n q) b ^^^ product 8 (product 8 n r) c ^^^ product 8 (product 8 n s) d
  have h : ∀ n < 256, times 14 11 13 9 2 1 1 3 n = n ∧ times 14 11 13 9 3 2 1 1 n = 0
      ∧ times 14 11 13 9 1 3 2 1 n = 0 ∧ times 14 11 13 9 1 1 3 2 n = 0 := by
    decide +kernel
  simp only [← UInt8.toNat_inj, row, UInt8.toNat_xor, toNat_mul]
  exact h e.toNat e.toNat_lt

lemma unmixColumns_mixColumns (s : Block) : unmixColumns (mixColumns s) = s := by
  refine Block.ext_entry fun i hi => ?_
  -- The four bytes of the column, from the one at `i` on.
  let e (k : ℕ) : UInt8 := s.entry (i / 4 * 4 + (i + k) % 4)
  have hmixed (k : ℕ) : (mixColumns s).entry (i / 4 * 4 + (i + k) % 4)
      = mul (e k) 2 ^^^ mul (e (k + 1)) 3 ^^^ mul (e (k + 2)) 1 ^^^ mul (e (k + 3)) 1 := by
    have hplace : (i / 4 * 4 + (i + k) % 4) % 16 = i / 4 * 4 + (i + k) % 4 := by omega
    have hcolumn : (i / 4 * 4 + (i + k) % 4) / 4 = i / 4 := by omega
    have hself : (i / 4 * 4 + (i + k) % 4) % 4 = (i + k) % 4 := by omega
    have hrow (j : ℕ) : (i / 4 * 4 + (i + k) % 4 + j) % 4 = (i + (k + j)) % 4 := by omega
    simp only [mixColumns, mixWith, Block.entry_ofFn, hplace, hcolumn, hself, hrow, Nat.add_zero, e]
  have hcycle (k : ℕ) : e (k + 4) = e k := by
    simp only [e, ← Nat.add_assoc, Nat.add_mod_right]
  have hself : s.entry i = e 0 := by
    simp only [e]
    congr 1
    omega
  have hplace : i % 16 = i := Nat.mod_eq_of_lt hi
  simp only [unmixColumns, mixWith, Block.entry_ofFn, hplace, hmixed, mul_xor, hself]
  rw [hcycle 0, hcycle 1, hcycle 2]
  calc _ = row 14 11 13 9 2 1 1 3 (e 0) ^^^ row 14 11 13 9 3 2 1 1 (e 1)
        ^^^ row 14 11 13 9 1 3 2 1 (e 2) ^^^ row 14 11 13 9 1 1 3 2 (e 3) := by
        simp only [row, Nat.zero_add, Nat.reduceAdd]
        ac_rfl
    _ = e 0 := by
      rw [(row_eq (e 0)).1, (row_eq (e 1)).2.1, (row_eq (e 2)).2.2.1, (row_eq (e 3)).2.2.2]
      simp

/-! ### Rounds -/

/-- The rounds are undone one by one, the last first. -/
lemma foldr_foldl (keys : List Block) (s : Block) :
    keys.foldr (fun k s => restoreBytes (unshiftRows (unmixColumns (s.xor k))))
      (keys.foldl (fun s k => (mixColumns (shiftRows (subBytes s))).xor k) s) = s := by
  induction keys generalizing s with
  | nil => rfl
  | cons k ks ih =>
    rw [List.foldl_cons, List.foldr_cons, ih, Block.xor_xor, unmixColumns_mixColumns,
      unshiftRows_shiftRows, restoreBytes_subBytes]

/-- **Decryption** gives back the block that was encrypted with the same key. -/
theorem decrypt_encrypt (key block : Block) : decrypt key (encrypt key block) = block := by
  rw [decrypt, encrypt, Block.xor_xor, unshiftRows_shiftRows, restoreBytes_subBytes]
  simp only [foldr_foldl, Block.xor_xor]

end Aes

end Catalog.Cipher
