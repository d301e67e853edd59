import Mathlib.Algebra.Order.Ring.Nat
import Mathlib.Tactic.Positivity
import Catalog.Json.Numeral
import Catalog.Proofs.Text.Integer

/-!
Integers as numerals. An integer of 64 bits is read back from its digits, and no other integer is
ever read.
-/

namespace Catalog.Json

lemma takeDigits_lt {n : ℕ} (h : n < 2 ^ 64) (cs : List Char) : (takeDigits n cs).1 < 2 ^ 64 := by
  induction cs generalizing n with
  | nil => exact h
  | cons c cs ih =>
    unfold takeDigits
    simp only
    split
    · rename_i hlt
      exact ih hlt
    · exact h

/-- An integer that is read has 64 bits. -/
lemma Numeral.range_of_value? {n : Numeral} {i : Int} (h : n.value? = some (.int i)) :
    -2 ^ 63 ≤ i ∧ i < 2 ^ 64 := by
  have hdigits : (takeDigits 0 n.whole).1 < 2 ^ 64 := takeDigits_lt (by decide) _
  have hpower : Nat.pow 2 63 = 2 ^ 63 := rfl
  unfold value? at h
  simp only at h
  split at h
  · split at h
    · simp only [Option.some.injEq, Quantity.int.injEq] at h
      omega
    · split at h
      · simp at h
      · rename_i hbounds
        simp only [Option.some.injEq, Quantity.int.injEq] at h
        simp only [Bool.or_eq_true, decide_eq_true_eq, not_or, hpower] at hbounds
        omega
  · simp at h

/-! ### Writing -/

lemma le_ofDigitChars (cs : List Char) (n : ℕ) : n ≤ Nat.ofDigitChars 10 cs n := by
  rw [Nat.ofDigitChars_eq_ofDigitChars_zero]
  exact (Nat.le_mul_of_pos_left n (by positivity)).trans (Nat.le_add_right _ _)

/-- Digits are taken as long as their number fits. -/
lemma takeDigits_eq {cs : List Char} {n : ℕ} (h : Nat.ofDigitChars 10 cs n < 2 ^ 64) :
    takeDigits n cs = (Nat.ofDigitChars 10 cs n, cs.length) := by
  induction cs generalizing n with
  | nil => rfl
  | cons c cs ih =>
    rw [Nat.ofDigitChars_cons] at h
    have hnext : 10 * n + (c.toNat - '0'.toNat) < Nat.pow 2 64 :=
      (le_ofDigitChars _ _).trans_lt h
    rw [takeDigits, if_pos hnext, ih h]
    rfl

/-- The numeral of an integer. -/
def Numeral.ofInt (i : Int) : Numeral := ⟨decide (i < 0), Nat.toDigits 10 i.natAbs, [], 0, true⟩

lemma Numeral.value?_ofInt {i : Int} (hlow : -2 ^ 63 ≤ i) (hhigh : i < 2 ^ 64) :
    (ofInt i).value? = some (.int i) := by
  have hdigits : takeDigits 0 (Nat.toDigits 10 i.natAbs)
      = (i.natAbs, (Nat.toDigits 10 i.natAbs).length) := by
    have hof := Nat.ofDigitChars_ten_toDigits (n := i.natAbs)
    rw [takeDigits_eq (by rw [hof]; omega), hof]
  have hpower : Nat.pow 2 63 = 2 ^ 63 := rfl
  simp only [value?, ofInt, hdigits, Bool.true_and, decide_true, if_true]
  by_cases hneg : i < 0
  · have hbounds : ¬(i.natAbs = 0 ∨ i.natAbs > 2 ^ 63) := by omega
    simp only [hneg, decide_true, Bool.not_true, Bool.false_eq_true, if_false, hpower,
      Bool.or_eq_true, decide_eq_true_eq, hbounds]
    congr 2
    omega
  · simp only [hneg, decide_false, Bool.not_false, if_true]
    congr 2
    omega

end Catalog.Json
