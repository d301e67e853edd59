import Mathlib.Algebra.Group.Int.Defs
import Mathlib.Algebra.Group.Nat.Defs
import Catalog.Text.Integer

/-!
Integers are read back from their digits.
-/

namespace Catalog.Text

lemma toList_toString (n : ℕ) : (toString (n : Int)).toList = Nat.toDigits 10 n := by
  simp [Int.toString_eq_repr, Int.repr, Nat.repr]

lemma toList_toString_negSucc (n : ℕ) :
    (toString (Int.negSucc n)).toList = '-' :: Nat.toDigits 10 (n + 1) := by
  simp [Int.toString_eq_repr, Int.repr, Nat.repr]

lemma toString_ne_nil (i : Int) : (toString i).toList ≠ [] := by
  cases i with
  | ofNat n =>
    rw [show toString (Int.ofNat n) = toString (n : Int) from rfl, toList_toString]
    exact Nat.toDigits_ne_nil
  | negSucc n =>
    rw [toList_toString_negSucc]
    exact List.cons_ne_nil _ _

lemma isDigit_toDigits {n : ℕ} {c : Char} (h : c ∈ Nat.toDigits 10 n) : c.isDigit :=
  Nat.isDigit_of_mem_toDigits (by decide) (by decide) h

lemma readDigits?_toDigits (n : ℕ) : readDigits? (Nat.toDigits 10 n) = some n := by
  have hdigits : (Nat.toDigits 10 n).all Char.isDigit = true :=
    List.all_eq_true.mpr fun _ hc => isDigit_toDigits hc
  rw [readDigits?, if_pos (by simp [Nat.toDigits_ne_nil, hdigits]), Nat.ofDigitChars_ten_toDigits]

/-- Different integers have different digits or signs. -/
lemma toString_inj {i j : Int} (h : (toString i).toList = (toString j).toList) : i = j := by
  have hdigits : ∀ {m n : ℕ}, Nat.toDigits 10 m = Nat.toDigits 10 n → m = n := by
    intro m n hmn
    rw [← Nat.ofDigitChars_ten_toDigits (n := m), hmn, Nat.ofDigitChars_ten_toDigits]
  have hminus : ∀ {m : ℕ} {cs : List Char}, Nat.toDigits 10 m ≠ '-' :: cs := by
    intro m cs hcs
    exact absurd (isDigit_toDigits (hcs ▸ List.mem_cons_self)) (by decide)
  cases i with
  | ofNat m =>
    have hm := toList_toString m
    cases j with
    | ofNat n => exact congrArg Int.ofNat (hdigits (hm.symm.trans (h.trans (toList_toString n))))
    | negSucc n => exact absurd (hm.symm.trans (h.trans (toList_toString_negSucc n))) hminus
  | negSucc m =>
    have hm := toList_toString_negSucc m
    cases j with
    | ofNat n => exact absurd ((toList_toString n).symm.trans (h.symm.trans hm)) hminus
    | negSucc n =>
      rw [toList_toString_negSucc, toList_toString_negSucc, List.cons.injEq] at h
      exact congrArg Int.negSucc (Nat.succ.inj (hdigits h.2))

lemma isDigit_of_readDigits? {cs : List Char} {n : ℕ} (h : readDigits? cs = some n) :
    ∀ c ∈ cs, c.isDigit := by
  unfold readDigits? at h
  split at h
  · rename_i hdigits
    rw [Bool.and_eq_true, List.all_eq_true] at hdigits
    exact hdigits.2
  · cases h

/-- Numbers are read from digits and signs only, which are ASCII. -/
lemma lt_of_readWord? {bits : ℕ} {s : String} {i : Int} (h : readWord? bits s = some i) :
    ∀ c ∈ s.toList, c.toNat < 128 := by
  have hdigits : ∀ cs n, readDigits? cs = some n → ∀ c ∈ cs, c.toNat < 128 := by
    intro cs n hcs c hc
    have hdigit := isDigit_of_readDigits? hcs c hc
    simp only [Char.isDigit, Bool.and_eq_true, decide_eq_true_iff] at hdigit
    exact Nat.lt_of_le_of_lt (UInt32.le_iff_toNat_le.mp hdigit.2) (by decide)
  obtain ⟨hvalue, -⟩ := Option.filter_eq_some_iff.mp h
  split at hvalue
  · rename_i cs hsign
    obtain ⟨_, hcast, -⟩ := Option.map_eq_some_iff.mp hvalue
    obtain ⟨n, hn, -⟩ := Option.bind_eq_some_iff.mp hcast
    rw [hsign, List.forall_mem_cons]
    exact ⟨by decide, hdigits cs n hn⟩
  · rename_i cs hsign
    obtain ⟨n, hn, -⟩ := Option.map_eq_some_iff.mp hvalue
    rw [hsign, List.forall_mem_cons]
    exact ⟨by decide, hdigits cs n hn⟩
  · obtain ⟨n, hn, -⟩ := Option.map_eq_some_iff.mp hvalue
    exact hdigits _ n hn

/-- A word is read as it is written. -/
lemma readWord?_toString {n : ℕ} (h : n < 2 ^ 63) :
    readWord? 64 (toString (n : Int)) = some (n : Int) := by
  have hhead : ∀ sign : Char, sign.isDigit = false → ∀ cs, Nat.toDigits 10 n ≠ sign :: cs := by
    intro sign hsign cs heq
    have hdigit := isDigit_toDigits (heq ▸ List.mem_cons_self)
    simp [hsign] at hdigit
  have hpower : Int.pow 2 (64 - 1) = 2 ^ 63 := rfl
  rw [readWord?, readSigned?, toList_toString]
  split
  · rename_i cs heq
    exact absurd heq (hhead '-' (by decide) cs)
  · rename_i cs heq
    exact absurd heq (hhead '+' (by decide) cs)
  · rw [readDigits?_toDigits]
    simp only [Option.map_some, Option.filter_some, Int.ofNat_eq_natCast]
    rw [if_pos]
    simp only [Bool.and_eq_true, decide_eq_true_iff, hpower]
    omega

/-- So is every integer of 64 bits. -/
lemma readWord?_toInt (i : Int64) : readWord? 64 (toString i.toInt) = some i.toInt := by
  have hlow : -2 ^ 63 ≤ i.toInt := i.le_toInt
  have hhigh : i.toInt < 2 ^ 63 := i.toInt_lt
  cases hi : i.toInt with
  | ofNat n =>
    have hn : (n : Int) < 2 ^ 63 := by
      rw [hi] at hhigh
      exact hhigh
    exact readWord?_toString (by omega)
  | negSucc n =>
    have hpower : Int.pow 2 (64 - 1) = 2 ^ 63 := rfl
    rw [hi] at hlow
    rw [readWord?, readSigned?, toList_toString_negSucc]
    simp only [readDigits?_toDigits]
    refine Option.filter_eq_some_iff.mpr ⟨rfl, ?_⟩
    simp only [Bool.and_eq_true, decide_eq_true_iff, hpower]
    omega

lemma readUnsigned?_toString {max n : ℕ} (h : n ≤ max) :
    readUnsigned? max (toString n) = some n := by
  have hdigits : (toString n).toList = Nat.toDigits 10 n := by
    simp [Nat.repr]
  have hplus : ∀ cs, Nat.toDigits 10 n ≠ '+' :: cs := by
    intro cs hcs
    exact absurd (isDigit_toDigits (hcs ▸ List.mem_cons_self)) (by decide)
  rw [readUnsigned?, hdigits]
  split
  · rename_i cs heq
    exact absurd heq (hplus cs)
  · simp [readDigits?_toDigits, h]

end Catalog.Text
