import Mathlib.Tactic.Common
import Catalog.Text.Class

/-!
Blanks among the other classes of characters. There are few of them, so what holds of all of them
is found out one by one.
-/

namespace Catalog.Text

/-- What holds of every code point of the runs holds of every character in them. -/
lemma Ranges.forall_contains {rs : Ranges} {p : Char → Bool}
    (h : rs.all fun (first, last) =>
      (List.range' first (last + 1 - first)).all fun n => p (Char.ofNat n))
    {c : Char} (hc : rs.contains c = true) : p c = true := by
  obtain ⟨⟨first, last⟩, hmem, hin⟩ := List.any_eq_true.mp hc
  have hrun := List.all_eq_true.mp (List.all_eq_true.mp h _ hmem)
  obtain ⟨hfirst, hlast⟩ : first ≤ c.toNat ∧ c.toNat ≤ last := by simpa using hin
  have hnat : c.toNat ∈ List.range' first (last + 1 - first) := by
    rw [List.mem_range'_1]
    omega
  simpa [Char.ofNat_toNat] using hrun c.toNat hnat

lemma not_isAlphanumeric_of_isBlank {c : Char} (h : isBlank c = true) :
    isAlphanumeric c = false := by
  have hall : blank.all fun (first, last) =>
      (List.range' first (last + 1 - first)).all fun n => !isAlphanumeric (Char.ofNat n) := by
    decide +kernel
  simpa using Ranges.forall_contains (p := fun c => !isAlphanumeric c) hall h

lemma isBlank_of_isDigit {c : Char} (h : c.isDigit = true) : isBlank c = false := by
  obtain ⟨hlow, hhigh⟩ : 48 ≤ c.toNat ∧ c.toNat ≤ 57 := by
    simpa [Char.isDigit, UInt32.le_iff_toNat_le] using h
  simp only [isBlank, Ranges.contains, blank, List.any_eq_false, Bool.and_eq_true,
    decide_eq_true_eq, List.forall_mem_cons, List.not_mem_nil, false_imp_iff, implies_true,
    and_true]
  omega

/-- A character is not among a few if it has a property that none of them has. -/
lemma not_mem_of_all {p : Char → Bool} {c : Char} {cs : List Char} (h : p c = true)
    (hcs : cs.all (!p ·) = true) : c ∉ cs := by
  intro hmem
  have := List.all_eq_true.mp hcs c hmem
  simp [h] at this

end Catalog.Text
