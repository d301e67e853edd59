import Mathlib.Data.List.Infix
import Catalog.Sql.Literal

/-!
Patterns of LIKE. A percent sign stands for any characters, an underscore for any single one, and
a backslash takes the character behind it as it is.
-/

namespace Catalog.Sql

inductive Wildcard
  | any
  | one
  | exactly (c : Char)
  deriving DecidableEq

/-- A pattern must not end in its escape. -/
def wildcards? : List Char → Option (List Wildcard)
  | [] => some []
  | ['\\'] => none
  | '\\' :: c :: cs => (wildcards? cs).map (.exactly c :: ·)
  | '%' :: cs => (wildcards? cs).map (.any :: ·)
  | '_' :: cs => (wildcards? cs).map (.one :: ·)
  | c :: cs => (wildcards? cs).map (.exactly c :: ·)

/-- The whole text is as the pattern says. -/
def matchesPattern : List Wildcard → List Char → Bool
  | [], cs => cs.isEmpty
  | .any :: ws, cs => cs.tails.any (matchesPattern ws)
  | .one :: ws, cs =>
    match cs with
    | [] => false
    | _ :: cs => matchesPattern ws cs
  | .exactly c :: ws, cs =>
    match cs with
    | [] => false
    | d :: cs => c == d && matchesPattern ws cs

/-- Escaped characters stand for themselves. -/
lemma wildcards?_escapePattern (cs rest : List Char) :
    wildcards? (escapePattern cs ++ rest) = (wildcards? rest).map (cs.map .exactly ++ ·) := by
  induction cs with
  | nil => simp [escapePattern]
  | cons c cs ih =>
    by_cases hc : (c = '\\' || c = '%' || c = '_') = true
    · have hcons : escapePattern (c :: cs) = '\\' :: c :: escapePattern cs := by
        simp only [escapePattern, List.flatMap_cons, if_pos hc]
        rfl
      rw [hcons, List.cons_append, List.cons_append, wildcards?, ih, Option.map_map]
      rfl
    · have hcons : escapePattern (c :: cs) = c :: escapePattern cs := by
        simp only [escapePattern, List.flatMap_cons, if_neg hc]
        rfl
      simp only [Bool.or_eq_true, decide_eq_true_iff, not_or] at hc
      rw [hcons, List.cons_append, wildcards?, ih, Option.map_map]
      · rfl
      all_goals simp_all

lemma wildcards?_containsPattern (s : String) :
    wildcards? (containsPattern s).toList = some (.any :: (s.toList.map .exactly ++ [.any])) := by
  simp [containsPattern, wildcards?, wildcards?_escapePattern]

lemma matchesPattern_any {ws : List Wildcard} {text : List Char} :
    matchesPattern (.any :: ws) text = true
      ↔ ∃ rest, rest <:+ text ∧ matchesPattern ws rest = true := by
  simp [matchesPattern]

lemma matchesPattern_exactly {cs : List Char} {ws : List Wildcard} {text : List Char} :
    matchesPattern (cs.map .exactly ++ ws) text = true
      ↔ ∃ rest, text = cs ++ rest ∧ matchesPattern ws rest = true := by
  induction cs generalizing text with
  | nil => simp
  | cons c cs ih =>
    cases text with
    | nil => simp [matchesPattern]
    | cons d text =>
      rw [List.map_cons, List.cons_append, matchesPattern, Bool.and_eq_true, beq_iff_eq, ih]
      constructor
      · rintro ⟨rfl, rest, rfl, h⟩
        exact ⟨rest, rfl, h⟩
      · rintro ⟨rest, heq, h⟩
        obtain ⟨rfl, rfl⟩ := List.cons.inj heq
        exact ⟨rfl, rest, rfl, h⟩

/-- The pattern that looks for a text matches where the text occurs. -/
theorem matchesPattern_contains (s : String) (text : List Char) :
    matchesPattern (.any :: (s.toList.map .exactly ++ [.any])) text = true
      ↔ s.toList <:+: text := by
  have hall (cs : List Char) : matchesPattern [.any] cs = true :=
    matchesPattern_any.mpr ⟨[], List.nil_suffix, rfl⟩
  rw [matchesPattern_any]
  constructor
  · rintro ⟨_, ⟨before, rfl⟩, h⟩
    obtain ⟨rest, rfl, -⟩ := matchesPattern_exactly.mp h
    exact ⟨before, rest, List.append_assoc ..⟩
  · rintro ⟨before, rest, rfl⟩
    exact ⟨s.toList ++ rest, ⟨before, (List.append_assoc ..).symm⟩,
      matchesPattern_exactly.mpr ⟨rest, rfl, hall rest⟩⟩

end Catalog.Sql
