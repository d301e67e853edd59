import Mathlib.Data.List.Sort
import Mathlib.Data.String.Basic
import Catalog.Json.Value

/-!
Members in the order of their names. Sorting keeps members whose names differ, so a list that is
sorted already is what sorting makes of its members in any order.
-/

namespace Catalog.Json

variable {α : Type} {k : String} {v : α} {ms ms' : List (String × α)}

/-- The names rise, so each stands once. -/
def Sorted (ms : List (String × α)) : Prop := ms.Pairwise fun a b => a.1 < b.1

lemma Sorted.nodup (h : Sorted ms) : (ms.map Prod.fst).Nodup :=
  List.pairwise_map.mpr (h.imp fun hlt => hlt.ne)

/-- Sorted members are determined by which they are. -/
lemma Sorted.eq_of_perm (h : Sorted ms) (h' : Sorted ms') (hperm : ms.Perm ms') : ms = ms' :=
  hperm.eq_of_pairwise (fun _ _ _ _ hab hba => absurd hba hab.not_gt) h h'

/-! ### Insertion -/

lemma mem_insert {m : String × α} (h : m ∈ insert k v ms) : m = (k, v) ∨ m ∈ ms := by
  induction ms with
  | nil => simpa [insert] using h
  | cons a ms ih =>
    unfold insert at h
    split at h
    · simpa using h
    · split at h
      · rcases List.mem_cons.mp h with h | h
        · exact .inl h
        · exact .inr (List.mem_cons_of_mem _ h)
      · rcases List.mem_cons.mp h with rfl | h
        · exact .inr List.mem_cons_self
        · exact (ih h).imp_right (List.mem_cons_of_mem _)

lemma Sorted.insert (h : Sorted ms) (k : String) (v : α) : Sorted (insert k v ms) := by
  induction ms with
  | nil => exact List.pairwise_singleton _ _
  | cons a ms ih =>
    obtain ⟨hhead, htail⟩ := List.pairwise_cons.mp h
    unfold Json.insert
    split
    · rename_i hlt
      refine List.pairwise_cons.mpr ⟨fun b hb => ?_, h⟩
      rcases List.mem_cons.mp hb with rfl | hb
      · exact hlt
      · exact lt_trans hlt (hhead b hb)
    · split
      · rename_i heq
        exact List.pairwise_cons.mpr ⟨fun b hb => heq ▸ hhead b hb, htail⟩
      · rename_i hnot hne
        refine List.pairwise_cons.mpr ⟨fun b hb => ?_, ih htail⟩
        rcases mem_insert hb with rfl | hb
        · exact lt_of_le_of_ne (not_lt.mp hnot) (Ne.symm hne)
        · exact hhead b hb

lemma perm_insert (h : k ∉ ms.map Prod.fst) (v : α) : (insert k v ms).Perm ((k, v) :: ms) := by
  induction ms with
  | nil => exact .refl _
  | cons a ms ih =>
    rw [List.map_cons, List.mem_cons, not_or] at h
    unfold insert
    split
    · exact .refl _
    · rw [if_neg h.1]
      exact ((ih h.2).cons a).trans (.swap _ _ _)

/-! ### Sorting -/

lemma sorted_foldl_insert (ms : List (String × α)) {acc : List (String × α)} (h : Sorted acc) :
    Sorted (ms.foldl (fun acc m => insert m.1 m.2 acc) acc) := by
  induction ms generalizing acc with
  | nil => exact h
  | cons m ms ih => exact ih (h.insert m.1 m.2)

lemma sorted_sortMembers (ms : List (String × α)) : Sorted (sortMembers ms) :=
  sorted_foldl_insert ms .nil

lemma mem_foldl_insert {m : String × α} (ms : List (String × α)) {acc : List (String × α)}
    (h : m ∈ ms.foldl (fun acc m => insert m.1 m.2 acc) acc) : m ∈ ms ∨ m ∈ acc := by
  induction ms generalizing acc with
  | nil => exact .inr h
  | cons a ms ih =>
    rcases ih h with h | h
    · exact .inl (List.mem_cons_of_mem _ h)
    · rcases mem_insert h with rfl | h
      · exact .inl List.mem_cons_self
      · exact .inr h

lemma insert_ne_nil (k : String) (v : α) (ms : List (String × α)) : insert k v ms ≠ [] := by
  cases ms with
  | nil => simp [insert]
  | cons m ms =>
    unfold insert
    split
    · simp
    · split <;> simp

lemma sortMembers_ne_nil (h : ms ≠ []) : sortMembers ms ≠ [] := by
  obtain ⟨ms', m, rfl⟩ := (List.eq_nil_or_concat ms).resolve_left h
  rw [sortMembers, List.concat_eq_append, List.foldl_concat]
  exact insert_ne_nil _ _ _

lemma mem_of_mem_sortMembers {m : String × α} (h : m ∈ sortMembers ms) : m ∈ ms :=
  (mem_foldl_insert ms h).resolve_right List.not_mem_nil

lemma perm_foldl_insert (ms acc : List (String × α)) (h : ((ms ++ acc).map Prod.fst).Nodup) :
    (ms.foldl (fun acc m => insert m.1 m.2 acc) acc).Perm (ms ++ acc) := by
  induction ms generalizing acc with
  | nil => exact .refl _
  | cons m ms ih =>
    have hm : m.1 ∉ acc.map Prod.fst := by
      rw [List.cons_append, List.map_cons, List.map_append] at h
      exact fun hmem => (List.nodup_cons.mp h).1 (List.mem_append_right _ hmem)
    have hperm : (ms ++ insert m.1 m.2 acc).Perm (m :: (ms ++ acc)) :=
      ((perm_insert hm m.2).append_left ms).trans List.perm_middle
    refine (ih _ ?_).trans hperm
    exact (hperm.map Prod.fst).nodup_iff.mpr h

/-- Members whose names differ are all kept. -/
lemma perm_sortMembers (h : (ms.map Prod.fst).Nodup) : (sortMembers ms).Perm ms := by
  simpa [sortMembers] using perm_foldl_insert ms [] (by simpa using h)

/-! ### The last member of a name -/

section

variable {κ : Type} [DecidableEq κ]

/-- The value of the last member of that name. -/
def last? (name : κ) : List (κ × α) → Option α
  | [] => none
  | (k, v) :: ms => (last? name ms).or (if k = name then some v else none)

lemma last?_eq_none {name : κ} {ms : List (κ × α)} (h : ∀ m ∈ ms, m.1 ≠ name) :
    last? name ms = none := by
  induction ms with
  | nil => rfl
  | cons m ms ih =>
    obtain ⟨hm, hms⟩ := List.forall_mem_cons.mp h
    rw [last?, ih hms, if_neg hm, Option.or_none]

lemma exists_last? {name : κ} {ms : List (κ × α)} (h : ∃ v, (name, v) ∈ ms) :
    ∃ v, last? name ms = some v := by
  obtain ⟨v, hv⟩ := h
  induction ms with
  | nil => cases hv
  | cons m ms ih =>
    rw [last?]
    rcases List.mem_cons.mp hv with rfl | hv
    · rw [if_pos rfl]
      cases last? name ms with
      | none => exact ⟨v, rfl⟩
      | some v' => exact ⟨v', rfl⟩
    · obtain ⟨v', hv'⟩ := ih hv
      rw [hv']
      exact ⟨v', rfl⟩

lemma last?_filter {name : κ} {p : κ × α → Bool} (hp : ∀ v, p (name, v) = true)
    (ms : List (κ × α)) : last? name (ms.filter p) = last? name ms := by
  induction ms with
  | nil => rfl
  | cons m ms ih =>
    by_cases hm : p m = true
    · rw [List.filter_cons_of_pos hm, last?, ih, last?]
    · have hne : m.1 ≠ name := by
        rintro rfl
        exact hm (hp m.2)
      rw [List.filter_cons_of_neg hm, ih, last?, if_neg hne, Option.or_none]

end

lemma last?_insert (h : Sorted ms) (name k : String) (v : α) :
    last? name (insert k v ms) = if k = name then some v else last? name ms := by
  induction ms with
  | nil => simp [insert, last?]
  | cons m ms ih =>
    obtain ⟨hhead, htail⟩ := List.pairwise_cons.mp h
    have hbehind : m.1 = name → last? name ms = none := fun heq =>
      last?_eq_none fun b hb => heq ▸ (hhead b hb).ne'
    unfold insert
    split
    · rename_i hlt
      -- the names rise, so none behind the new member is its own
      rw [last?]
      by_cases hk : k = name
      · have hnone : last? name (m :: ms) = none := last?_eq_none <| List.forall_mem_cons.mpr
          ⟨hk ▸ hlt.ne', fun b hb => hk ▸ (lt_trans hlt (hhead b hb)).ne'⟩
        rw [hnone, if_pos hk, Option.none_or]
      · rw [if_neg hk, if_neg hk, Option.or_none]
    · split
      · rename_i heq
        rw [last?, last?, ← heq]
        by_cases hk : k = name
        · rw [hbehind (heq ▸ hk), if_pos hk, if_pos hk, Option.none_or]
        · rw [if_neg hk, if_neg hk, if_neg hk]
      · rw [last?, ih htail, last?]
        by_cases hk : k = name
        · rw [if_pos hk, if_pos hk, Option.some_or]
        · rw [if_neg hk, if_neg hk]

lemma last?_foldl_insert (name : String) (ms : List (String × α)) {acc : List (String × α)}
    (h : Sorted acc) : last? name (ms.foldl (fun acc m => insert m.1 m.2 acc) acc)
      = (last? name ms).or (last? name acc) := by
  induction ms generalizing acc with
  | nil => rfl
  | cons m ms ih =>
    rw [List.foldl_cons, ih (h.insert m.1 m.2), last?_insert h, last?, Option.or_assoc]
    by_cases hm : m.1 = name
    · rw [if_pos hm, if_pos hm, Option.some_or]
    · rw [if_neg hm, if_neg hm, Option.none_or]

/-- Of members of one name, sorting keeps the last. -/
lemma last?_sortMembers (name : String) (ms : List (String × α)) :
    last? name (sortMembers ms) = last? name ms := by
  rw [sortMembers, last?_foldl_insert name ms .nil]
  exact Option.or_none

/-- Sorting loses no name. -/
lemma fst_mem_sortMembers {m : String × α} (h : m ∈ ms) :
    m.1 ∈ (sortMembers ms).map Prod.fst := by
  by_contra hnot
  have hnone : last? m.1 (sortMembers ms) = none := last?_eq_none fun m' hm' heq =>
    hnot (heq ▸ List.mem_map_of_mem hm')
  obtain ⟨v, hv⟩ := exists_last? ⟨m.2, h⟩
  rw [last?_sortMembers, hv] at hnone
  cases hnone

/-- Sorting gives the sorted list of the same members. -/
lemma sortMembers_eq (h : Sorted ms') (hperm : ms'.Perm ms) : sortMembers ms = ms' := by
  have hnodup : (ms.map Prod.fst).Nodup := (hperm.map Prod.fst).nodup_iff.mp h.nodup
  exact (sorted_sortMembers ms).eq_of_perm h ((perm_sortMembers hnodup).trans hperm.symm)

end Catalog.Json
