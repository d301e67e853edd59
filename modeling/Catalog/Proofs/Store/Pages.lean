import Catalog.Proofs.Store.Answers

/-!
What a page holds, and what it leaves to the pages behind it.
-/

namespace Catalog.Store

/-! ### Rows in order -/

/-- Of rows in order, those that are picked stay in order. -/
lemma sortById_filter {rows : List Row} (h : (rows.map Row.id).Nodup) (p : Row → Bool) :
    sortById (rows.filter p) = (sortById rows).filter p := by
  have hperm : (sortById (rows.filter p)).Perm ((sortById rows).filter p) :=
    (perm_sortById _).trans ((perm_sortById rows).symm.filter p)
  have hnodup : ((rows.filter p).map Row.id).Nodup := h.sublist (List.filter_sublist.map _)
  exact hperm.eq_of_pairwise (fun a b _ _ hab hba => absurd hba hab.le.not_gt)
    (pairwise_lt_sortById hnodup) ((pairwise_lt_sortById h).filter p)

/-- The first rows in order hold whatever comes before one of them. -/
lemma mem_take_of_le {rows : List Row} (h : rows.Pairwise fun a b => a.id < b.id) {n : ℕ}
    {row last : Row} (hrow : row ∈ rows) (hlast : last ∈ rows.take n) (hle : row.id ≤ last.id) :
    row ∈ rows.take n := by
  have hsplit : row ∈ rows.take n ++ rows.drop n := by rwa [List.take_append_drop]
  refine (List.mem_append.mp hsplit).resolve_right fun hdrop => ?_
  rw [← List.take_append_drop n rows] at h
  have hlt : last.id < row.id := (List.pairwise_append.mp h).2.2 last hlast row hdrop
  omega

/-! ### The greatest id -/

lemma le_maxOf {rows : List Row} {row : Row} (h : row ∈ rows) : row.id ≤ maxOf rows := by
  have hmem : row.id ∈ rows.map Row.id := List.mem_map_of_mem h
  cases hmax : (rows.map Row.id).max? with
  | none =>
    rw [List.max?_eq_none_iff] at hmax
    simp [hmax] at hmem
  | some greatest =>
    rw [maxOf, hmax, Option.getD_some]
    exact (List.max?_eq_some_iff.mp hmax).2 _ hmem

lemma exists_maxOf {rows : List Row} (h : rows ≠ []) : ∃ row ∈ rows, row.id = maxOf rows := by
  cases hmax : (rows.map Row.id).max? with
  | none => simp [List.max?_eq_none_iff, h] at hmax
  | some greatest =>
    obtain ⟨row, hrow, hid⟩ := List.mem_map.mp (List.max?_eq_some_iff.mp hmax).1
    exact ⟨row, hrow, by rw [maxOf, hmax, Option.getD_some, hid]⟩

/-! ### Pages -/

namespace Scope

variable {s : Scope} {meaning : Meaning} {predicate : Option String} {db : Database}
  {after limit : Int} {row : Row}

lemma nodup_matching (s : Scope) (meaning : Meaning) (predicate : Option String) (db : Database) :
    ((s.matching meaning predicate db).map Row.id).Nodup :=
  (db s.table).nodup.sublist (List.filter_sublist.map _)

lemma id_bounds (h : row ∈ s.matching meaning predicate db) : 0 < row.id ∧ row.id < 2 ^ 63 := by
  have hmem := (List.mem_filter.mp h).1
  exact ⟨(db s.table).id_pos row hmem, (db s.table).id_lt row hmem⟩

lemma mem_pageRows (h : row ∈ s.pageRows meaning predicate db after limit) :
    row ∈ s.matching meaning predicate db ∧ after < row.id := by
  have hmem := mem_sortById.mp (List.mem_of_mem_take h)
  simpa using List.mem_filter.mp hmem

/-- The rows behind an id, all of them, in order. -/
lemma pairwise_behind (s : Scope) (meaning : Meaning) (predicate : Option String) (db : Database)
    (after : Int) :
    (sortById ((s.matching meaning predicate db).filter (after < ·.id))).Pairwise
      fun a b => a.id < b.id :=
  pairwise_lt_sortById ((nodup_matching s meaning predicate db).sublist
    (List.filter_sublist.map _))

lemma pairwise_pageRows (s : Scope) (meaning : Meaning) (predicate : Option String)
    (db : Database) (after limit : Int) :
    (s.pageRows meaning predicate db after limit).Pairwise fun a b => a.id < b.id :=
  (pairwise_behind s meaning predicate db after).sublist (List.take_sublist _ _)

lemma mem_behind (h : row ∈ s.matching meaning predicate db) (hafter : after < row.id) :
    row ∈ sortById ((s.matching meaning predicate db).filter (after < ·.id)) :=
  mem_sortById.mpr (List.mem_filter.mpr ⟨h, by simpa using hafter⟩)

/-- A page skips no row. -/
lemma mem_pageRows_of_le (h : row ∈ s.matching meaning predicate db) (hafter : after < row.id)
    {last : Row} (hlast : last ∈ s.pageRows meaning predicate db after limit)
    (hle : row.id ≤ last.id) : row ∈ s.pageRows meaning predicate db after limit :=
  mem_take_of_le (pairwise_behind s meaning predicate db after) (mem_behind h hafter) hlast hle

/-- A page is empty only if there is nothing left. -/
lemma le_of_pageRows_eq_nil (hlimit : 1 ≤ limit)
    (hnil : s.pageRows meaning predicate db after limit = [])
    (h : row ∈ s.matching meaning predicate db) : row.id ≤ after := by
  by_contra hlt
  have hmem := mem_behind h (not_le.mp hlt)
  rcases List.take_eq_nil_iff.mp hnil with hzero | hempty
  · omega
  · simp [hempty] at hmem

end Scope

end Catalog.Store
