import Catalog.Proofs.Store.Calm

/-!
A walk while others write. Its pages are read one after the other from tables that change, so it
may see rows of different states; what stays, it sees once.
-/

namespace Catalog.Store

open Catalog.Paging

namespace Walk

/-- **A walk among writers** shows rows that were in the scope and matched while their page was
read, in the order of their ids and so none of them twice. Once it is finished, it has shown every
row once that was in the scope and matched at all of its reads, whatever was so between them. -/
theorem walk_among_writers (wk : Walk) {key : Key} (hshares : wk.Shares key) (hfresh : wk.Fresh)
    (n : ℕ) :
    ∃ readings, List.Forall₂ wk.Shows (wk.after n).visits readings
      ∧ (∀ r ∈ readings, r.moment ∈ (wk.after n).session.reads)
      ∧ (∀ k ∈ (wk.after n).session.reads, k < (wk.after n).session.moment)
      ∧ (ids readings).Pairwise (· < ·)
      ∧ ((wk.after n).Finished →
        ∀ id, wk.Persists (wk.after n).session.reads id → (ids readings).count id = 1) := by
  obtain ⟨readings, mark, h⟩ := exists_covers hshares hfresh n
  refine ⟨readings, h.shows, h.recorded, (past_after n).2, h.sorted, fun hf id hp => ?_⟩
  have hpos : 0 < id := by
    obtain ⟨r, hr⟩ : ∃ r, r ∈ readings := by
      refine List.exists_mem_of_length_pos ?_
      rw [← h.shows.length_eq]
      exact List.length_pos_iff.mpr hf.1
    obtain ⟨row, hrow, rfl⟩ := hp r.moment (h.recorded r hr)
    exact (Scope.id_bounds hrow).1
  have hnodup : (ids readings).Nodup := h.sorted.imp fun hlt => hlt.ne
  exact List.count_eq_one_of_mem hnodup (h.complete id hpos hp (h.finished hf id hp))

/-- A note that is there all the time, and one that comes and goes. -/
def flickeringNotes (k : ℕ) : Table :=
  if k % 2 = 0 then ⟨[noteRow 1 "a" "first"], by decide, by decide, by decide⟩
  else ⟨[noteRow 2 "a" "second", noteRow 1 "a" "first"], by decide, by decide, by decide⟩

def flickeringWalk : Walk :=
  ⟨.still fun k _ => flickeringNotes k, .notes "a", "", replicas, fun _ => 20⟩

lemma mem_flickering (k : ℕ) : noteRow 1 "a" "first" ∈ flickeringWalk.rowsAt k
    ∧ maxOf (flickeringWalk.rowsAt k) ≤ 2 := by
  have hrows : flickeringWalk.rowsAt k = (flickeringNotes k).rows.filter
      (Scope.matches (.notes "a") (World.still fun k _ => flickeringNotes k).meaning none) := rfl
  rw [hrows]
  unfold flickeringNotes
  split
  · exact ⟨by simp [Scope.matches, Scope.contains, Scope.keys, noteRow], by decide⟩
  · exact ⟨by simp [Scope.matches, Scope.contains, Scope.keys, noteRow], by decide⟩

theorem walk_among_writers_flickering :
    ∃ readings, List.Forall₂ flickeringWalk.Shows (flickeringWalk.after 3).visits readings
      ∧ (ids readings).Pairwise (· < ·) ∧ (ids readings).count 1 = 1 := by
  have hshares : flickeringWalk.Shares strictStore.cursor.primary := primary_replicas
  have hfresh : flickeringWalk.Fresh := flickeringWalk.fresh_still rfl
  have hfinished : (flickeringWalk.after 3).Finished :=
    finished_of_bounded hshares hfresh (World.calm_still _)
      (fun i => ⟨none, predicate?_replicas i _⟩) fun k => (mem_flickering k).2
  obtain ⟨readings, hshows, -, -, hsorted, hcount⟩ :=
    walk_among_writers flickeringWalk hshares hfresh 3
  exact ⟨readings, hshows, hsorted,
    hcount hfinished 1 fun k _ => ⟨_, (mem_flickering k).1, rfl⟩⟩

end Walk

end Catalog.Store
