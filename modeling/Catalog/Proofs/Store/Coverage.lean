import Catalog.Proofs.Store.Walk

/-!
What a walk has covered. The tables may change between any two requests of the client, and so
between the two reads of one call. What the walk has read is in the order of the ids all the same,
and it leaves out nothing that was there all the time: all that is up to the id in its token was
read.
-/

namespace Catalog.Store

open Catalog.Paging

/-- The rows of a page, and the moment at which they were read. -/
structure Reading where
  rows : List Row
  moment : ℕ

def ids (readings : List Reading) : List Int := readings.flatMap fun r => r.rows.map Row.id

@[simp] lemma ids_append (readings : List Reading) (r : Reading) :
    ids (readings ++ [r]) = ids readings ++ r.rows.map Row.id := by
  simp [ids]

namespace Walk

variable (wk : Walk)

/-- The page shows the rows, which were in the scope and matched at a moment of its call. -/
structure Shows (v : Visit) (r : Reading) : Prop where
  rows_eq : v.page.rows = r.rows.map wk.scope.shown
  opened : v.opened ≤ r.moment
  closed : r.moment < v.closed
  matching : ∀ row ∈ r.rows, row ∈ wk.rowsAt r.moment

/-- A row with the id was in the scope and matched at all of the moments. -/
def Persists (moments : List ℕ) (id : Int) : Prop :=
  ∀ k ∈ moments, ∃ row ∈ wk.rowsAt k, row.id = id

/-- The invariant of a walk: what it has read is in order and ends at `mark`, it has all the
persistent rows up to there, and its token says to go on from there. -/
structure Covers (key : Key) (p : Progress) (readings : List Reading) (mark : Int) : Prop where
  shows : List.Forall₂ wk.Shows p.visits readings
  recorded : ∀ r ∈ readings, r.moment ∈ p.session.reads
  sorted : (ids readings).Pairwise (· < ·)
  le_mark : ∀ id ∈ ids readings, id ≤ mark
  complete : ∀ id, 0 < id → wk.Persists p.session.reads id → id ≤ mark → id ∈ ids readings
  token : ¬p.Finished → IsMark wk.world key mark p.token
  finished : p.Finished → ∀ id, wk.Persists p.session.reads id → id ≤ mark

variable {wk} {key : Key} {i : ℕ} {readings : List Reading} {mark : Int}

lemma Persists.mono {moments moments' : List ℕ} {id : Int} (h : wk.Persists moments' id)
    (hsub : moments ⊆ moments') : wk.Persists moments id := fun k hk => h k (hsub hk)

lemma covers_start : wk.Covers key (wk.after 0) [] 0 where
  shows := .nil
  recorded := by simp
  sorted := .nil
  le_mark := by simp [ids]
  complete := fun id hpos _ hle => absurd hpos hle.not_gt
  token := fun _ => .inl ⟨rfl, rfl⟩
  finished := fun h => absurd rfl h.1

lemma Covers.error (h : wk.Covers key (wk.after i) readings mark) (hf : ¬(wk.after i).Finished)
    {e : Error} {c : Session} (hcall : wk.call i (wk.after i) = (.error e, c)) :
    wk.Covers key (wk.after (i + 1)) readings mark := by
  have hreads := (reads_call hcall).1
  rw [after_succ_of_error hf hcall]
  exact {
    shows := h.shows
    recorded := fun r hr => hreads (h.recorded r hr)
    sorted := h.sorted
    le_mark := h.le_mark
    complete := fun id hpos hp hle => h.complete id hpos (hp.mono hreads) hle
    token := fun _ => h.token hf
    finished := fun hfinished => absurd hfinished hf }

/-- What a page adds is behind the mark. -/
lemma Covers.sorted_append (h : wk.Covers key (wk.after i) readings mark) {rows : List Row}
    {page : Page} {p m : ℕ}
    (hturn : IsTurn wk.world wk.scope wk.predicate key mark (wk.limit i) rows page p m) :
    (ids (readings ++ [⟨rows, p⟩])).Pairwise (· < ·) := by
  rw [ids_append]
  refine List.pairwise_append.mpr ⟨h.sorted, List.pairwise_map.mpr ?_, fun a ha b hb => ?_⟩
  · rw [hturn.rows_eq]
    exact Scope.pairwise_pageRows _ _ _ _ _ _
  · obtain ⟨row, hrow, rfl⟩ := List.mem_map.mp hb
    exact (h.le_mark a ha).trans_lt (Scope.mem_pageRows (hturn.rows_eq ▸ hrow)).2

lemma shows_turn {rows : List Row} {page : Page} {c c' : Session} {p m : ℕ}
    (hb : Between c c' p m)
    (hturn : IsTurn wk.world wk.scope wk.predicate key mark (wk.limit i) rows page p m) :
    wk.Shows ⟨page, c.moment, c'.moment⟩ ⟨rows, p⟩ where
  rows_eq := hturn.shown
  opened := hb.start
  closed := hb.order.trans_lt hb.stop
  matching := fun _ hrow => (Scope.mem_pageRows (hturn.rows_eq ▸ hrow)).1

/-- How a page moves the mark: it skips nothing on the way, and its token says to go on from there,
or it has none because one of the two reads found nothing behind it. -/
structure Moves (wk : Walk) (key : Key) (rows : List Row) (page : Page) (p m : ℕ)
    (mark mark' : Int) : Prop where
  le : mark ≤ mark'
  rows_le : ∀ row ∈ rows, row.id ≤ mark'
  skipped : ∀ row ∈ wk.rowsAt p, mark < row.id → row.id ≤ mark' → row ∈ rows
  token : page.token ≠ "" →
    IsMark wk.world key mark' page.token ∧ mark < mark' ∧ mark' < maxOf (wk.rowsAt m)
  last : page.token = "" → ∃ k ∈ [p, m], ∀ row ∈ wk.rowsAt k, row.id ≤ mark'

lemma exists_moves {rows : List Row} {page : Page} {p m : ℕ}
    (hturn : IsTurn wk.world wk.scope wk.predicate key mark (wk.limit i) rows page p m) :
    ∃ mark', wk.Moves key rows page p m mark mark' := by
  rcases List.eq_nil_or_concat rows with rfl | ⟨init, last, rfl⟩
  · have hbound : ∀ row ∈ wk.rowsAt p, row.id ≤ mark := fun row hrow =>
      Scope.le_of_pageRows_eq_nil (wk.one_le_limit i) hturn.rows_eq.symm hrow
    exact ⟨mark, {
      le := le_rfl
      rows_le := by simp
      skipped := fun row hrow hlt _ => absurd (hbound row hrow) hlt.not_ge
      token := fun hne => absurd (hturn.token_nil rfl) hne
      last := fun _ => ⟨p, by simp, hbound⟩ }⟩
  · have hmem : last ∈ init.concat last := by simp
    obtain ⟨hmatching, hbehind⟩ := Scope.mem_pageRows (hturn.rows_eq ▸ hmem)
    have hsorted : (init.concat last).Pairwise fun a b => a.id < b.id := by
      rw [hturn.rows_eq]
      exact Scope.pairwise_pageRows _ _ _ _ _ _
    have htoken := hturn.token_last last (by simp)
    refine ⟨last.id, hbehind.le, fun row hrow => ?_, fun row hrow hlt hle => ?_, fun hne => ?_,
      fun hempty => ⟨m, by simp, fun row hrow => (le_maxOf hrow).trans (not_lt.mp fun hlt => ?_)⟩⟩
    · rw [List.concat_eq_append] at hsorted hrow
      rcases List.mem_append.mp hrow with hrow | hrow
      · exact ((List.pairwise_append.mp hsorted).2.2 row hrow last (by simp)).le
      · rw [List.mem_singleton.mp hrow]
    · rw [hturn.rows_eq] at hmem ⊢
      exact Scope.mem_pageRows_of_le hrow hlt hmem hle
    · split at htoken
      · rename_i hlt
        exact ⟨.inr ⟨htoken, (Scope.id_bounds hmatching).2⟩, hbehind, hlt⟩
      · exact absurd htoken hne
    · rw [rowsAt] at hlt
      rw [if_pos hlt] at htoken
      exact htoken.ne_empty hempty

lemma Covers.ok (h : wk.Covers key (wk.after i) readings mark) (hf : ¬(wk.after i).Finished)
    {page : Page} {c : Session} (hcall : wk.call i (wk.after i) = (.ok page, c))
    {rows : List Row} {p m : ℕ} (hb : Between (wk.after i).session.connect c p m)
    (hturn : IsTurn wk.world wk.scope wk.predicate key mark (wk.limit i) rows page p m)
    {mark' : Int} (hmoves : wk.Moves key rows page p m mark mark') :
    wk.Covers key (wk.after (i + 1)) (readings ++ [⟨rows, p⟩]) mark' := by
  have hreads := (reads_call hcall).1
  have hshows := shows_turn hb hturn
  have hsorted := h.sorted_append hturn
  rw [after_succ_of_ok hf hcall]
  exact {
    shows := List.rel_append h.shows (.cons hshows .nil)
    recorded := by
      intro r hr
      rcases List.mem_append.mp hr with hr | hr
      · exact hreads (h.recorded r hr)
      · rw [List.mem_singleton.mp hr]
        exact hb.mem.1
    sorted := hsorted
    le_mark := by
      intro id hid
      rw [ids_append] at hid
      rcases List.mem_append.mp hid with hid | hid
      · exact (h.le_mark id hid).trans hmoves.le
      · obtain ⟨row, hrow, rfl⟩ := List.mem_map.mp hid
        exact hmoves.rows_le row hrow
    complete := by
      intro id hpos hp hid
      rw [ids_append]
      rcases le_or_gt id mark with hold | hnew
      · exact List.mem_append_left _ (h.complete id hpos (hp.mono hreads) hold)
      · obtain ⟨row, hrow, rfl⟩ := hp p hb.mem.1
        exact List.mem_append_right _ (List.mem_map_of_mem (hmoves.skipped row hrow hnew hid))
    token := fun hfinished => (hmoves.token fun hempty => hfinished (by simpa using hempty)).1
    finished := by
      intro hfinished id hp
      obtain ⟨k, hk, hbound⟩ := hmoves.last hfinished.2
      have hmem : k ∈ c.reads := by
        rcases List.mem_pair.mp hk with rfl | rfl
        · exact hb.mem.1
        · exact hb.mem.2
      obtain ⟨row, hrow, rfl⟩ := hp k hmem
      exact hbound row hrow }

/-- One call keeps the invariant, and if it succeeds and does not finish the walk, it moves on. -/
lemma Covers.step (hshares : wk.Shares key) (hfresh : wk.Fresh)
    (h : wk.Covers key (wk.after i) readings mark) :
    ∃ readings' mark', wk.Covers key (wk.after (i + 1)) readings' mark'
      ∧ ∀ page c, wk.call i (wk.after i) = (.ok page, c) → ¬(wk.after (i + 1)).Finished →
        mark < mark' ∧ ∃ k, mark' < maxOf (wk.rowsAt k) := by
  by_cases hf : (wk.after i).Finished
  · rw [after_succ_of_finished hf]
    exact ⟨readings, mark, h, fun _ _ _ hnot => absurd hf hnot⟩
  rcases hcall : wk.call i (wk.after i) with ⟨e | page, c⟩
  · exact ⟨readings, mark, h.error hf hcall, by simp⟩
  obtain ⟨rows, p, m, hb, hturn⟩ := call_eq_ok hshares hfresh (h.token hf) hcall
  obtain ⟨mark', hmoves⟩ := exists_moves hturn
  refine ⟨_, mark', h.ok hf hcall hb hturn hmoves, fun _ _ _ hnot => ?_⟩
  have hne : page.token ≠ "" := by
    rw [after_succ_of_ok hf hcall] at hnot
    simpa using hnot
  exact ⟨(hmoves.token hne).2.1, m, (hmoves.token hne).2.2⟩

lemma exists_covers (hshares : wk.Shares key) (hfresh : wk.Fresh) (n : ℕ) :
    ∃ readings mark, wk.Covers key (wk.after n) readings mark := by
  induction n with
  | zero => exact ⟨[], 0, covers_start⟩
  | succ n ih =>
    obtain ⟨readings, mark, h⟩ := ih
    obtain ⟨readings', mark', h', -⟩ := h.step hshares hfresh
    exact ⟨readings', mark', h'⟩

end Walk

end Catalog.Store
