import Catalog.Proofs.Store.Calm

/-!
A walk over tables that do not change. Then every row that matches is there all the time, so what
the walk has read are the rows up to its mark, and the next page are the first ones behind it.
-/

namespace Catalog.Store

open Catalog.Paging

namespace Walk

/-- The tables are the same at all moments. -/
def Unchanged (wk : Walk) : Prop :=
  ∀ k, (wk.world.moments k).database = (wk.world.moments 0).database

/-- The rows of a listing in the order of their ids. -/
def ordered (wk : Walk) : List Row := sortById (wk.rowsAt 0)

/-- What a walk was given in all its pages. -/
def given (wk : Walk) (n : ℕ) : List String := (wk.after n).visits.flatMap (·.page.rows)

/-- How many rows are left after so many calls. -/
def left (wk : Walk) (n : ℕ) : Int := (wk.rowsAt 0).length - (wk.given n).length

variable {wk : Walk} {key : Key} {n : ℕ} {readings : List Reading} {mark : Int}

lemma rowsAt_eq (h : wk.Unchanged) (k : ℕ) : wk.rowsAt k = wk.rowsAt 0 := by
  rw [rowsAt, rowsAt, h k]

lemma nodup_rowsAt (k : ℕ) : ((wk.rowsAt k).map Row.id).Nodup := Scope.nodup_matching _ _ _ _

lemma pairwise_ordered (wk : Walk) : wk.ordered.Pairwise fun a b => a.id < b.id :=
  pairwise_lt_sortById (nodup_rowsAt 0)

lemma mem_ordered {row : Row} : row ∈ wk.ordered ↔ row ∈ wk.rowsAt 0 := mem_sortById

lemma length_ordered (wk : Walk) : wk.ordered.length = (wk.rowsAt 0).length :=
  (perm_sortById _).length_eq

/-! ### What has been read -/

/-- In the order of their ids, lists with the same rows are the same. -/
lemma eq_of_mem_iff {rows rows' : List Row} (h : rows.Pairwise fun a b => a.id < b.id)
    (h' : rows'.Pairwise fun a b => a.id < b.id) (hmem : ∀ row, row ∈ rows ↔ row ∈ rows') :
    rows = rows' := by
  have hnodup {l : List Row} (hl : l.Pairwise fun a b => a.id < b.id) : l.Nodup :=
    hl.imp fun hlt heq => hlt.ne (congrArg Row.id heq)
  exact ((List.perm_ext_iff_of_nodup (hnodup h) (hnodup h')).mpr hmem).eq_of_pairwise
    (fun a b _ _ hab hba => absurd hba hab.not_gt) h h'

lemma exists_shows {visits : List Visit} (h : List.Forall₂ wk.Shows visits readings) :
    ∀ r ∈ readings, ∃ v, wk.Shows v r := by
  induction h with
  | nil => simp
  | cons hshows _ ih => exact List.forall_mem_cons.mpr ⟨⟨_, hshows⟩, ih⟩

/-- The walk has read the rows up to its mark. -/
lemma Covers.rows_eq (h : wk.Covers key (wk.after n) readings mark) (hsame : wk.Unchanged) :
    readings.flatMap Reading.rows = wk.ordered.filter (·.id ≤ mark) := by
  have hids : ids readings = (readings.flatMap Reading.rows).map Row.id := by
    simp [ids, List.map_flatMap]
  have hread : ∀ row ∈ readings.flatMap Reading.rows, row ∈ wk.rowsAt 0 := by
    intro row hrow
    obtain ⟨r, hr, hrow⟩ := List.mem_flatMap.mp hrow
    obtain ⟨v, hshows⟩ := exists_shows h.shows r hr
    exact rowsAt_eq hsame r.moment ▸ hshows.matching row hrow
  refine eq_of_mem_iff (List.pairwise_map.mp (hids ▸ h.sorted))
    ((pairwise_ordered wk).filter _) fun row => ?_
  rw [List.mem_filter, mem_ordered, decide_eq_true_iff]
  constructor
  · intro hrow
    exact ⟨hread row hrow, h.le_mark _ (hids ▸ List.mem_map_of_mem hrow)⟩
  · rintro ⟨hrow, hle⟩
    have hpersists : wk.Persists (wk.after n).session.reads row.id := fun k _ =>
      ⟨row, by rwa [rowsAt_eq hsame], rfl⟩
    have hmem := h.complete row.id (Scope.id_bounds hrow).1 hpersists hle
    rw [hids] at hmem
    obtain ⟨row', hrow', hid⟩ := List.mem_map.mp hmem
    -- rows of one table with the same id are the same
    rwa [← List.inj_on_of_nodup_map (nodup_rowsAt 0) (hread row' hrow') hrow hid]

/-- What the pages show is what was read. -/
lemma flatMap_shown {visits : List Visit} (h : List.Forall₂ wk.Shows visits readings) :
    visits.flatMap (·.page.rows) = (readings.flatMap Reading.rows).map wk.scope.shown := by
  induction h with
  | nil => rfl
  | cons hshows _ ih =>
    rw [List.flatMap_cons, List.flatMap_cons, List.map_append, hshows.rows_eq, ih]

lemma Covers.given_eq (h : wk.Covers key (wk.after n) readings mark) (hsame : wk.Unchanged) :
    wk.given n = (wk.ordered.filter (·.id ≤ mark)).map wk.scope.shown := by
  rw [given, flatMap_shown h.shows, h.rows_eq hsame]

/-- The rows that are left are those behind the mark. -/
lemma Covers.left_eq (h : wk.Covers key (wk.after n) readings mark) (hsame : wk.Unchanged) :
    wk.left n = (wk.ordered.filter (mark < ·.id)).length := by
  have hsplit := List.length_eq_length_filter_add (l := wk.ordered) fun row => row.id ≤ mark
  have hnot : wk.ordered.filter (fun row => !decide (row.id ≤ mark))
      = wk.ordered.filter (mark < ·.id) := by
    simp only [← decide_not, not_le]
  rw [hnot, length_ordered] at hsplit
  rw [left, h.given_eq hsame, List.length_map]
  omega

/-! ### One page more -/

/-- A page holds as many rows as it may and are left, and has a token while some are left. -/
lemma Covers.exists_page (hshares : wk.Shares key) (hfresh : wk.Fresh) (hcalm : wk.world.Calm)
    (haccepts : wk.Accepts) (hsame : wk.Unchanged)
    (h : wk.Covers key (wk.after n) readings mark) (hf : ¬(wk.after n).Finished) :
    ∃ page c, wk.call n (wk.after n) = (.ok page, c)
      ∧ (page.rows.length : Int) = min (wk.limit n) (wk.left n)
      ∧ (page.token = "" ↔ wk.left (n + 1) = 0) := by
  obtain ⟨page, c, hcall⟩ := exists_call hcalm haccepts n
  obtain ⟨rows, p, m, hb, hturn⟩ := call_eq_ok hshares hfresh (h.token hf) hcall
  obtain ⟨mark', hmoves⟩ := exists_moves hturn
  have h' := h.ok hf hcall hb hturn hmoves
  refine ⟨page, c, hcall, ?_, ?_⟩
  · have hrows : rows = (wk.ordered.filter (mark < ·.id)).take (wk.limit n).toNat := by
      rw [hturn.rows_eq, Scope.pageRows, ordered, ← rowsAt_eq hsame p,
        ← sortById_filter (nodup_rowsAt p)]
      rfl
    have hlimit := wk.one_le_limit n
    rw [hturn.shown, List.length_map, hrows, List.length_take, h.left_eq hsame]
    omega
  · rw [h'.left_eq hsame, Int.natCast_eq_zero, List.length_eq_zero_iff, List.filter_eq_nil_iff]
    simp only [mem_ordered, decide_eq_true_iff, not_lt]
    constructor
    · intro hempty row hrow
      obtain ⟨k, -, hbound⟩ := hmoves.last hempty
      exact hbound row (by rwa [rowsAt_eq hsame])
    · intro hbound
      by_contra hne
      obtain ⟨hmark, -, hmax⟩ := hmoves.token hne
      rw [rowsAt_eq hsame] at hmax
      -- the greatest id is that of a row, as it is not zero
      have hrows : wk.rowsAt 0 ≠ [] := by
        intro hnil
        have hzero : maxOf (wk.rowsAt 0) = 0 := by rw [hnil]; rfl
        have hpos := hmark.nonneg
        omega
      obtain ⟨row, hrow, hid⟩ := exists_maxOf hrows
      exact absurd (hbound row hrow) (by omega)

/-! ### The whole walk -/

/-- A finished walk was given all rows. -/
lemma Covers.given_of_finished (h : wk.Covers key (wk.after n) readings mark)
    (hsame : wk.Unchanged) (hf : (wk.after n).Finished) :
    wk.given n = wk.ordered.map wk.scope.shown := by
  rw [h.given_eq hsame, List.filter_eq_self.mpr]
  intro row hrow
  rw [mem_ordered] at hrow
  exact decide_eq_true (h.finished hf row.id fun k _ => ⟨row, by rwa [rowsAt_eq hsame], rfl⟩)

lemma left_nonneg (hshares : wk.Shares key) (hfresh : wk.Fresh) (hsame : wk.Unchanged) (n : ℕ) :
    0 ≤ wk.left n := by
  obtain ⟨readings, mark, h⟩ := exists_covers hshares hfresh n
  rw [h.left_eq hsame]
  exact Int.natCast_nonneg _

/-- Where nothing was given yet, everything is left. -/
lemma left_zero (wk : Walk) : wk.left 0 = (wk.rowsAt 0).length := by
  simp [left, given, after]

/-- The walk has a first page without a token. -/
lemma exists_end (hshares : wk.Shares key) (hfresh : wk.Fresh) (hcalm : wk.world.Calm)
    (haccepts : wk.Accepts) (hsame : wk.Unchanged) :
    ∃ n, (wk.after n).Finished ∧ ∀ i < n, ¬(wk.after i).Finished := by
  have hbound : ∀ k, maxOf (wk.rowsAt k) ≤ ((maxOf (wk.rowsAt 0)).toNat : Int) := by
    intro k
    rw [rowsAt_eq hsame]
    exact Int.self_le_toNat _
  have hends : ∃ n, (wk.after n).Finished :=
    ⟨_, finished_of_bounded hshares hfresh hcalm haccepts hbound⟩
  exact ⟨Nat.find hends, Nat.find_spec hends, fun i hi => Nat.find_min hends hi⟩

/-- Before that page something was left, as the token said, unless there is nothing at all. -/
lemma rowsAt_eq_nil_of_left (hshares : wk.Shares key) (hfresh : wk.Fresh) (hcalm : wk.world.Calm)
    (haccepts : wk.Accepts) (hsame : wk.Unchanged) {i : ℕ}
    (hrunning : ∀ j ≤ i, ¬(wk.after j).Finished) (hleft : wk.left i = 0) : wk.rowsAt 0 = [] := by
  cases i with
  | zero =>
    rw [left_zero] at hleft
    exact List.length_eq_zero_iff.mp (by exact_mod_cast hleft)
  | succ j =>
    have hj := hrunning j (Nat.le_succ j)
    obtain ⟨readings, mark, h⟩ := exists_covers hshares hfresh j
    obtain ⟨page, c, hcall, -, htoken⟩ :=
      h.exists_page hshares hfresh hcalm haccepts hsame hj
    have hf : (wk.after (j + 1)).Finished := by
      rw [after_succ_of_ok hj hcall, Progress.finished_add]
      exact htoken.mpr hleft
    exact absurd hf (hrunning (j + 1) le_rfl)

/-- **A walk over unchanged tables** ends. Its pages hold the rows in the scope that match, each
once and in the order of their ids; every page is as full as it may be, and none is fetched when
nothing is left. -/
theorem walk_over_unchanged_tables (wk : Walk) {key : Key} (hshares : wk.Shares key)
    (hfresh : wk.Fresh) (hcalm : wk.world.Calm) (haccepts : wk.Accepts) (hsame : wk.Unchanged) :
    ∃ (n : ℕ) (rows : List Row),
      (wk.after n).Finished
        ∧ rows.Perm (wk.rowsAt 0) ∧ (rows.Pairwise fun a b => a.id < b.id)
        ∧ (wk.after n).visits.flatMap (·.page.rows) = rows.map wk.scope.shown
        ∧ ∀ i < n, ∃ page c, wk.call i (wk.after i) = (.ok page, c)
          ∧ wk.after (i + 1) = (wk.after i).add page c
          ∧ (page.rows.length : Int) = min (wk.limit i) (wk.left i)
          ∧ (page.token = "" ↔ wk.left (i + 1) = 0) ∧ (page.token = "" ↔ i + 1 = n)
          ∧ (page.rows = [] → wk.rowsAt 0 = []) := by
  obtain ⟨n, hfinished, hrunning⟩ := exists_end hshares hfresh hcalm haccepts hsame
  obtain ⟨readings, mark, h⟩ := exists_covers hshares hfresh n
  refine ⟨n, wk.ordered, hfinished, perm_sortById _, pairwise_ordered wk,
    h.given_of_finished hsame hfinished, fun i hi => ?_⟩
  have hf := hrunning i hi
  obtain ⟨readings, mark, h⟩ := exists_covers hshares hfresh i
  obtain ⟨page, c, hcall, hlength, htoken⟩ := h.exists_page hshares hfresh hcalm haccepts hsame hf
  have hadd := after_succ_of_ok hf hcall
  have hlast : page.token = "" ↔ i + 1 = n := by
    rw [← Progress.finished_add (wk.after i) page c, ← hadd]
    refine ⟨fun hend => ?_, fun heq => heq ▸ hfinished⟩
    by_contra hne
    exact hrunning (i + 1) (by omega) hend
  refine ⟨page, c, hcall, hadd, hlength, htoken, hlast, fun hempty => ?_⟩
  have hleft : wk.left i = 0 := by
    have hlimit := wk.one_le_limit i
    have hnonneg := left_nonneg hshares hfresh hsame i
    rw [hempty, List.length_nil] at hlength
    omega
  exact rowsAt_eq_nil_of_left hshares hfresh hcalm haccepts hsame
    (fun j hj => hrunning j (hj.trans_lt hi)) hleft

/-- The notes of two projects, out of order. -/
def mixedNotes : Table where
  rows := [noteRow 3 "a" "third", noteRow 1 "a" "first", noteRow 2 "b" "second",
    noteRow 5 "a" "fifth"]
  nodup := by decide
  id_pos := by decide
  id_lt := by decide

/-- The notes of one of them, one by one. -/
def notesWalk : Walk := ⟨.still fun _ _ => mixedNotes, .notes "a", "", replicas, fun _ => 1⟩

theorem walk_over_unchanged_tables_notes :
    ∃ n, (notesWalk.after n).Finished
      ∧ (notesWalk.after n).visits.flatMap (·.page.rows) = ["first", "third", "fifth"] := by
  obtain ⟨n, rows, hf, hperm, hsorted, hgiven, -⟩ := walk_over_unchanged_tables notesWalk
    primary_replicas (notesWalk.fresh_still rfl) (World.calm_still _)
    (fun i => ⟨none, predicate?_replicas i _⟩) (fun _ => rfl)
  have hrows : rows = [noteRow 1 "a" "first", noteRow 3 "a" "third", noteRow 5 "a" "fifth"] := by
    refine eq_of_mem_iff hsorted (by simp [noteRow]) fun row => ?_
    have hmem : notesWalk.rowsAt 0
        = [noteRow 3 "a" "third", noteRow 1 "a" "first", noteRow 5 "a" "fifth"] := by
      rfl
    rw [hperm.mem_iff, hmem]
    simp only [List.mem_cons, List.not_mem_nil, or_false]
    tauto
  exact ⟨n, hf, by rw [hgiven, hrows]; rfl⟩

end Walk

end Catalog.Store
