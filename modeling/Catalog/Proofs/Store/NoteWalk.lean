import Catalog.Proofs.Store.Listed
import Catalog.Proofs.Store.Unchanged

/-!
A walk through the occurrences of a note, over tables that stand still. The rows are picked by
their columns; the columns are the parts of the name by which an occurrence refers to its note, so
the walk gives the occurrences that refer to the note.
-/

namespace Catalog.Store

open Catalog.Paging Operation Record

/-! ### Rows behind a mark -/

/-- The rows of a scope behind a mark, in the order of their ids. -/
def Scope.rest (s : Scope) (meaning : Meaning) (db : Database) (mark : Int) : List Row :=
  (sortById (s.matching meaning none db)).filter (mark < ·.id)

namespace Scope

variable {s : Scope} {meaning : Meaning} {db : Database} {mark : Int} {row : Row}

lemma mem_rest :
    row ∈ s.rest meaning db mark ↔ row ∈ s.matching meaning none db ∧ mark < row.id := by
  rw [rest, List.mem_filter, mem_sortById, decide_eq_true_iff]

lemma pairwise_rest (s : Scope) (meaning : Meaning) (db : Database) (mark : Int) :
    (s.rest meaning db mark).Pairwise fun a b => a.id < b.id :=
  (pairwise_lt_sortById (nodup_matching s meaning none db)).filter _

/-- All ids are positive. -/
lemma rest_zero (s : Scope) (meaning : Meaning) (db : Database) :
    s.rest meaning db 0 = sortById (s.matching meaning none db) :=
  List.filter_eq_self.mpr fun _ hrow =>
    decide_eq_true (id_bounds (mem_sortById.mp hrow)).1

end Scope

/-- A page holds the first rows behind the mark, and its token is for the others, if there are
any. -/
lemma IsTurn.exists_rest {w : World} {s : Scope} {key : Key} {mark : Int} {store : Store}
    {size : Int} {rows : List Row} {page : Page} {p m : ℕ} {db : Database}
    (h : IsTurn w s none key mark (store.options.pageSize size) rows page p m)
    (hdb : ∀ k, (w.moments k).database = db) :
    ∃ mark', s.rest w.meaning db mark = rows ++ s.rest w.meaning db mark'
      ∧ (page.token = "" → s.rest w.meaning db mark' = [])
      ∧ (page.token ≠ "" → IsMark w key mark' page.token ∧ rows ≠ []) := by
  let wk : Walk := ⟨w, s, "", fun _ => store, fun _ => size⟩
  have hrows : ∀ k, wk.rowsAt k = s.matching w.meaning none db := fun k => by
    rw [← hdb k]
    rfl
  have hturn : IsTurn wk.world wk.scope wk.predicate key mark (wk.limit 0) rows page p m := h
  obtain ⟨mark', hmoves⟩ := Walk.exists_moves hturn
  have hsorted : (rows ++ s.rest w.meaning db mark').Pairwise fun a b => a.id < b.id := by
    refine List.pairwise_append.mpr ⟨?_, Scope.pairwise_rest _ _ _ _, fun a ha b hb =>
      (hmoves.rows_le a ha).trans_lt (Scope.mem_rest.mp hb).2⟩
    rw [h.rows_eq]
    exact Scope.pairwise_pageRows _ _ _ _ _ _
  refine ⟨mark', Walk.eq_of_mem_iff (Scope.pairwise_rest _ _ _ _) hsorted fun row => ?_, ?_, ?_⟩
  · rw [List.mem_append, Scope.mem_rest, Scope.mem_rest]
    constructor
    · rintro ⟨hrow, hlt⟩
      rcases le_or_gt row.id mark' with hle | hgt
      · exact .inl (hmoves.skipped row (by rwa [hrows]) hlt hle)
      · exact .inr ⟨hrow, hgt⟩
    · rintro (hrow | ⟨hrow, hlt⟩)
      · rw [← hdb p]
        exact Scope.mem_pageRows (h.rows_eq ▸ hrow)
      · exact ⟨hrow, hmoves.le.trans_lt hlt⟩
  · intro htoken
    obtain ⟨k, -, hbound⟩ := hmoves.last htoken
    refine List.eq_nil_iff_forall_not_mem.mpr fun row hrow => ?_
    obtain ⟨hmem, hlt⟩ := Scope.mem_rest.mp hrow
    exact (hbound row (by rwa [hrows])).not_gt hlt
  · exact fun htoken => ⟨(hmoves.token htoken).1, fun hnil => htoken (h.token_nil hnil)⟩

/-! ### The occurrences of a note -/

/-- The occurrences that refer to a note by its name, in the order of their rows. -/
def Tables.occurrencesOf {e : Engine} (t : Tables e) (p n : String) : List Occurrence :=
  ((sortById (t "occurrences").rows).filterMap Row.occurrence?).filter fun o =>
    o.noteName = Name.note p n

/-- A row is in the scope of a note if its occurrence refers to the note by its name. -/
lemma IsOccurrenceRow.contains_iff {e : Engine} {row : Row} (h : IsOccurrenceRow e row)
    (p n : String) : ∃ o, row.occurrence? = some o
      ∧ ((Scope.noteOccurrences p n).contains row = true ↔ o.noteName = Name.note p n) := by
  obtain ⟨o, ho, hreference⟩ := h.named
  refine ⟨o, ho.1, ?_⟩
  rw [show Name.note p n = Name.child .note p n from rfl, Name.eq_child_iff hreference]
  simp [Scope.contains, Scope.keys]

/-- The rows in the scope of a note hold the occurrences that refer to it. -/
lemma Tables.filterMap_rest {e : Engine} {t : Tables e} (ht : Agreeing e t) (p n : String)
    (meaning : Meaning) :
    ((Scope.noteOccurrences p n).rest meaning t.database 0).filterMap Row.occurrence?
      = t.occurrencesOf p n := by
  have hmatching : (Scope.noteOccurrences p n).matching meaning none t.database
      = (t "occurrences").rows.filter (Scope.noteOccurrences p n).contains :=
    List.filter_congr fun row _ => by simp [Scope.matches]
  rw [Scope.rest_zero, hmatching, sortById_filter (t.nodup_ids _), List.filterMap_filter,
    occurrencesOf, List.filter_filterMap]
  refine List.filterMap_congr fun row hrow => ?_
  have hmem : row ∈ (t "occurrences").rows := mem_sortById.mp hrow
  obtain ⟨o, ho, hiff⟩ := ((ht _ row hmem).occurrence rfl).contains_iff p n
  by_cases hname : o.noteName = Name.note p n
  · simp [ho, hiff.mpr hname, hname, Option.filter]
  · simp [ho, mt hiff.mp hname, hname, Option.filter]

/-! ### One call -/

namespace Service

variable {v : Service} {c c' : Situation v.engine} {store : Store} {key : Key} {p n token : String}
  {size mark : Int}

/-- The token is fresh by the clock at all moments of a call. -/
def Fresh (v : Service) (token : String) (c c' : Situation v.engine) : Prop :=
  ∀ t, Token.parse? token = some t → ∀ k, c.moment ≤ k → k < c'.moment →
    t.isFresh (v.occasions k).time.unixSeconds = true

/-- A walk with this token, which was made before a moment, goes on behind the mark. -/
def Marks (v : Service) (t : Tables v.engine) (key : Key) (mark : Int) (moment : ℕ)
    (token : String) : Prop :=
  ∃ last ≤ moment, IsMark (v.world t last) key mark token

/-- What is left for a walk behind a mark. -/
def left (v : Service) (t : Tables v.engine) (p n : String) (mark : Int) : List Row :=
  (Scope.noteOccurrences p n).rest v.meaning t.database mark

/-- Where there is no note, none of its occurrences are listed. -/
lemma Calm.listNoteOccurrences_of_missing (hv : v.Calm) (store : Store)
    (htakes : ∀ s ∈ [p, n], v.engine.takes s)
    (hmissing : ∀ row ∈ (c.tables "notes").rows, row.has (noteKeys p n) = false)
    (filter token : String) (size : Int) :
    (v.run (store.listNoteOccurrences p n filter token size) c).1 = .error (missingNote p n) := by
  obtain ⟨c', -, hrun⟩ := hv.getNote htakes c
  rw [Tables.payload?_eq_none hmissing, Option.elim_none] at hrun
  rw [Store.listNoteOccurrences, run_bind, run_discard, hrun]

/-- Each call gives the occurrences of the first rows that are left, and a token for the others. -/
lemma Calm.listNoteOccurrences (hv : v.Calm) (ht : Agreeing v.engine c.tables)
    (htakes : ∀ s ∈ [p, n], v.engine.takes s)
    (hnote : ∃ row ∈ (c.tables "notes").rows, row.has (noteKeys p n) = true)
    (hkey : store.cursor.primary = key) (hmark : v.Marks c.tables key mark c.moment token)
    {r : Except Error (List Occurrence × String)}
    (hrun : v.run (store.listNoteOccurrences p n "" token size) c = (r, c'))
    (hfresh : v.Fresh token c c') :
    ∃ rows next mark', r = .ok (rows.filterMap Row.occurrence?, next) ∧ c'.tables = c.tables
      ∧ v.left c.tables p n mark = rows ++ v.left c.tables p n mark'
      ∧ (next = "" → v.left c.tables p n mark' = [])
      ∧ (next ≠ "" → v.Marks c.tables key mark' c'.moment next ∧ rows ≠ []) := by
  obtain ⟨row, hrow, hhas⟩ := hnote
  obtain ⟨note, hread⟩ : ∃ note, (noteOfPayload (row.column "data")).map
      (fun n' => { n' with name := Name.note p n }) = .ok note := by
    obtain ⟨n', hn', -⟩ := ((ht _ row hrow).note rfl).named
    exact ⟨_, by rw [noteOfPayload, hn']; rfl⟩
  obtain ⟨⟨m₁, t₁⟩, htables, hget⟩ := hv.getNote htakes c
  obtain rfl : t₁ = c.tables := htables
  rw [Tables.payload?_of_mem (Tables.isKey_notes p n) hrow hhas, Option.elim_some, hread] at hget
  have hmoment : c.moment ≤ m₁ := by
    have hle := v.moment_le_run (Store.getNote p n) c
    rwa [hget] at hle
  obtain ⟨rows, page, c₂, p₁, m, hlist, htables, hlt, hturn⟩ :=
    hv.listOccurrencesIn (s := .noteOccurrences p n) (c := ⟨m₁, c.tables⟩) ht rfl
      (show store.predicate? _ "" = .ok none from rfl)
      (by simpa [Scope.keys] using htakes) token size
  rw [Store.listNoteOccurrences, run_bind, run_discard, hget] at hrun
  obtain ⟨rfl, rfl⟩ := Prod.mk.inj (hrun.symm.trans hlist)
  obtain ⟨last, hlast, hmark⟩ := hmark
  have hdecode : store.cursor.decode (v.occasions m₁).time.unixSeconds 0 token = mark :=
    hmark.decode hkey fun t ht => hfresh t ht m₁ hmoment hlt
  rw [hdecode, hkey] at hturn
  obtain ⟨mark', hleft, hend, hmore⟩ := hturn.exists_rest fun _ => rfl
  exact ⟨rows, page.token, mark', rfl, htables, hleft, hend, fun hne =>
    ⟨⟨c'.moment, le_rfl, (hmore hne).1⟩, (hmore hne).2⟩⟩

/-! ### Whole walks -/

/-- A client that starts with a token calls one store after the other, each with the token of the
page before, until there is none, and is given these records. -/
inductive Walked (v : Service) (stores : ℕ → Store) (sizes : ℕ → Int) (p n : String) :
    ℕ → String → Situation v.engine → List Occurrence → Prop
  | last {i : ℕ} {token : String} {c c' : Situation v.engine} {os : List Occurrence}
      (run : v.run ((stores i).listNoteOccurrences p n "" token (sizes i)) c = (.ok (os, ""), c'))
      (fresh : v.Fresh token c c') : Walked v stores sizes p n i token c os
  | more {i : ℕ} {token next : String} {c c' : Situation v.engine} {os rest : List Occurrence}
      (run : v.run ((stores i).listNoteOccurrences p n "" token (sizes i)) c
        = (.ok (os, next), c'))
      (fresh : v.Fresh token c c') (hnext : next ≠ "")
      (walked : Walked v stores sizes p n (i + 1) next c' rest) :
      Walked v stores sizes p n i token c (os ++ rest)

/-- Time runs slowly enough for tokens to live, and no clock is far behind another. -/
def Steady (v : Service) : Prop :=
  ∀ j k, j ≤ k →
    (v.occasions k).time.unixSeconds ≤ (v.occasions j).time.unixSeconds + timeToLive
      ∧ (v.occasions j).time.unixSeconds ≤ (v.occasions k).time.unixSeconds + clockSkew

lemma Steady.fresh (hsteady : v.Steady) {t : Tables v.engine}
    (hmark : v.Marks t key mark c.moment token) (c' : Situation v.engine) : v.Fresh token c c' := by
  intro found hparse k hk _
  obtain ⟨last, hlast, ⟨rfl, -⟩ | ⟨htoken, -⟩⟩ := hmark
  · rw [Token.parse?_empty] at hparse
    cases hparse
  · obtain ⟨j, found', hparse', htime⟩ := htoken.exists_parse?
    obtain rfl : found' = found := Option.some.inj (hparse'.symm.trans hparse)
    have hle : min j last ≤ k := (Nat.min_le_right _ _).trans (hlast.trans hk)
    have hclocks := hsteady _ _ hle
    simp only [Token.isFresh, htime, world, Bool.and_eq_true, decide_eq_true_iff]
    exact hclocks

section

variable {stores : ℕ → Store} {sizes : ℕ → Int} {t : Tables v.engine}

/-- A walk gives what is left behind its mark. -/
lemma Walked.eq_left (hv : v.Calm) (ht : Agreeing v.engine t)
    (htakes : ∀ s ∈ [p, n], v.engine.takes s)
    (hnote : ∃ row ∈ (t "notes").rows, row.has (noteKeys p n) = true)
    (hkey : ∀ i, (stores i).cursor.primary = key) {i : ℕ} {records : List Occurrence}
    (h : v.Walked stores sizes p n i token c records) (hc : c.tables = t)
    (hmark : v.Marks t key mark c.moment token) :
    records = (v.left t p n mark).filterMap Row.occurrence? := by
  induction h generalizing mark with
  | last run fresh =>
    subst hc
    obtain ⟨rows, next, mark', hr, -, hleft, hend, -⟩ :=
      hv.listNoteOccurrences ht htakes hnote (hkey _) hmark run fresh
    obtain ⟨rfl, rfl⟩ := Prod.mk.inj (Except.ok.inj hr)
    rw [hleft, hend rfl, List.append_nil]
  | more run fresh hnext walked ih =>
    subst hc
    obtain ⟨rows, next, mark', hr, htables, hleft, -, hmore⟩ :=
      hv.listNoteOccurrences ht htakes hnote (hkey _) hmark run fresh
    obtain ⟨rfl, rfl⟩ := Prod.mk.inj (Except.ok.inj hr)
    rw [hleft, List.filterMap_append, ← ih htables (hmore hnext).1]

/-- Each page leaves fewer rows, so a walk comes to an end. -/
lemma exists_walked (stores : ℕ → Store) (sizes : ℕ → Int) (hv : v.Calm) (hsteady : v.Steady)
    (ht : Agreeing v.engine t)
    (htakes : ∀ s ∈ [p, n], v.engine.takes s)
    (hnote : ∃ row ∈ (t "notes").rows, row.has (noteKeys p n) = true)
    (hkey : ∀ i, (stores i).cursor.primary = key) (i : ℕ) (hc : c.tables = t)
    (hmark : v.Marks t key mark c.moment token) :
    ∃ records, v.Walked stores sizes p n i token c records := by
  induction hlength : (v.left t p n mark).length using Nat.strong_induction_on
    generalizing i token c mark with
  | _ length ih =>
    subst hc
    rcases hrun : v.run ((stores i).listNoteOccurrences p n "" token (sizes i)) c with ⟨r, c'⟩
    have hfresh := hsteady.fresh hmark c'
    obtain ⟨rows, next, mark', rfl, htables, hleft, -, hmore⟩ :=
      hv.listNoteOccurrences ht htakes hnote (hkey i) hmark hrun hfresh
    by_cases hnext : next = ""
    · subst hnext
      exact ⟨_, .last hrun hfresh⟩
    · obtain ⟨hmark', hne⟩ := hmore hnext
      have hlt : (v.left c.tables p n mark').length < length := by
        have hpos := List.length_pos_iff.mpr hne
        rw [← hlength, hleft, List.length_append]
        omega
      obtain ⟨rest, hrest⟩ := ih _ hlt (i + 1) htables hmark' rfl
      exact ⟨_, .more hrun hfresh hnext hrest⟩

end

end Service

end Catalog.Store
