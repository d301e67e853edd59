import Catalog.Proofs.Store.Pages
import Catalog.Proofs.Store.Session

/-!
One call of a listing in the world: what its page holds, and what its token is for. The page and
the greatest id are read at moments of their own.
-/

namespace Catalog.Store

open Catalog.Paging Operation

/-- The text seals an id with the key, at some moment of the world. -/
def IsToken (w : World) (key : Key) (id : Int) (text : String) : Prop :=
  ∃ k start, 0 ≤ id ∧ text = (Token.issue key start (w.moments k).time.unixSeconds
    (Cursor.asciiBytes (toString id))).text

/-- The rows of a page as the tables held them at the moment `p`, and the greatest id of all rows
that match as it was at `m`. -/
structure IsReading (w : World) (s : Scope) (predicate : Option String) (after limit : Int)
    (rows : List Row) (greatest : Int) (p m : ℕ) : Prop where
  rows_eq : rows = s.pageRows w.meaning predicate (w.moments p).database after limit
  greatest_eq : rows ≠ [] →
    greatest = maxOf (s.matching w.meaning predicate (w.moments m).database)

/-- What a call gives that reads its page at the moment `p` and the greatest id at `m`. -/
structure IsTurn (w : World) (s : Scope) (predicate : Option String) (key : Key)
    (after limit : Int) (rows : List Row) (page : Page) (p m : ℕ) : Prop where
  rows_eq : rows = s.pageRows w.meaning predicate (w.moments p).database after limit
  shown : page.rows = rows.map s.shown
  token_nil : rows = [] → page.token = ""
  token_last : ∀ row ∈ rows.getLast?,
    if row.id < maxOf (s.matching w.meaning predicate (w.moments m).database) then
      IsToken w key row.id page.token
    else page.token = ""

/-- Both moments lie between two points of a session, which has kept them. -/
structure Between (c c' : Session) (p m : ℕ) : Prop where
  start : c.moment ≤ p
  order : p ≤ m
  stop : m < c'.moment
  mem : p ∈ c'.reads ∧ m ∈ c'.reads

namespace World

variable {w : World} {c c' : Session} {s : Scope} {filter : Option Sql.Fragment}
  {after limit : Int}

/-- Both reads happen where the session sees the tables. -/
lemma readPage_eq_ok (h : ∀ f ∈ filter, IsClause f) (hlimit : 0 ≤ limit)
    {found : List (Int × String)} {greatest : Int}
    (hrun : w.run (readPage s (filter.map sqlOf) after limit) c = (.ok (found, greatest), c')) :
    ∃ rows, rows = s.pageRows w.meaning (filter.map sqlOf) (w.moments c.seen).database after limit
      ∧ found = rows.map (fun row => (row.id, s.shown row))
      ∧ (rows = [] ∧ c' = c.read ∨ rows ≠ [] ∧ c' = c.read.read
        ∧ greatest = maxOf (s.matching w.meaning (filter.map sqlOf)
            (w.moments c.read.seen).database)) := by
  refine ⟨_, rfl, ?_⟩
  obtain ⟨found', c₁, hpage, hrest⟩ := run_bind_eq_ok.mp hrun
  rw [run_fetchPage h hlimit] at hpage
  cases hf : (w.moments c.moment).fault with
  | some f => simp [hf] at hpage
  | none =>
    simp only [hf, Prod.mk.injEq, Except.ok.injEq] at hpage
    obtain ⟨rfl, rfl⟩ := hpage
    split at hrest
    · rename_i hempty
      simp only [run_pure, Prod.mk.injEq, Except.ok.injEq] at hrest
      obtain ⟨⟨rfl, -⟩, rfl⟩ := hrest
      exact ⟨rfl, .inl ⟨by simpa using hempty, rfl⟩⟩
    · rename_i hempty
      obtain ⟨greatest', c₂, hmax, hrest⟩ := run_bind_eq_ok.mp hrest
      simp only [run_pure, Prod.mk.injEq, Except.ok.injEq] at hrest
      obtain ⟨⟨rfl, rfl⟩, rfl⟩ := hrest
      rw [run_fetchMax h] at hmax
      cases hf' : (w.moments c.read.moment).fault with
      | some f =>
        rw [hf'] at hmax
        simp at hmax
      | none =>
        rw [hf'] at hmax
        simp only [Prod.mk.injEq, Except.ok.injEq] at hmax
        exact ⟨rfl, .inr ⟨by simpa using hempty, hmax.2.symm, hmax.1.symm⟩⟩

lemma discard_execute_eq_ok {st : Statement} {failure : Failure → Error} {u : PUnit}
    (h : w.run (discard (execute st failure)) c = (.ok u, c')) :
    ∃ a, w.reply st c = (.answered a, c') := by
  rw [run_discard_execute] at h
  rcases hr : w.reply st c with ⟨a | _ | _, c₁⟩
  · simp only [hr, Prod.mk.injEq] at h
    exact ⟨a, by rw [h.2]⟩
  · simp [hr] at h
  · simp [hr] at h

/-- How the statements of a transaction change the session. -/
lemma reply_transaction {st : Statement} {a : Answer} (h : w.reply st c = (.answered a, c')) :
    (st = .begin → c' = c.next) ∧ (st = .snapshot → c' = c.turn .unpinned)
      ∧ (st = .commit → c' = c.turn .current) := by
  unfold reply at h
  cases hf : (w.moments c.moment).fault with
  | some f => cases f <;> simp [hf, Fault.reply] at h
  | none =>
    refine ⟨?_, ?_, ?_⟩ <;> rintro rfl <;> simp only [hf, Prod.mk.injEq] at h <;> exact h.2.symm

/-- In a transaction of one state, both reads happen at the first of them. -/
lemma readSnapshot_eq_ok (h : ∀ f ∈ filter, IsClause f) (hlimit : 0 ≤ limit)
    {found : List (Int × String)} {greatest : Int}
    (hrun : w.run (readSnapshot s (filter.map sqlOf) after limit) c
      = (.ok (found, greatest), c')) :
    ∃ rows p m, found = rows.map (fun row => (row.id, s.shown row))
      ∧ IsReading w s (filter.map sqlOf) after limit rows greatest p m ∧ Between c c' p m := by
  obtain ⟨_, c₁, hbegin, hrun⟩ := run_bind_eq_ok.mp hrun
  obtain ⟨_, c₂, hset, hrun⟩ := run_bind_eq_ok.mp hrun
  obtain ⟨⟨found', greatest'⟩, c₃, hread, hrun⟩ := run_bind_eq_ok.mp hrun
  obtain ⟨_, c₄, hcommit, hrun⟩ := run_bind_eq_ok.mp hrun
  simp only [run_pure, Prod.mk.injEq, Except.ok.injEq] at hrun
  obtain ⟨⟨rfl, rfl⟩, rfl⟩ := hrun
  obtain ⟨_, hbegin⟩ := discard_execute_eq_ok hbegin
  obtain ⟨_, hset⟩ := discard_execute_eq_ok hset
  obtain ⟨_, hcommit⟩ := discard_execute_eq_ok hcommit
  obtain rfl := (reply_transaction hbegin).1 rfl
  obtain rfl := (reply_transaction hset).2.1 rfl
  obtain rfl := (reply_transaction hcommit).2.2 rfl
  obtain ⟨rows, hrows, hfound, hcases⟩ := readPage_eq_ok h hlimit hread
  -- the first read pins the state, so the second one sees the same
  have hseen : (c.next.turn .unpinned).seen = c.moment + 2
      ∧ (c.next.turn .unpinned).read.seen = c.moment + 2 := ⟨rfl, rfl⟩
  rw [hseen.1] at hrows
  rcases hcases with ⟨hnil, rfl⟩ | ⟨hne, rfl, hgreatest⟩
  · exact ⟨rows, _, c.moment + 2, hfound, ⟨hrows, fun hne => absurd hnil hne⟩,
      ⟨by omega, le_rfl, by simp, by simp [hseen]⟩⟩
  · rw [hseen.2] at hgreatest
    exact ⟨rows, _, _, hfound, ⟨hrows, fun _ => hgreatest⟩,
      ⟨by omega, le_rfl, by simp, by simp [hseen]⟩⟩

/-- Outside of transactions each read has a state of its own. -/
lemma readPage_current_eq_ok (hview : c.view = .current) (h : ∀ f ∈ filter, IsClause f)
    (hlimit : 0 ≤ limit) {found : List (Int × String)} {greatest : Int}
    (hrun : w.run (readPage s (filter.map sqlOf) after limit) c = (.ok (found, greatest), c')) :
    ∃ rows p m, found = rows.map (fun row => (row.id, s.shown row))
      ∧ IsReading w s (filter.map sqlOf) after limit rows greatest p m ∧ Between c c' p m := by
  have hseen : c.seen = c.moment ∧ c.read.seen = c.moment + 1 := by
    simp [Session.seen, Session.read, hview]
  obtain ⟨rows, hrows, hfound, hcases⟩ := readPage_eq_ok h hlimit hrun
  rw [hseen.1] at hrows
  rcases hcases with ⟨hnil, rfl⟩ | ⟨hne, rfl, hgreatest⟩
  · exact ⟨rows, _, c.moment, hfound, ⟨hrows, fun hne => absurd hnil hne⟩,
      ⟨le_rfl, le_rfl, by simp, by simp [hseen]⟩⟩
  · rw [hseen.2] at hgreatest
    exact ⟨rows, _, _, hfound, ⟨hrows, fun _ => hgreatest⟩,
      ⟨le_rfl, Nat.le_succ _, by simp, by simp [hseen]⟩⟩

/-! ### Tokens -/

lemma nextToken_eq (store : Store) (s : Scope) {id : Int} (hid : 0 ≤ id) (c : Session) :
    ∃ token, w.run (store.nextToken s id) c = (.ok token, c.next.next)
      ∧ IsToken w store.cursor.primary id token := by
  refine ⟨_, ?_, c.moment, (w.moments c.next.moment).block, hid, rfl⟩
  have hclock : w.run (ask .clock) c = (.ok (w.moments c.moment).time, c.next) := rfl
  have hblock : w.run (ask .randomBlock) c.next
      = (.ok (w.moments c.next.moment).block, c.next.next) := rfl
  rw [nextToken, run_bind, hclock]
  simp only
  rw [run_bind, hblock]
  simp only [Cursor.encode, if_neg (not_lt.mpr hid), run_pure]

/-! ### Calls -/

lemma one_le_pageSize (o : Options) (size : Int) : 1 ≤ o.pageSize size := by
  unfold Options.pageSize
  split
  · exact le_max_left _ _
  · split
    · exact le_max_left _ _
    · omega

/-- The part of a listing that needs the database. -/
lemma reads_eq_ok {store : Store} (hview : c.view = .current) (h : ∀ f ∈ filter, IsClause f)
    (hlimit : 0 ≤ limit) {found : List (Int × String)} {greatest : Int}
    (hrun : w.run (guarded ((if store.options.snapshotListing then readSnapshot else readPage) s
      (filter.map sqlOf) after limit)) c = (.ok (found, greatest), c')) :
    ∃ rows p m, found = rows.map (fun row => (row.id, s.shown row))
      ∧ IsReading w s (filter.map sqlOf) after limit rows greatest p m ∧ Between c c' p m := by
  rw [run_guarded] at hrun
  cases hs : (w.moments c.moment).status with
  | some i => simp [hs] at hrun
  | none =>
    simp only [hs] at hrun
    have hnext : ∃ rows p m, found = rows.map (fun row => (row.id, s.shown row))
        ∧ IsReading w s (filter.map sqlOf) after limit rows greatest p m
        ∧ Between c.next c' p m := by
      split at hrun
      · exact readSnapshot_eq_ok h hlimit hrun
      · exact readPage_current_eq_ok (c := c.next) hview h hlimit hrun
    obtain ⟨rows, p, m, hfound, hreading, hb⟩ := hnext
    exact ⟨rows, p, m, hfound, hreading, (Nat.le_succ _).trans hb.start, hb.order, hb.stop, hb.mem⟩

/-- A call that succeeds makes one turn. -/
theorem list_eq_ok {store : Store} {text token : String} {size : Int} {page : Page}
    (hview : c.view = .current) (h : ∀ f ∈ filter, IsClause f)
    (hp : store.predicate? s.anchor text = .ok (filter.map sqlOf))
    (hrun : w.run (store.list s text token size) c = (.ok page, c')) :
    ∃ rows p m, Between c c' p m
      ∧ IsTurn w s (filter.map sqlOf) store.cursor.primary
        (store.cursor.decode (w.moments c.moment).time.unixSeconds 0 token)
        (store.options.pageSize size) rows page p m := by
  rw [list, hp, fromExcept_ok_bind] at hrun
  obtain ⟨now, c₁, hclock, hrun⟩ := run_bind_eq_ok.mp hrun
  have hclock' : ((.ok (w.moments c.moment).time, c.next) : Except Error Time × Session)
    = (.ok now, c₁) := hclock
  obtain ⟨hok, rfl⟩ := Prod.mk.inj hclock'
  obtain rfl := Except.ok.inj hok
  obtain ⟨⟨found, greatest⟩, c₂, hread, hrun⟩ := run_bind_eq_ok.mp hrun
  have hlimit : 0 ≤ store.options.pageSize size :=
    le_trans (by decide) (one_le_pageSize store.options size)
  obtain ⟨rows, p, m, rfl, hreading, hb⟩ := reads_eq_ok (c := c.next) hview h hlimit hread
  refine ⟨rows, p, m, ?_⟩
  have hbetween : Between c c₂ p m :=
    ⟨(Nat.le_succ _).trans hb.start, hb.order, hb.stop, hb.mem⟩
  simp only at hrun
  rcases List.eq_nil_or_concat rows with rfl | ⟨init, last, rfl⟩
  · simp only [List.map_nil, List.getLast?_nil, run_pure, Prod.mk.injEq, Except.ok.injEq] at hrun
    obtain ⟨rfl, rfl⟩ := hrun
    exact ⟨hbetween, hreading.rows_eq, rfl, fun _ => rfl, by simp⟩
  · have hgreatest := hreading.greatest_eq (by simp)
    have hpos : 0 ≤ last.id := by
      have hmem : last ∈ init.concat last := by simp
      rw [hreading.rows_eq] at hmem
      exact (Scope.id_bounds (Scope.mem_pageRows hmem).1).1.le
    simp only [List.concat_eq_append, List.map_append, List.map_cons, List.map_nil,
      List.getLast?_append, List.getLast?_singleton, Option.some_or] at hrun
    split at hrun
    · rename_i hlt
      obtain ⟨token', htoken, hsealed⟩ := nextToken_eq (w := w) store s hpos c₂
      rw [run_bind, htoken] at hrun
      simp only [run_pure, Prod.mk.injEq, Except.ok.injEq] at hrun
      obtain ⟨rfl, rfl⟩ := hrun
      refine ⟨⟨hbetween.start, hbetween.order, hbetween.stop.trans_le (Nat.le_add_right _ 2),
        hbetween.mem⟩,
        hreading.rows_eq, by simp, by simp, ?_⟩
      intro row hrow
      obtain rfl : last = row := by simpa using hrow
      rw [if_pos (hgreatest ▸ hlt)]
      exact hsealed
    · rename_i hlt
      simp only [run_bind, run_pure, Prod.mk.injEq, Except.ok.injEq] at hrun
      obtain ⟨rfl, rfl⟩ := hrun
      refine ⟨hbetween, hreading.rows_eq, by simp, by simp, ?_⟩
      intro row hrow
      obtain rfl : last = row := by simpa using hrow
      rw [if_neg (hgreatest ▸ hlt)]

end World

end Catalog.Store
