import Catalog.Proofs.Store.Still

/-!
What a listing gives is what a client gets by the keys of the rows. A listing trusts the names in
the payloads, and a record that is got has the name of its key; the columns say that these are the
same.
-/

namespace Catalog.Store

open Catalog.Sql Operation Record

/-! ### Texts that are read -/

section

variable {α : Type} {read : String → Option α}

/-- Where the payloads of all rows can be read, they are. -/
lemma mapM_payloads {rows : List Row} (h : ∀ row ∈ rows, ∃ a, read (row.column "data") = some a)
    (error : Error) : ((rows.map (·.column "data")).mapM fun text =>
        (read text).elim (Except.error error) Except.ok)
      = .ok (rows.filterMap fun row => read (row.column "data")) := by
  induction rows with
  | nil => rfl
  | cons row rows ih =>
    obtain ⟨⟨a, ha⟩, hrest⟩ := List.forall_mem_cons.mp h
    rw [List.map_cons, List.mapM_cons, ih hrest, List.filterMap_cons, ha]
    rfl

lemma forall₂_filterMap {β : Type} {f : β → Option α} {R : β → α → Prop} {bs : List β}
    (h : ∀ b ∈ bs, ∃ a, f b = some a ∧ R b a) : List.Forall₂ R bs (bs.filterMap f) := by
  induction bs with
  | nil => exact .nil
  | cons b bs ih =>
    obtain ⟨⟨a, ha, hR⟩, hrest⟩ := List.forall_mem_cons.mp h
    rw [List.filterMap_cons, ha]
    exact .cons hR (ih hrest)

end

/-- The note in a row. -/
def Row.note? (row : Row) : Option Note := Note.ofPayload? (row.column "data")

/-- The occurrence in a row. -/
def Row.occurrence? (row : Row) : Option Occurrence := Occurrence.ofPayload? (row.column "data")

/-! ### Rows and their keys -/

/-- Where keys are unique, a row is found by its key. -/
lemma Stock.find?_of_mem {e : Engine} {l : Layout} {s : Stock e l} {row : Row}
    {keys : List (String × String)} (hl : l.keys = [["id"], keys.map Prod.fst])
    (hne : "id" ∉ keys.map Prod.fst) (hrow : row ∈ s.rows) (hhas : row.has keys = true) :
    s.find? keys = some row := by
  have hunique : (s.rows.map fun row => row.keyed (keys.map Prod.fst)).Nodup :=
    s.permitted _ (by simp [hl])
  cases hfind : s.find? keys with
  | none =>
    rw [find?, List.find?_eq_none] at hfind
    exact absurd hhas (hfind row hrow)
  | some found =>
    have hmem : found ∈ s.rows := List.mem_of_find?_eq_some hfind
    have hkeyed := (Row.keyed_eq_keyed_iff hne hhas).mpr (has_of_find? hfind)
    rw [List.inj_on_of_nodup_map hunique hmem hrow hkeyed]

namespace Tables

variable {e : Engine} {t : Tables e} {table : String} {keys : List (String × String)} {row : Row}

lemma payload?_of_mem (hkey : IsKey table keys) (hrow : row ∈ (t table).rows)
    (hhas : row.has keys = true) : t.payload? table keys = some (row.column "data") := by
  rw [payload?, Stock.find?_of_mem hkey.keys_eq hkey.id_not_mem hrow hhas, Option.map_some]

lemma payload?_eq_none (h : ∀ row ∈ (t table).rows, row.has keys = false) :
    t.payload? table keys = none := by
  rw [payload?, Stock.find?, List.find?_eq_none.mpr fun row hrow => by simp [h row hrow],
    Option.map_none]

end Tables

/-- The rows of a page are rows of the table. -/
lemma IsTurn.mem_rows {w : World} {s : Scope} {predicate : Option String} {key : Paging.Key}
    {after limit : Int} {rows : List Row} {page : Page} {p m : ℕ}
    (h : IsTurn w s predicate key after limit rows page p m) :
    ∀ row ∈ rows, row ∈ ((w.moments p).database s.table).rows :=
  fun _ hrow => (List.mem_filter.mp (Scope.mem_pageRows (h.rows_eq ▸ hrow)).1).1

namespace Service

variable {v : Service} {c : Situation v.engine} {row : Row} {n : Note} {o : Occurrence}

/-- The note in a row is the one that is got by the key of the row. -/
lemma Calm.getNote_of_mem (hv : v.Calm) (hrow : row ∈ (c.tables "notes").rows)
    (htakes : v.engine.takes (row.column "project_id") ∧ v.engine.takes (row.column "note_id"))
    (hnamed : IsNoteOf (row.column "project_id") (row.column "note_id") (row.column "data") n) :
    (v.run (Store.getNote (row.column "project_id") (row.column "note_id")) c).1 = .ok n := by
  obtain ⟨c', -, hrun⟩ := hv.getNote (by simpa using htakes) c
  rw [hrun, Tables.payload?_of_mem (Tables.isKey_notes _ _) hrow (by simp [noteKeys, Row.has]),
    Option.elim_some, noteOfPayload_eq hnamed]

lemma Calm.getOccurrence_of_mem (hv : v.Calm) (hrow : row ∈ (c.tables "occurrences").rows)
    (htakes : v.engine.takes (row.column "project_id")
      ∧ v.engine.takes (row.column "occurrence_id"))
    (hnamed : IsOccurrenceOf (row.column "project_id") (row.column "occurrence_id")
      (row.column "data") o) :
    (v.run (Store.getOccurrence (row.column "project_id") (row.column "occurrence_id")) c).1
      = .ok o := by
  obtain ⟨c', -, hrun⟩ := hv.getOccurrence (by simpa using htakes) c
  rw [hrun, Tables.payload?_of_mem (Tables.isKey_occurrences _ _) hrow
    (by simp [occurrenceKeys, Row.has]), Option.elim_some, occurrenceOfPayload_eq hnamed]

/-! ### Pages of records -/

variable {store : Store} {s : Scope} {text : String} {predicate : Option String}

/-- A page of notes holds the notes in its rows, and each is got by the key of its row. -/
lemma Calm.listNotes (hv : v.Calm) (ht : Agreeing v.engine c.tables) {project : String}
    (hp : store.predicate? Filter.payloadAnchor text = .ok predicate)
    (htakes : v.engine.takes project) (token : String) (size : Int) :
    ∃ notes next c', v.run (store.listNotes project text token size) c = (.ok (notes, next), c')
      ∧ c'.tables = c.tables
      ∧ List.Forall₂ (fun row n =>
          (v.run (Store.getNote (row.column "project_id") (row.column "note_id")) c).1 = .ok n)
        ((Scope.notes project).pageRows v.meaning predicate c.tables.database
          (store.cursor.decode (v.occasions c.moment).time.unixSeconds 0 token)
          (store.options.pageSize size)) notes := by
  obtain ⟨rows, page, c', p, m, hrun, htables, -, hturn⟩ :=
    hv.list (s := .notes project) hp (by simpa [Scope.keys] using htakes) token size c
  have hnamed : ∀ row ∈ rows, row ∈ (c.tables "notes").rows ∧ IsNoteRow v.engine row :=
    fun row hrow => ⟨hturn.mem_rows row hrow, (ht _ row (hturn.mem_rows row hrow)).note rfl⟩
  have hread : page.rows.mapM noteOfPayload = .ok (rows.filterMap Row.note?) := by
    rw [hturn.shown]
    refine mapM_payloads (fun row hrow => ?_) _
    obtain ⟨n, hn, -⟩ := (hnamed row hrow).2.named
    exact ⟨n, hn⟩
  have hrows : rows = (Scope.notes project).pageRows v.meaning predicate c.tables.database
      (store.cursor.decode (v.occasions c.moment).time.unixSeconds 0 token)
      (store.options.pageSize size) := hturn.rows_eq
  refine ⟨rows.filterMap Row.note?, page.token, c', ?_, htables, ?_⟩
  · rw [Store.listNotes, run_bind, hrun]
    simp only [run_bind, run_fromExcept, hread, run_pure]
  · rw [← hrows]
    refine forall₂_filterMap fun row hrow => ?_
    obtain ⟨hmem, htakes, n, hn⟩ := hnamed row hrow
    exact ⟨n, hn.1, hv.getNote_of_mem hmem htakes hn⟩

/-- A page of occurrences holds the occurrences in its rows. -/
lemma Calm.listOccurrencesIn (hv : v.Calm) (ht : Agreeing v.engine c.tables)
    (hs : s.table = "occurrences") (hp : store.predicate? s.anchor text = .ok predicate)
    (htakes : ∀ key ∈ s.keys, v.engine.takes key.2) (token : String) (size : Int) :
    ∃ rows page c' p m, v.run (store.listOccurrencesIn s text token size) c
        = (.ok (rows.filterMap Row.occurrence?, page.token), c')
      ∧ c'.tables = c.tables ∧ c.moment < c'.moment
      ∧ IsTurn (v.world c.tables c'.moment) s predicate store.cursor.primary
        (store.cursor.decode (v.occasions c.moment).time.unixSeconds 0 token)
        (store.options.pageSize size) rows page p m := by
  obtain ⟨rows, page, c', p, m, hrun, htables, hmoment, hturn⟩ := hv.list hp htakes token size c
  have hshown : rows.map s.shown = rows.map (·.column "data") := by
    cases s <;> first | rfl | simp [Scope.table] at hs
  have hread : page.rows.mapM occurrenceOfPayload = .ok (rows.filterMap Row.occurrence?) := by
    rw [hturn.shown, hshown]
    refine mapM_payloads (fun row hrow => ?_) _
    obtain ⟨o, ho, -⟩ := ((ht _ row (hturn.mem_rows row hrow)).occurrence hs).named
    exact ⟨o, ho.1⟩
  refine ⟨rows, page, c', p, m, ?_, htables, hmoment, hturn⟩
  rw [Store.listOccurrencesIn, run_bind, hrun]
  simp only [run_bind, run_fromExcept, hread, run_pure]

/-- Each occurrence of a page is got by the key of its row. -/
lemma Calm.listOccurrences (hv : v.Calm) (ht : Agreeing v.engine c.tables) {project : String}
    (hp : store.predicate? Filter.payloadAnchor text = .ok predicate)
    (htakes : v.engine.takes project) (token : String) (size : Int) :
    ∃ os next c', v.run (store.listOccurrences project text token size) c = (.ok (os, next), c')
      ∧ c'.tables = c.tables
      ∧ List.Forall₂ (fun row o => (v.run
            (Store.getOccurrence (row.column "project_id") (row.column "occurrence_id")) c).1
          = .ok o)
        ((Scope.occurrences project).pageRows v.meaning predicate c.tables.database
          (store.cursor.decode (v.occasions c.moment).time.unixSeconds 0 token)
          (store.options.pageSize size)) os := by
  obtain ⟨rows, page, c', p, m, hrun, htables, -, hturn⟩ :=
    hv.listOccurrencesIn (s := .occurrences project) ht rfl hp
      (by simpa [Scope.keys] using htakes) token size
  have hrows : rows = (Scope.occurrences project).pageRows v.meaning predicate c.tables.database
      (store.cursor.decode (v.occasions c.moment).time.unixSeconds 0 token)
      (store.options.pageSize size) := hturn.rows_eq
  refine ⟨rows.filterMap Row.occurrence?, page.token, c', hrun, htables, ?_⟩
  rw [← hrows]
  refine forall₂_filterMap fun row hrow => ?_
  have hmem : row ∈ (c.tables "occurrences").rows := hturn.mem_rows row hrow
  obtain ⟨htakes, o, ho, -⟩ := (ht _ row hmem).occurrence rfl
  exact ⟨o, ho.1, hv.getOccurrence_of_mem hmem htakes ho⟩

end Service

end Catalog.Store
