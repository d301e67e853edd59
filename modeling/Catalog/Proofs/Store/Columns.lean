import Catalog.Proofs.Store.Keeping
import Catalog.Proofs.Store.Simulation

/-!
What the columns of a row say of the record in its payload. Listings look at the columns and trust
the name in the payload, while a record that is got by its key is named after the key: they agree
because every statement that writes a row writes both.
-/

namespace Catalog.Store

open Catalog.Json Operation Record

/-! ### Rows -/

/-- The payload is a note with the name that the columns say. -/
structure IsNoteRow (e : Engine) (row : Row) : Prop where
  takes : e.takes (row.column "project_id") ∧ e.takes (row.column "note_id")
  named : ∃ n, IsNoteOf (row.column "project_id") (row.column "note_id") (row.column "data") n

/-- The payload is an occurrence with the name that the columns say, and of the note that they
say. -/
structure IsOccurrenceRow (e : Engine) (row : Row) : Prop where
  takes : e.takes (row.column "project_id") ∧ e.takes (row.column "occurrence_id")
  named : ∃ o,
    IsOccurrenceOf (row.column "project_id") (row.column "occurrence_id") (row.column "data") o
      ∧ Name.parseChild .note o.noteName
        = .ok (row.column "note_project_id", row.column "note_id")

/-- The columns of a row agree with its payload, if it has one. -/
structure Row.Agrees (e : Engine) (table : String) (row : Row) : Prop where
  note : table = "notes" → IsNoteRow e row
  occurrence : table = "occurrences" → IsOccurrenceRow e row

section

variable {e : Engine} {row : Row}

lemma agrees_note (h : IsNoteRow e row) : row.Agrees e "notes" := ⟨fun _ => h, by simp⟩

lemma agrees_occurrence (h : IsOccurrenceRow e row) : row.Agrees e "occurrences" :=
  ⟨by simp, fun _ => h⟩

lemma agrees_project : row.Agrees e "projects" := ⟨by simp, by simp⟩

end

/-- The invariant of the tables. -/
abbrev Agreeing (e : Engine) : Tables e → Prop := Tables.All (Row.Agrees e)

/-! ### Cells -/

namespace Engine

variable {e : Engine} {l : Layout} {cells : List (String × Cell)} {values : List (String × String)}
  {column s : String} {c : Cell}

lemma values?_cons_eq_some_iff : e.values? l ((column, c) :: cells) = some values
    ↔ ∃ s rest, e.value? l column c = some s ∧ e.values? l cells = some rest
      ∧ values = (column, s) :: rest := by
  simp only [values?, List.mapM_cons, Option.bind_eq_bind, Option.bind_eq_some_iff,
    Option.map_eq_some_iff, Option.pure_def, Option.some.injEq]
  constructor
  · rintro ⟨_, ⟨s, hs, rfl⟩, rest, hrest, rfl⟩
    exact ⟨s, rest, hs, hrest, rfl⟩
  · rintro ⟨s, rest, hs, hrest, rfl⟩
    exact ⟨_, ⟨s, hs, rfl⟩, rest, hrest, rfl⟩

lemma map_fst_values? (h : e.values? l cells = some values) :
    values.map Prod.fst = cells.map Prod.fst := by
  induction cells generalizing values with
  | nil =>
    obtain rfl : [] = values := Option.some.inj h
    rfl
  | cons cell cells ih =>
    obtain ⟨s, rest, -, hrest, rfl⟩ := values?_cons_eq_some_iff.mp h
    rw [List.map_cons, List.map_cons, ih hrest]

/-- Every cell is stored in its column. -/
lemma lookup_values? (h : e.values? l cells = some values) (hcell : cells.lookup column = some c) :
    ∃ s, e.value? l column c = some s ∧ values.lookup column = some s := by
  induction cells generalizing values with
  | nil => simp at hcell
  | cons cell cells ih =>
    obtain ⟨s, rest, hs, hrest, rfl⟩ := values?_cons_eq_some_iff.mp h
    rw [List.lookup_cons] at hcell ⊢
    split at hcell
    · rename_i heq
      obtain rfl : column = cell.1 := by simpa using heq
      exact ⟨s, Option.some.inj hcell ▸ hs, by simp⟩
    · rename_i hne
      simpa only [hne] using ih hrest hcell

/-- A text is stored as it is. -/
lemma column_text (h : e.values? l cells = some values)
    (hcell : cells.lookup column = some (.text s)) (row : Row) :
    (row.set values).column column = s := by
  obtain ⟨s', hvalue, hlookup⟩ := lookup_values? h hcell
  rw [value?] at hvalue
  split at hvalue
  · simp only [Row.set, hlookup, Option.getD_some, Option.some.inj hvalue]
  · cases hvalue

/-- What is stored as JSON was taken for JSON. -/
lemma exists_column_json (h : e.values? l cells = some values) (column s : String)
    (hcell : cells.lookup column = some (.json s)) :
    ∃ kept, e.jsonb s = some kept ∧ ∀ row : Row, (row.set values).column column = kept := by
  obtain ⟨kept, hvalue, hlookup⟩ := lookup_values? h hcell
  rw [value?] at hvalue
  split at hvalue
  · exact ⟨kept, hvalue, fun row => by simp only [Row.set, hlookup, Option.getD_some]⟩
  · cases hvalue

/-- A column without a cell keeps its value. -/
lemma column_keep (h : e.values? l cells = some values) (column : String)
    (hcell : column ∉ cells.map Prod.fst) (row : Row) :
    (row.set values).column column = row.column column :=
  Row.column_set (map_fst_values? h ▸ hcell) row

end Engine

/-! ### Statements -/

namespace Service

variable {v : Service} {p i q m : String} {n : Note} {o : Occurrence}

lemma respects_insertNote (hn : IsRecoverable n)
    (hname : n.name = Name.note p i) :
    v.Respects (Agreeing v.engine) (.insertNote p i n.payload) := by
  refine respects_insert (Statement.command?_insertNote p i n.payload)
    fun htakes values id hvalues => agrees_note ?_
  have htakes : v.engine.takes p ∧ v.engine.takes i ∧ v.engine.takes n.payload := by
    simpa [Statement.arguments, Engine.takesValue] using htakes
  obtain ⟨kept, hkept, hdata⟩ := Engine.exists_column_json hvalues "data" n.payload rfl
  have hp : (Row.ofValues id values).column "project_id" = p := Engine.column_text hvalues rfl _
  have hi : (Row.ofValues id values).column "note_id" = i := Engine.column_text hvalues rfl _
  constructor
  · rw [hp, hi]
    exact ⟨htakes.1, htakes.2.1⟩
  · rw [hp, hi, Row.ofValues, hdata]
    exact ⟨n, Engine.ofText?_jsonb hn hkept, hname⟩

lemma respects_updateNote (hn : IsRecoverable n)
    (hname : n.name = Name.note p i) :
    v.Respects (Agreeing v.engine) (.updateNote p i n.payload) := by
  refine respects_update (Statement.command?_updateNote p i n.payload)
    fun values row hvalues hrow hhas => agrees_note ?_
  obtain ⟨kept, hkept, hdata⟩ := Engine.exists_column_json hvalues "data" n.payload rfl
  have hkeys : row.column "project_id" = p ∧ row.column "note_id" = i := by
    simpa [Row.has_iff] using hhas
  obtain ⟨rfl, rfl⟩ := hkeys
  have hp := Engine.column_keep hvalues "project_id" (by simp) row
  have hi := Engine.column_keep hvalues "note_id" (by simp) row
  constructor
  · rw [hp, hi]
    exact (hrow.note rfl).takes
  · rw [hp, hi, hdata]
    exact ⟨n, Engine.ofText?_jsonb hn hkept, hname⟩

lemma respects_insertOccurrence (ho : IsRecoverable o)
    (hname : o.name = Name.occurrence p i) (hreference : noteReference o = .ok (q, m)) :
    v.Respects (Agreeing v.engine) (.insertOccurrence p i q m o.payload) := by
  refine respects_insert (Statement.command?_insertOccurrence p i q m o.payload)
    fun htakes values id hvalues => agrees_occurrence ?_
  have htakes : v.engine.takes p ∧ v.engine.takes i ∧ v.engine.takes q ∧ v.engine.takes m
      ∧ v.engine.takes o.payload := by
    simpa [Statement.arguments, Engine.takesValue] using htakes
  obtain ⟨kept, hkept, hdata⟩ := Engine.exists_column_json hvalues "data" o.payload rfl
  have hp : (Row.ofValues id values).column "project_id" = p := Engine.column_text hvalues rfl _
  have hi : (Row.ofValues id values).column "occurrence_id" = i :=
    Engine.column_text hvalues rfl _
  have hq : (Row.ofValues id values).column "note_project_id" = q :=
    Engine.column_text hvalues rfl _
  have hm : (Row.ofValues id values).column "note_id" = m := Engine.column_text hvalues rfl _
  constructor
  · rw [hp, hi]
    exact ⟨htakes.1, htakes.2.1⟩
  · rw [hp, hi, hq, hm, Row.ofValues, hdata]
    exact ⟨o, ⟨Engine.ofText?_jsonb ho hkept, hname⟩,
      noteReference_eq_ok_iff.mp hreference⟩

lemma respects_updateOccurrence (ho : IsRecoverable o)
    (hname : o.name = Name.occurrence p i) (hreference : noteReference o = .ok (q, m)) :
    v.Respects (Agreeing v.engine) (.updateOccurrence p i q m o.payload) := by
  refine respects_update (Statement.command?_updateOccurrence p i q m o.payload)
    fun values row hvalues hrow hhas => agrees_occurrence ?_
  obtain ⟨kept, hkept, hdata⟩ := Engine.exists_column_json hvalues "data" o.payload rfl
  have hkeys : row.column "project_id" = p ∧ row.column "occurrence_id" = i := by
    simpa [Row.has_iff] using hhas
  obtain ⟨rfl, rfl⟩ := hkeys
  have hp := Engine.column_keep hvalues "project_id" (by simp) row
  have hi := Engine.column_keep hvalues "occurrence_id" (by simp) row
  have hq : (row.set values).column "note_project_id" = q := Engine.column_text hvalues rfl _
  have hm : (row.set values).column "note_id" = m := Engine.column_text hvalues rfl _
  constructor
  · rw [hp, hi]
    exact (hrow.occurrence rfl).takes
  · rw [hp, hi, hq, hm, hdata]
    exact ⟨o, ⟨Engine.ofText?_jsonb ho hkept, hname⟩,
      noteReference_eq_ok_iff.mp hreference⟩

end Service

end Catalog.Store
