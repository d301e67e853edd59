import Catalog.Proofs.Store.Effect
import Catalog.Proofs.Store.Service
import Catalog.Store.Occurrence

/-!
What the operations on single records do where nothing goes wrong: each looks at the payload under
one key of one table, and changes no other.
-/

namespace Catalog.Store

open Operation Record

/-! ### Records as they are stored -/

/-- The note as it is stored when it is created. -/
def createdNote (project id : String) (now : Time) (n : Note) : Note :=
  { n with name := Name.note project id, createTime := some now }

/-- The note as it is stored when it replaces another. -/
def updatedNote (project id : String) (now : Time) (n : Note) : Note :=
  { n with name := Name.note project id, updateTime := some now }

/-- The occurrence as it is stored when it is created. -/
def createdOccurrence (project id : String) (now : Time) (o : Occurrence) : Occurrence :=
  { o with name := Name.occurrence project id, createTime := some now }

/-- The occurrence as it is stored when it replaces another. -/
def updatedOccurrence (project id : String) (now : Time) (o : Occurrence) : Occurrence :=
  { o with name := Name.occurrence project id, updateTime := some now }

lemma noteReference_eq_ok_iff {o : Occurrence} {project id : String} :
    noteReference o = .ok (project, id) ↔ Name.parseChild .note o.noteName = .ok (project, id) := by
  rw [noteReference]
  cases Name.parseChild .note o.noteName <;> simp [Except.mapError]

/-! ### Keys -/

def projectKeys (id : String) : List (String × String) := [("name", Name.project id)]

def noteKeys (project id : String) : List (String × String) :=
  [("project_id", project), ("note_id", id)]

def occurrenceKeys (project id : String) : List (String × String) :=
  [("project_id", project), ("occurrence_id", id)]

lemma layoutOf_projects :
    layoutOf "projects" = ⟨[("id", "BIGSERIAL"), ("name", "TEXT")], [["id"], ["name"]]⟩ := by
  rw [layoutOf, layouts_eq]
  rfl

lemma layoutOf_notes : layoutOf "notes" = ⟨[("id", "BIGSERIAL"), ("project_id", "TEXT"),
    ("note_id", "TEXT"), ("data", "JSONB")], [["id"], ["project_id", "note_id"]]⟩ := by
  rw [layoutOf, layouts_eq]
  rfl

lemma layoutOf_occurrences : layoutOf "occurrences" = ⟨[("id", "BIGSERIAL"),
    ("project_id", "TEXT"), ("occurrence_id", "TEXT"), ("note_project_id", "TEXT"),
    ("note_id", "TEXT"), ("data", "JSONB")], [["id"], ["project_id", "occurrence_id"]]⟩ := by
  rw [layoutOf, layouts_eq]
  rfl

namespace Tables

lemma isKey_projects (id : String) : IsKey "projects" (projectKeys id) :=
  ⟨by rw [layoutOf_projects]; rfl, by simp [projectKeys]⟩

lemma isKey_notes (project id : String) : IsKey "notes" (noteKeys project id) :=
  ⟨by rw [layoutOf_notes]; rfl, by simp [noteKeys]⟩

lemma isKey_occurrences (project id : String) :
    IsKey "occurrences" (occurrenceKeys project id) :=
  ⟨by rw [layoutOf_occurrences]; rfl, by simp [occurrenceKeys]⟩

end Tables

/-! ### Calm services -/

namespace Service

/-- Every statement is answered, and no call is given up. -/
def Calm (v : Service) : Prop :=
  ∀ k, (v.occasions k).status = none ∧ (v.occasions k).mishap = none

variable {v : Service} {α : Type} {c : Situation v.engine}

lemma Calm.run_guarded (hv : v.Calm) (body : Operation α) (c : Situation v.engine) :
    v.run (guarded body) c = v.run body (c.after c.tables) := by
  rw [Service.run_guarded, (hv c.moment).1]

lemma run_discard (op : Operation α) (c : Situation v.engine) :
    v.run (discard op) c = match v.run op c with
      | (.ok _, c') => (.ok ⟨⟩, c')
      | (.error e, c') => (.error e, c') := by
  rw [discard_eq, run_bind]
  rfl

/-- A statement about single rows does what it says, if its arguments are taken. -/
lemma Calm.reply (hv : v.Calm) {st : Statement} {command : Command Cell String}
    (hcommand : st.command? = some command) (htakes : st.arguments.all v.engine.takesValue)
    (c : Situation v.engine) :
    v.reply st c
      = ((c.tables.carryOut command).1, c.after (c.tables.carryOut command).2) := by
  rw [Service.reply, (hv c.moment).2, Tables.reply, if_pos htakes, hcommand]

/-- What a statement gives that touches rows. -/
lemma Calm.run_execute (hv : v.Calm) {st : Statement} {command : Command Cell String}
    (hcommand : st.command? = some command) (htakes : st.arguments.all v.engine.takesValue)
    (failure : Failure → Error) {r : Reply} {t' : Tables v.engine}
    (hcarry : c.tables.carryOut command = (r, t')) :
    ∃ c', c'.tables = t' ∧ (∀ count, r = .answered (.affected count) →
        v.run (guarded (execute st failure)) c = (.ok count, c'))
      ∧ (∀ f, r = .failed f →
        v.run (guarded (execute st failure)) c = (.error (failure f), c')) := by
  have hreply : v.reply st (c.after c.tables) = (r, (c.after c.tables).after t') := by
    rw [hv.reply hcommand htakes, Situation.tables_after, hcarry]
  refine ⟨(c.after c.tables).after t', rfl, ?_, ?_⟩
  · rintro count rfl
    rw [hv.run_guarded, execute, run_bind, run_send, hreply]
    rfl
  · rintro f rfl
    rw [hv.run_guarded, execute, run_bind, run_send, hreply]

/-- What a statement gives that finds rows. -/
lemma Calm.run_fetchFirst (hv : v.Calm) {st : Statement} {command : Command Cell String}
    (hcommand : st.command? = some command) (htakes : st.arguments.all v.engine.takesValue)
    (stage : Stage) (read : List Value → Option α) {rows : List (List Value)}
    (hcarry : c.tables.carryOut command = (.answered (.rows rows), c.tables)) :
    ∃ c', c'.tables = c.tables ∧ v.run (guarded (fetchFirst st stage read)) c
      = ((rows.head?.elim (.ok none) fun row =>
          (read row).elim (.error (.database stage)) (.ok ∘ some)), c') := by
  have hreply : v.reply st (c.after c.tables)
      = (.answered (.rows rows), (c.after c.tables).after c.tables) := by
    rw [hv.reply hcommand htakes, Situation.tables_after, hcarry]
  refine ⟨(c.after c.tables).after c.tables, rfl, ?_⟩
  rw [hv.run_guarded, fetchFirst, run_bind, run_send, hreply]
  cases rows <;> rfl

/-! ### Records under keys -/

variable {st : Statement} {table : String} {keys values : List (String × String)}
  {cells : List (String × Cell)}

/-- A creation fails if the key is taken, and then changes nothing. -/
lemma Calm.run_create (hv : v.Calm) (values : List (String × String))
    (hcommand : st.command? = some (.insert table cells))
    (htakes : st.arguments.all v.engine.takesValue) (hkey : Tables.IsKey table keys)
    (hvalues : v.engine.values? (layoutOf table) cells = some values)
    (hfilled : (layoutOf table).IsFilled (cells.map Prod.fst))
    (hhas : ∀ id, (Row.ofValues id values).has keys = true)
    (hid : (v.engine.serial (c.tables table).drawn).isSome) (kind : Entity) (name : String)
    (a : α) :
    ∃ c', v.run (discard (guarded (execute st (insertFailure kind name))) >>= fun _ => pure a) c
        = ((if (c.tables.payload? table keys).isSome then .error (.alreadyExists kind name)
            else .ok a), c')
      ∧ c.tables.Puts table keys
        (some ((c.tables.payload? table keys).getD ((values.lookup "data").getD "")))
        c'.tables := by
  cases hold : c.tables.payload? table keys with
  | none =>
    obtain ⟨t', hcarry, hputs⟩ :=
      Tables.carryOut_insert_of_free hkey hvalues hfilled hhas hid hold
    obtain ⟨c', rfl, hok, -⟩ := hv.run_execute hcommand htakes (insertFailure kind name) hcarry
    exact ⟨c', by rw [run_bind, run_discard, hok 1 rfl]; rfl, hputs⟩
  | some payload =>
    obtain ⟨t', hcarry, hputs⟩ :=
      Tables.carryOut_insert_of_taken hkey hvalues hfilled hhas hid (by simp [hold])
    obtain ⟨c', rfl, -, hfailed⟩ :=
      hv.run_execute hcommand htakes (insertFailure kind name) hcarry
    refine ⟨c', by rw [run_bind, run_discard, hfailed _ rfl, insertFailure, if_pos rfl]; rfl, ?_⟩
    rwa [hold] at hputs

lemma Calm.run_get (hv : v.Calm) (hcommand : st.command? = some (.search table "data" keys))
    (htakes : st.arguments.all v.engine.takesValue) (stage : Stage) (missing : Error)
    (read : String → Except Error α) (f : α → α) (c : Situation v.engine) :
    ∃ c', c'.tables = c.tables
      ∧ v.run (do
          match ← guarded (fetchFirst st stage readPayload?) with
          | none => throw missing
          | some payload =>
            let a ← fromExcept (read payload)
            return f a) c
        = ((c.tables.payload? table keys).elim (.error missing) fun payload =>
            (read payload).map f, c') := by
  obtain ⟨c', htables, hrun⟩ := hv.run_fetchFirst (c := c) hcommand htakes stage readPayload? rfl
  refine ⟨c', htables, ?_⟩
  rw [run_bind, hrun, Tables.payload?, Stock.find?, ← List.head?_filter, List.head?_map]
  cases ((c.tables table).rows.filter (·.has keys)).head? with
  | none => rfl
  | some row =>
    simp only [Option.map_some, Option.elim_some, readPayload?, Function.comp_apply, run_bind,
      run_fromExcept]
    cases read (row.column "data") <;> rfl

lemma Calm.run_replace (hv : v.Calm) (values : List (String × String))
    (hcommand : st.command? = some (.update table cells keys))
    (htakes : st.arguments.all v.engine.takesValue)
    (hvalues : v.engine.values? (layoutOf table) cells = some values)
    (hkeep : ∀ key ∈ (layoutOf table).keys, ∀ column ∈ key, column ∉ values.map Prod.fst)
    (hcolumns : ∀ column ∈ keys.map Prod.fst, column ∉ values.map Prod.fst)
    {payload : String} (hpayload : values.lookup "data" = some payload)
    (failure : Failure → Error) (missing : Error) (a : α) (c : Situation v.engine) :
    ∃ c', v.run (do
          let count ← guarded (execute st failure)
          if count = 0 then throw missing
          return a) c
        = ((if (c.tables.payload? table keys).isSome then .ok a else .error missing), c')
      ∧ c.tables.Puts table keys ((c.tables.payload? table keys).map fun _ => payload)
        c'.tables := by
  obtain ⟨count, t', hcarry, hcount, hputs⟩ :=
    Tables.carryOut_update (t := c.tables) hvalues hkeep hcolumns hpayload
  obtain ⟨c', rfl, hok, -⟩ := hv.run_execute hcommand htakes failure hcarry
  refine ⟨c', ?_, hputs⟩
  rw [run_bind, hok count rfl]
  simp only [hcount, Option.isSome_iff_ne_none, ne_eq, ite_not]
  split <;> rfl

lemma Calm.run_remove (hv : v.Calm) (hcommand : st.command? = some (.delete table keys))
    (htakes : st.arguments.all v.engine.takesValue) (failure : Failure → Error) (missing : Error)
    (c : Situation v.engine) :
    ∃ c', v.run (do
          let count ← guarded (execute st failure)
          if count = 0 then throw missing) c
        = ((if (c.tables.payload? table keys).isSome then .ok ⟨⟩ else .error missing), c')
      ∧ c.tables.Puts table keys none c'.tables := by
  obtain ⟨count, t', hcarry, hcount, hputs⟩ := c.tables.carryOut_delete table keys
  obtain ⟨c', rfl, hok, -⟩ := hv.run_execute hcommand htakes failure hcarry
  refine ⟨c', ?_, hputs⟩
  rw [run_bind, hok count rfl]
  simp only [hcount, Option.isSome_iff_ne_none, ne_eq, ite_not]
  split <;> rfl

/-! ### Projects -/

section

variable {id : String}

lemma Calm.createProject (hv : v.Calm) (hname : v.engine.takes (Name.project id))
    (c : Situation v.engine) (hid : (v.engine.serial (c.tables "projects").drawn).isSome)
    (p : Project) :
    ∃ c', v.run (createProject id p) c
        = ((if (c.tables.payload? "projects" (projectKeys id)).isSome then
            .error (.alreadyExists .project (Name.project id)) else .ok ⟨Name.project id⟩), c')
      ∧ c.tables.Puts "projects" (projectKeys id)
        (some ((c.tables.payload? "projects" (projectKeys id)).getD "")) c'.tables :=
  hv.run_create [("name", Name.project id)]
    (Statement.command?_insertProject (Name.project id))
    (by simpa [Statement.arguments, Engine.takesValue] using hname)
    (Tables.isKey_projects id)
    (by rw [layoutOf_projects]; simp [Engine.values?, Engine.value?, List.lookup_cons])
    (by rw [layoutOf_projects]; simp [Layout.IsFilled])
    (by simp [Row.has, Row.ofValues, Row.set, projectKeys, List.lookup_cons]) hid
    .project (Name.project id) _

lemma Calm.getProject (hv : v.Calm) (hname : v.engine.takes (Name.project id))
    (c : Situation v.engine) :
    ∃ c', c'.tables = c.tables ∧ v.run (getProject id) c
      = ((if (c.tables.payload? "projects" (projectKeys id)).isSome then .ok ⟨Name.project id⟩
          else .error (.missing .project (Name.project id))), c') := by
  have hcarry : c.tables.carryOut (.exists "projects" (projectKeys id)) = (.answered (.rows
      [[.bool (c.tables.payload? "projects" (projectKeys id)).isSome]]), c.tables) := by
    rw [Tables.carryOut, Tables.payload?, Option.isSome_map, Stock.find?, List.isSome_find?]
  obtain ⟨c', htables, hrun⟩ := hv.run_fetchFirst
    (Statement.command?_projectExists (Name.project id))
    (by simpa [Statement.arguments, Engine.takesValue] using hname) (.query .project) readExists?
    hcarry
  refine ⟨c', htables, ?_⟩
  rw [Store.getProject, run_bind, hrun]
  cases (c.tables.payload? "projects" (projectKeys id)).isSome <;> rfl

lemma Calm.deleteProject (hv : v.Calm) (hname : v.engine.takes (Name.project id))
    (c : Situation v.engine) :
    ∃ c', v.run (deleteProject id) c
        = ((if (c.tables.payload? "projects" (projectKeys id)).isSome then .ok ⟨⟩
            else .error (.missing .project (Name.project id))), c')
      ∧ c.tables.Puts "projects" (projectKeys id) none c'.tables :=
  hv.run_remove (Statement.command?_deleteProject (Name.project id))
    (by simpa [Statement.arguments, Engine.takesValue] using hname) _ _ c

end

/-! ### Notes -/

section

variable {project id : String}

lemma Calm.createNote (hv : v.Calm) {n : Note} {kept : String} {now : Time}
    (hnow : (v.occasions c.moment).time = now)
    (hkept : v.engine.jsonb (createdNote project id now n).payload = some kept)
    (htakes : ∀ s ∈ [project, id, (createdNote project id now n).payload], v.engine.takes s)
    (hid : (v.engine.serial (c.tables "notes").drawn).isSome) :
    ∃ c', v.run (createNote project id n) c
        = ((if (c.tables.payload? "notes" (noteKeys project id)).isSome then
            .error (.alreadyExists .note (Name.note project id))
          else .ok (createdNote project id now n)), c')
      ∧ c.tables.Puts "notes" (noteKeys project id)
        (some ((c.tables.payload? "notes" (noteKeys project id)).getD kept)) c'.tables := by
  obtain ⟨c', hrun, hputs⟩ := hv.run_create (c := c.after c.tables)
    [("project_id", project), ("note_id", id), ("data", kept)]
    (Statement.command?_insertNote project id (createdNote project id now n).payload)
    (by simpa [Statement.arguments, Engine.takesValue] using htakes)
    (Tables.isKey_notes project id)
    (by rw [layoutOf_notes]; simp [Engine.values?, Engine.value?, List.lookup_cons, hkept])
    (by rw [layoutOf_notes]; simp [Layout.IsFilled])
    (by simp [Row.has, Row.ofValues, Row.set, noteKeys, List.lookup_cons]) hid
    .note (Name.note project id) (createdNote project id now n)
  refine ⟨c', ?_, hputs⟩
  rw [Store.createNote, run_bind, run_clock, hnow]
  exact hrun

lemma Calm.getNote (hv : v.Calm) (htakes : ∀ s ∈ [project, id], v.engine.takes s)
    (c : Situation v.engine) :
    ∃ c', c'.tables = c.tables ∧ v.run (getNote project id) c
      = ((c.tables.payload? "notes" (noteKeys project id)).elim
          (.error (missingNote project id)) fun payload =>
            (noteOfPayload payload).map fun n => { n with name := Name.note project id }, c') :=
  hv.run_get (Statement.command?_searchNote project id)
    (by simpa [Statement.arguments, Engine.takesValue] using htakes) (.query .note)
    (missingNote project id) noteOfPayload _ c

lemma Calm.updateNote (hv : v.Calm) {n : Note} {kept : String} {now : Time}
    (hnow : (v.occasions c.moment).time = now)
    (hkept : v.engine.jsonb (updatedNote project id now n).payload = some kept)
    (htakes : ∀ s ∈ [project, id, (updatedNote project id now n).payload], v.engine.takes s) :
    ∃ c', v.run (updateNote project id n) c
        = ((if (c.tables.payload? "notes" (noteKeys project id)).isSome then
            .ok (updatedNote project id now n) else .error (missingNote project id)), c')
      ∧ c.tables.Puts "notes" (noteKeys project id)
        ((c.tables.payload? "notes" (noteKeys project id)).map fun _ => kept) c'.tables := by
  obtain ⟨c', hrun, hputs⟩ := hv.run_replace [("data", kept)]
    (Statement.command?_updateNote project id (updatedNote project id now n).payload)
    (by simpa [Statement.arguments, Engine.takesValue] using htakes)
    (by rw [layoutOf_notes]; simp [Engine.values?, Engine.value?, List.lookup_cons, hkept])
    (by rw [layoutOf_notes]; simp) (by simp) rfl
    (fun _ => .database (.update .note)) (missingNote project id) (updatedNote project id now n)
    (c.after c.tables)
  refine ⟨c', ?_, hputs⟩
  rw [Store.updateNote, run_bind, run_clock, hnow]
  exact hrun

lemma Calm.deleteNote (hv : v.Calm) (htakes : ∀ s ∈ [project, id], v.engine.takes s)
    (c : Situation v.engine) :
    ∃ c', v.run (deleteNote project id) c
        = ((if (c.tables.payload? "notes" (noteKeys project id)).isSome then .ok ⟨⟩
            else .error (missingNote project id)), c')
      ∧ c.tables.Puts "notes" (noteKeys project id) none c'.tables :=
  hv.run_remove (Statement.command?_deleteNote project id)
    (by simpa [Statement.arguments, Engine.takesValue] using htakes) _ _ c

end

/-! ### Occurrences -/

section

variable {project id noteProject noteId : String}

/-- A malformed note name is refused before anything is asked for. -/
lemma run_createOccurrence_of_error (project : String) {o : Occurrence} {e : Error}
    (h : noteReference o = .error e) (c : Situation v.engine) :
    v.run (createOccurrence project o) c = (.error e, c) := by
  rw [createOccurrence, h]
  rfl

lemma Calm.createOccurrence (hv : v.Calm) {o : Occurrence} {kept : String} {now : Time}
    (hreference : noteReference o = .ok (noteProject, noteId))
    (hid : (v.occasions c.moment).freshId = id) (hnow : (v.occasions (c.moment + 1)).time = now)
    (hkept : v.engine.jsonb (createdOccurrence project id now o).payload = some kept)
    (htakes : ∀ s ∈ [project, id, noteProject, noteId,
      (createdOccurrence project id now o).payload], v.engine.takes s)
    (hserial : (v.engine.serial (c.tables "occurrences").drawn).isSome) :
    ∃ c', v.run (createOccurrence project o) c
        = ((if (c.tables.payload? "occurrences" (occurrenceKeys project id)).isSome then
            .error (.alreadyExists .occurrence (Name.occurrence project id))
          else .ok (createdOccurrence project id now o)), c')
      ∧ c.tables.Puts "occurrences" (occurrenceKeys project id)
        (some ((c.tables.payload? "occurrences" (occurrenceKeys project id)).getD kept))
        c'.tables := by
  obtain ⟨c', hrun, hputs⟩ := hv.run_create (c := (c.after c.tables).after c.tables)
    [("project_id", project), ("occurrence_id", id), ("note_project_id", noteProject),
      ("note_id", noteId), ("data", kept)]
    (Statement.command?_insertOccurrence project id noteProject noteId
      (createdOccurrence project id now o).payload)
    (by simpa [Statement.arguments, Engine.takesValue] using htakes)
    (Tables.isKey_occurrences project id)
    (by rw [layoutOf_occurrences]; simp [Engine.values?, Engine.value?, List.lookup_cons, hkept])
    (by rw [layoutOf_occurrences]; simp [Layout.IsFilled])
    (by simp [Row.has, Row.ofValues, Row.set, occurrenceKeys, List.lookup_cons]) hserial
    .occurrence (Name.occurrence project id) (createdOccurrence project id now o)
  refine ⟨c', ?_, hputs⟩
  rw [Store.createOccurrence, hreference, fromExcept_ok_bind, run_bind, run_freshId, hid]
  simp only
  rw [run_bind, run_clock, hnow]
  exact hrun

lemma Calm.getOccurrence (hv : v.Calm) (htakes : ∀ s ∈ [project, id], v.engine.takes s)
    (c : Situation v.engine) :
    ∃ c', c'.tables = c.tables ∧ v.run (getOccurrence project id) c
      = ((c.tables.payload? "occurrences" (occurrenceKeys project id)).elim
          (.error (missingOccurrence project id)) fun payload =>
            (occurrenceOfPayload payload).map fun o =>
              { o with name := Name.occurrence project id }, c') :=
  hv.run_get (Statement.command?_searchOccurrence project id)
    (by simpa [Statement.arguments, Engine.takesValue] using htakes) (.query .occurrence)
    (missingOccurrence project id) occurrenceOfPayload _ c

lemma run_updateOccurrence_of_error (project id : String) {o : Occurrence} {e : Error}
    (h : noteReference o = .error e) (c : Situation v.engine) :
    v.run (updateOccurrence project id o) c = (.error e, c) := by
  rw [updateOccurrence, h]
  rfl

lemma Calm.updateOccurrence (hv : v.Calm) {o : Occurrence} {kept : String} {now : Time}
    (hreference : noteReference o = .ok (noteProject, noteId))
    (hnow : (v.occasions c.moment).time = now)
    (hkept : v.engine.jsonb (updatedOccurrence project id now o).payload = some kept)
    (htakes : ∀ s ∈ [project, id, noteProject, noteId,
      (updatedOccurrence project id now o).payload], v.engine.takes s) :
    ∃ c', v.run (updateOccurrence project id o) c
        = ((if (c.tables.payload? "occurrences" (occurrenceKeys project id)).isSome then
            .ok (updatedOccurrence project id now o)
          else .error (missingOccurrence project id)), c')
      ∧ c.tables.Puts "occurrences" (occurrenceKeys project id)
        ((c.tables.payload? "occurrences" (occurrenceKeys project id)).map fun _ => kept)
        c'.tables := by
  obtain ⟨c', hrun, hputs⟩ := hv.run_replace
    [("note_project_id", noteProject), ("note_id", noteId), ("data", kept)]
    (Statement.command?_updateOccurrence project id noteProject noteId
      (updatedOccurrence project id now o).payload)
    (by simpa [Statement.arguments, Engine.takesValue] using htakes)
    (by rw [layoutOf_occurrences]; simp [Engine.values?, Engine.value?, List.lookup_cons, hkept])
    (by rw [layoutOf_occurrences]; simp) (by simp) rfl
    (fun _ => .database (.update .occurrence)) (missingOccurrence project id)
    (updatedOccurrence project id now o) (c.after c.tables)
  refine ⟨c', ?_, hputs⟩
  rw [Store.updateOccurrence, hreference, fromExcept_ok_bind, run_bind, run_clock, hnow]
  exact hrun

lemma Calm.deleteOccurrence (hv : v.Calm) (htakes : ∀ s ∈ [project, id], v.engine.takes s)
    (c : Situation v.engine) :
    ∃ c', v.run (deleteOccurrence project id) c
        = ((if (c.tables.payload? "occurrences" (occurrenceKeys project id)).isSome then .ok ⟨⟩
            else .error (missingOccurrence project id)), c')
      ∧ c.tables.Puts "occurrences" (occurrenceKeys project id) none c'.tables :=
  hv.run_remove (Statement.command?_deleteOccurrence project id)
    (by simpa [Statement.arguments, Engine.takesValue] using htakes) _ _ c

end

end Service

end Catalog.Store
