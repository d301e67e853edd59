import Catalog.Proofs.Store.NoteWalk
import Catalog.Proofs.Store.Refinement

/-!
The columns of the tables agree with the payloads, whatever was done before, and so do the two ways
to read: by keys and in lists.
-/

namespace Catalog.Store

open Catalog.Json Catalog.Paging Record

/-- What is listed is what is got, with the same tables. -/
structure Service.Consistent (v : Service) (c : Situation v.engine) : Prop where
  /-- The notes of a page are those that are got by the keys of its rows. -/
  notes : ∀ (store : Store) (project filter token : String) (size : Int)
      (predicate : Option String), store.predicate? Filter.payloadAnchor filter = .ok predicate →
    v.engine.takes project →
    ∃ notes next c', v.run (store.listNotes project filter token size) c = (.ok (notes, next), c')
      ∧ List.Forall₂ (fun row n =>
          (v.run (getNote (row.column "project_id") (row.column "note_id")) c).1 = .ok n)
        ((Scope.notes project).pageRows v.meaning predicate c.tables.database
          (store.cursor.decode (v.occasions c.moment).time.unixSeconds 0 token)
          (store.options.pageSize size)) notes
  occurrences : ∀ (store : Store) (project filter token : String) (size : Int)
      (predicate : Option String), store.predicate? Filter.payloadAnchor filter = .ok predicate →
    v.engine.takes project →
    ∃ os next c', v.run (store.listOccurrences project filter token size) c
        = (.ok (os, next), c')
      ∧ List.Forall₂ (fun row o => (v.run
            (getOccurrence (row.column "project_id") (row.column "occurrence_id")) c).1 = .ok o)
        ((Scope.occurrences project).pageRows v.meaning predicate c.tables.database
          (store.cursor.decode (v.occasions c.moment).time.unixSeconds 0 token)
          (store.options.pageSize size)) os
  missing : ∀ (store : Store) (p n filter token : String) (size : Int),
    (∀ s ∈ [p, n], v.engine.takes s) →
    (∀ row ∈ (c.tables "notes").rows, row.has (noteKeys p n) = false) →
    (v.run (store.listNoteOccurrences p n filter token size) c).1 = .error (missingNote p n)
  /-- A walk through the occurrences of a note gives those that refer to the note, once each. -/
  walk : ∀ (stores : ℕ → Store) (sizes : ℕ → Int) (key : Key) (p n : String),
    (∀ s ∈ [p, n], v.engine.takes s) →
    (∃ row ∈ (c.tables "notes").rows, row.has (noteKeys p n) = true) →
    (∀ i, (stores i).cursor.primary = key) →
    (∀ records, v.Walked stores sizes p n 0 "" c records → records = c.tables.occurrencesOf p n)
      ∧ (v.Steady → v.Walked stores sizes p n 0 "" c (c.tables.occurrencesOf p n))

namespace Service

variable {v : Service} {c : Situation v.engine}

/-- A calm service is consistent where the columns agree with the payloads. -/
lemma Calm.consistent (hv : v.Calm) (ht : Agreeing v.engine c.tables) : v.Consistent c where
  notes store project filter token size predicate hp htakes := by
    obtain ⟨notes, next, c', hrun, -, hsame⟩ := hv.listNotes ht hp htakes token size
    exact ⟨notes, next, c', hrun, hsame⟩
  occurrences store project filter token size predicate hp htakes := by
    obtain ⟨os, next, c', hrun, -, hsame⟩ := hv.listOccurrences ht hp htakes token size
    exact ⟨os, next, c', hrun, hsame⟩
  missing store p n filter token size htakes hmissing :=
    hv.listNoteOccurrences_of_missing store htakes hmissing filter token size
  walk stores sizes key p n htakes hnote hkey := by
    have hstart : v.Marks c.tables key 0 c.moment "" := ⟨c.moment, le_rfl, .inl ⟨rfl, rfl⟩⟩
    have hrecords : ∀ records, v.Walked stores sizes p n 0 "" c records →
        records = c.tables.occurrencesOf p n := fun records h => by
      rw [h.eq_left hv ht htakes hnote hkey rfl hstart]
      exact Tables.filterMap_rest ht p n v.meaning
    refine ⟨hrecords, fun hsteady => ?_⟩
    obtain ⟨records, h⟩ := exists_walked stores sizes hv hsteady ht htakes hnote hkey 0 rfl
      hstart
    rwa [← hrecords records h]

end Service

/-- **Columns agree with payloads** in all tables that are reached from empty ones with records in
whose details nothing has the raw name: the payload of every row is a record with the name of its
key, and an occurrence refers to the note that its columns say. So what is listed is what is got;
and the occurrences of a note that there is are those that refer to it by its name. -/
theorem columns_agree_with_payloads {e : Engine} {t : Tables e} (h : Reachable t) :
    (∀ row ∈ (t "notes").rows, ∃ n, Note.ofPayload? (row.column "data") = some n
        ∧ n.name = Name.note (row.column "project_id") (row.column "note_id"))
      ∧ (∀ row ∈ (t "occurrences").rows, ∃ o, Occurrence.ofPayload? (row.column "data") = some o
        ∧ o.name = Name.occurrence (row.column "project_id") (row.column "occurrence_id")
        ∧ Name.parseChild .note o.noteName
          = .ok (row.column "note_project_id", row.column "note_id"))
      ∧ ∀ meaning occasions moment, (Service.mk e meaning occasions).Calm →
        (Service.mk e meaning occasions).Consistent ⟨moment, t⟩ := by
  have ht := h.agreeing
  refine ⟨fun row hrow => ((ht _ row hrow).note rfl).named, fun row hrow => ?_,
    fun meaning occasions moment hcalm => hcalm.consistent ht⟩
  obtain ⟨o, ⟨hread, hname⟩, hreference⟩ := ((ht _ row hrow).occurrence rfl).named
  exact ⟨o, hread, hname, hreference⟩

/-! ### Jobs -/

/-- What can be done as a job is an admissible errand. -/
lemma Action.IsAdmissible.single {a : Action} (h : a.IsAdmissible) :
    (Errand.single a).IsAdmissible := by
  cases a with
  | createNote p i n | updateNote p i n | updateOccurrence p i o => exact h.2.2.1
  | createOccurrence p o => exact h.2.1
  | createProject | getProject | deleteProject | getNote | deleteNote | getOccurrence
  | deleteOccurrence => trivial

/-- Where a job is done, the tables are reached as well. -/
lemma Reachable.job {e : Engine} {t : Tables e} (h : Reachable t) {j : Job}
    (hj : j.IsAdmissible) : Reachable (j.run e t).2 := by
  have hstep := h.step hj.1.single (j.service e).meaning (j.service e).occasions 0
  have hdiscard : ((j.service e).run (discard j.action.operation) ⟨0, t⟩).2
      = ((j.service e).run j.action.operation ⟨0, t⟩).2 := by
    rw [Service.run_discard]
    rcases (j.service e).run j.action.operation ⟨0, t⟩ with ⟨_ | _, _⟩ <;> rfl
  rw [Errand.operation, hdiscard] at hstep
  exact hstep

/-- The tables after jobs that are done one after the other. -/
def tablesAfter (e : Engine) (jobs : List Job) : Tables e :=
  jobs.foldl (fun t j => (j.run e t).2) .empty

def registryAfter (jobs : List Job) : Registry := jobs.foldl (fun r j => (j.specify r).2) .empty

lemma reachable_tablesAfter {e : Engine} (he : e.Accepting) {jobs : List Job}
    (hjobs : ∀ j ∈ jobs, j.IsAdmissible) (hserial : ∀ n < jobs.length, (e.serial n).isSome) :
    Reachable (tablesAfter e jobs) ∧ Refines (tablesAfter e jobs) (registryAfter jobs)
      ∧ ∀ table, (tablesAfter e jobs table).drawn ≤ jobs.length := by
  induction jobs using List.reverseRecOn with
  | nil => exact ⟨.empty, .empty, fun _ => le_rfl⟩
  | append_singleton jobs j ih =>
    rw [List.length_append, List.length_singleton] at hserial ⊢
    obtain ⟨hreachable, hrefines, hdrawn⟩ :=
      ih (fun j' hj' => hjobs j' (List.mem_append_left _ hj')) fun n hn => hserial n (by omega)
    have hj : j.IsAdmissible := hjobs j (by simp)
    have hagrees := Job.agrees he hrefines hj fun table =>
      hserial _ (Nat.lt_succ_of_le (hdrawn table))
    rw [tablesAfter, registryAfter, List.foldl_concat, List.foldl_concat]
    exact ⟨hreachable.job hj, hagrees.refines, fun table =>
      (hagrees.drawn_le table).trans (Nat.succ_le_succ (hdrawn table))⟩

lemma exists_row_of_payload? {e : Engine} {t : Tables e} {table : String}
    {keys : List (String × String)} {payload : String}
    (h : t.payload? table keys = some payload) :
    ∃ row ∈ (t table).rows, row.has keys = true ∧ row.column "data" = payload := by
  obtain ⟨row, hrow, hdata⟩ := Option.map_eq_some_iff.mp h
  exact ⟨row, List.mem_of_find?_eq_some hrow, Stock.has_of_find? hrow, hdata⟩

/-- An occurrence that refers to a note is one of the occurrences of the note. -/
lemma Refines.mem_occurrencesOf {e : Engine} {t : Tables e} {r : Registry} (h : Refines t r)
    {p n q i : String} {o : Occurrence} (ho : r.occurrences (q, i) = some o)
    (hname : o.noteName = Name.note p n) : o ∈ t.occurrencesOf p n := by
  have hrel := h.occurrences q i
  rw [ho] at hrel
  cases hpayload : t.payload? "occurrences" (occurrenceKeys q i) with
  | none =>
    rw [hpayload] at hrel
    cases hrel
  | some payload =>
    rw [hpayload] at hrel
    cases hrel with
    | some hsame =>
      obtain ⟨row, hrow, -, rfl⟩ := exists_row_of_payload? hpayload
      refine List.mem_filter.mpr ⟨List.mem_filterMap.mpr ⟨row, mem_sortById.mpr hrow, hsame.1⟩, ?_⟩
      exact decide_eq_true hname

lemma Job.steady_service (j : Job) (e : Engine) : (j.service e).Steady :=
  fun _ _ _ => ⟨Nat.le_add_right _ _, Nat.le_add_right _ _⟩

/-! ### A note and an occurrence -/

/-- An occurrence of which only the note is said. -/
def blankOccurrence : Occurrence :=
  ⟨"", .empty, "projects/p/notes/n", .unspecified, "", none, none, []⟩

lemma storable_blankOccurrence : IsStorable blankOccurrence where
  readable := ⟨by simp [LawfulPayload.times, Occurrence.times, blankOccurrence],
    ⟨.nil, by simp [Payload.details, blankOccurrence], by simp [Payload.details, blankOccurrence]⟩⟩
  plain := by simp [IsPlain, Payload.details, blankOccurrence]
  whole := by
    have h : Whole (.object [("name", .string ""), ("resource", .object [("uri", .string "")]),
        ("note_name", .string "projects/p/notes/n"),
        ("kind", .string Kind.unspecified.word)]) :=
      .object (by simpa using ⟨.string _, .object (by simpa using .string _), .string _, .string _⟩)
    exact h
  clean := by
    have h : Clean (.object [("name", .string ""), ("resource", .object [("uri", .string "")]),
        ("note_name", .string "projects/p/notes/n"),
        ("kind", .string Kind.unspecified.word)]) :=
      .object (by decide) (by
        simpa using ⟨.string (by decide), .object (by decide) (by simpa using .string (by decide)),
          .string (by decide), .string (by decide)⟩)
    exact h

/-- A note is created, and an occurrence of it in another project. -/
def occurrenceJobs : List Job :=
  [.createNote "p" "n" blankNote, .createOccurrence "q" blankOccurrence].map fun a =>
    ⟨a, ⟨0, 0⟩, valid_start, "made"⟩

lemma admissible_occurrenceJobs : ∀ j ∈ occurrenceJobs, j.IsAdmissible := by
  have hclean : IsClean "p" ∧ IsClean "n" ∧ IsClean "q" ∧ IsClean "made" := by decide
  simp [occurrenceJobs, Job.IsAdmissible, Action.IsAdmissible, hclean, storable_blankNote.given,
    storable_blankNote.clean, storable_blankOccurrence.given, storable_blankOccurrence.clean]

lemma registryAfter_occurrenceJobs :
    (registryAfter occurrenceJobs).notes ("p", "n")
        = some (createdNote "p" "n" ⟨0, 0⟩ blankNote)
      ∧ (registryAfter occurrenceJobs).occurrences ("q", "made")
        = some (createdOccurrence "q" "made" ⟨0, 0⟩ blankOccurrence) := by
  have hreference : noteReference blankOccurrence = .ok ("p", "n") :=
    noteReference_eq_ok_iff.mpr (Name.parseChild_eq_ok_iff.mpr
      ⟨by decide, ⟨by decide, by decide⟩, ⟨by decide, by decide⟩⟩)
  simp [registryAfter, occurrenceJobs, Job.specify, Registry.answer, hreference, Registry.atNote,
    Registry.atOccurrence, Entry.create, Registry.empty]

theorem columns_agree_with_payloads_noted :
    createdOccurrence "q" "made" ⟨0, 0⟩ blankOccurrence
        ∈ (tablesAfter sortingEngine occurrenceJobs).occurrencesOf "p" "n"
      ∧ (∀ row ∈ (tablesAfter sortingEngine occurrenceJobs "occurrences").rows,
        ∃ o, Occurrence.ofPayload? (row.column "data") = some o
          ∧ o.name = Name.occurrence (row.column "project_id") (row.column "occurrence_id")
          ∧ Name.parseChild .note o.noteName
            = .ok (row.column "note_project_id", row.column "note_id"))
      ∧ ∀ j : Job, (j.service sortingEngine).Walked (fun _ => strictStore) (fun _ => 1) "p" "n" 0
        "" ⟨0, tablesAfter sortingEngine occurrenceJobs⟩
        ((tablesAfter sortingEngine occurrenceJobs).occurrencesOf "p" "n") := by
  obtain ⟨hreachable, hrefines, -⟩ :=
    reachable_tablesAfter accepting_sortingEngine admissible_occurrenceJobs (by decide)
  obtain ⟨hnote, hoccurrence⟩ := registryAfter_occurrenceJobs
  have hrow : ∃ row ∈ (tablesAfter sortingEngine occurrenceJobs "notes").rows,
      row.has (noteKeys "p" "n") = true := by
    have hsome := isSome_eq_of_rel (hrefines.notes "p" "n")
    rw [hnote] at hsome
    obtain ⟨payload, hpayload⟩ := Option.isSome_iff_exists.mp hsome
    obtain ⟨row, hrow, hhas, -⟩ := exists_row_of_payload? hpayload
    exact ⟨row, hrow, hhas⟩
  obtain ⟨-, hoccurrences, hconsistent⟩ := columns_agree_with_payloads hreachable
  refine ⟨hrefines.mem_occurrencesOf hoccurrence (by decide), hoccurrences, fun j => ?_⟩
  have hsame : (j.service sortingEngine).Consistent ⟨0, tablesAfter sortingEngine occurrenceJobs⟩ :=
    hconsistent _ _ 0 (j.calm_service sortingEngine)
  have hwalk := (hsame.walk (fun _ => strictStore) (fun _ => 1) _ "p" "n" (fun _ _ => rfl) hrow
    fun _ => rfl).2 (j.steady_service sortingEngine)
  dsimp only at hwalk
  exact hwalk

/-! ### A row that cannot be read -/

theorem columns_agree_with_payloads_rawNamed :
    (∃ text, Note.ofPayload? text = some rawNote) ∧ Whole rawNote.toJson
      ∧ ∃ row ∈ (tablesAfter verbatimEngine [creation] "notes").rows,
        Note.ofPayload? (row.column "data") = none := by
  obtain ⟨t, hcreate, hpayload⟩ := exists_run_creation
  obtain ⟨row, hrow, -, hdata⟩ := exists_row_of_payload? hpayload
  have htables : tablesAfter verbatimEngine [creation] = t := by
    rw [tablesAfter, List.foldl_cons, List.foldl_nil, hcreate]
  refine ⟨⟨_, ofPayload?_rawNoteText⟩, whole_rawNote, row, ?_, ?_⟩
  · rwa [htables]
  · rw [hdata]
    exact ofPayload?_storedRawNote

end Catalog.Store
