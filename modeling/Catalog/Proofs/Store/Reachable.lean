import Catalog.Proofs.Store.Columns
import Catalog.Proofs.Store.Isolation

/-!
The tables that a store comes to from empty ones, whatever it is asked to do, in whatever order,
and whatever goes wrong meanwhile. In all of them the columns of the rows agree with the payloads.
-/

namespace Catalog.Store

open Catalog.Json Catalog.Sql Operation Record

/-! ### Statements that write nothing -/

/-- The query of one table is about single rows only if it asks for one column. -/
lemma command?_of_select? {is : List Item} {q : Select} (h : select? is = some q) :
    command? is = search? q := by
  have hclauses : ∃ columns table rest,
      clauses is = ([], ("SELECT", columns) :: ("FROM", [.word table]) :: rest) := by
    unfold select? at h
    split at h
    · rename_i columns table rest heq
      exact ⟨columns, table, rest, heq⟩
    · cases h
  obtain ⟨columns, table, rest, heq⟩ := hclauses
  rw [command?, heq]
  simp [h]

namespace Statement

variable {s : Scope} {filter : Option Fragment}

lemma command?_of_bounded {st : Statement} {gs : List Glyph} {is : List Item}
    {inners : List (List Glyph)} (h : st.Bounded gs is inners) {q : Select}
    (hselect : select? is = some q) (hsearch : search? q = none) : st.command? = none := by
  rw [Statement.command?, outlineOf?, h.glyphs, Option.bind_some, h.outline, Option.bind_some,
    command?_of_select? hselect, hsearch, Option.bind_none]

lemma command?_page (h : ∀ f ∈ filter, IsClause f) (after limit : Int) :
    (page s (filter.map sqlOf) after limit).command? = none :=
  command?_of_bounded (bounded_page s h after limit) (select?_page s h) rfl

lemma command?_maxId (h : ∀ f ∈ filter, IsClause f) :
    (maxId s (filter.map sqlOf)).command? = none :=
  command?_of_bounded (bounded_maxId s h) (select?_max s h) rfl

lemma command?_transaction {st : Statement} (h : st ∈ [begin, snapshot, commit]) :
    st.command? = none := by
  simp only [List.mem_cons, List.not_mem_nil, or_false] at h
  rcases h with rfl | rfl | rfl <;> decide +kernel

end Statement

/-! ### Operations that write nothing -/

namespace Service

variable {v : Service} {I : Tables v.engine → Prop} {α : Type}

lemma Keeps.discard {op : Operation α} (h : v.Keeps I op) : v.Keeps I (Functor.discard op) :=
  h.map _

lemma keeps_list (store : Store) (s : Scope) (filter token : String) (size : Int) :
    v.Keeps I (store.list s filter token size) := by
  refine keeps_of_sends fun st hsends => respects_of_command_eq_none ?_
  obtain ⟨predicate, hp, hcases⟩ := sends_list hsends
  obtain ⟨f, rfl, hf, -⟩ := exists_filter s.isAnchor hp
  rcases hcases with ⟨now, rfl⟩ | rfl | htransaction
  · exact Statement.command?_page hf _ _
  · exact Statement.command?_maxId hf
  · exact Statement.command?_transaction htransaction

lemma keeps_getProject (id : String) : v.Keeps I (getProject id) := by
  refine (keeps_fetchFirst (respects_exists (Statement.command?_projectExists _)) _ _).bind
    fun found => ?_
  rcases found with _ | _ | _
  · exact keeps_throw _
  · exact keeps_throw _
  · exact keeps_pure _

lemma keeps_getNote (project id : String) : v.Keeps I (getNote project id) := by
  refine (keeps_fetchFirst (respects_search (Statement.command?_searchNote _ _)) _ _).bind
    fun found => ?_
  cases found with
  | none => exact keeps_throw _
  | some payload => exact (keeps_fromExcept _).bind fun _ => keeps_pure _

lemma keeps_getOccurrence (project id : String) : v.Keeps I (getOccurrence project id) := by
  refine (keeps_fetchFirst (respects_search (Statement.command?_searchOccurrence _ _)) _ _).bind
    fun found => ?_
  cases found with
  | none => exact keeps_throw _
  | some payload => exact (keeps_fromExcept _).bind fun _ => keeps_pure _

lemma keeps_getOccurrenceNote (project id : String) :
    v.Keeps I (getOccurrenceNote project id) :=
  (keeps_getOccurrence project id).bind fun _ =>
    (keeps_fromExcept _).bind fun _ => keeps_getNote _ _

lemma keeps_listOccurrencesIn (store : Store) (s : Scope) (filter token : String) (size : Int) :
    v.Keeps I (store.listOccurrencesIn s filter token size) :=
  (keeps_list store s filter token size).bind fun _ =>
    (keeps_fromExcept _).bind fun _ => keeps_pure _

end Service

/-! ### Operations that write -/

namespace Service

variable {v : Service} {p i : String} {n : Note} {o : Occurrence}

lemma respects_insertProject (name : String) :
    v.Respects (Agreeing v.engine) (.insertProject name) :=
  respects_insert (Statement.command?_insertProject name) fun _ _ _ _ => agrees_project

lemma keeps_createProject (id : String) (record : Project) :
    v.Keeps (Agreeing v.engine) (createProject id record) :=
  (keeps_execute (respects_insertProject _) _).discard.bind fun _ => keeps_pure _

/-- What removes a row or reports that there is none. -/
lemma keeps_remove {st : Statement} {table : String} {keys : List (String × String)}
    (h : st.command? = some (.delete table keys)) (failure : Failure → Error)
    (missing : Error) : v.Keeps (Agreeing v.engine) (do
      let count ← guarded (execute st failure)
      if count = 0 then throw missing) := by
  refine (keeps_execute (respects_delete h) _).bind fun count => ?_
  split
  · exact keeps_throw _
  · exact keeps_pure _

lemma keeps_createNote (hn : IsRecoverable n) :
    v.Keeps (Agreeing v.engine) (createNote p i n) := by
  refine keeps_clock_bind fun now hnow => ?_
  have hcreated : IsRecoverable (createdNote p i now n) :=
    hn.stamp _ (some now) none (by simpa using hnow) (by simp)
  exact (keeps_execute (respects_insertNote hcreated rfl) _).discard.bind fun _ => keeps_pure _

lemma keeps_updateNote (hn : IsRecoverable n) :
    v.Keeps (Agreeing v.engine) (updateNote p i n) := by
  refine keeps_clock_bind fun now hnow => ?_
  have hupdated : IsRecoverable (updatedNote p i now n) :=
    hn.stamp _ none (some now) (by simp) (by simpa using hnow)
  refine (keeps_execute (respects_updateNote hupdated rfl) _).bind fun count => ?_
  split
  · exact (keeps_throw _).bind fun _ => keeps_pure _
  · exact keeps_pure _

/-- A malformed note name ends the operation before anything is sent. -/
lemma keeps_noteReference_bind {I : Tables v.engine → Prop} {α : Type}
    {f : String × String → Operation α}
    (h : ∀ q m, noteReference o = .ok (q, m) → v.Keeps I (f (q, m))) :
    v.Keeps I (fromExcept (noteReference o) >>= f) := by
  cases hreference : noteReference o with
  | error e => exact keeps_throw e
  | ok reference => exact h reference.1 reference.2 hreference

lemma keeps_createOccurrence (ho : IsRecoverable o) :
    v.Keeps (Agreeing v.engine) (createOccurrence p o) := by
  refine keeps_noteReference_bind fun q m hreference => keeps_freshId.bind fun id =>
    keeps_clock_bind fun now hnow => ?_
  have hcreated : IsRecoverable (createdOccurrence p id now o) :=
    ho.stamp _ (some now) none (by simpa using hnow) (by simp)
  exact (keeps_execute (respects_insertOccurrence hcreated rfl hreference) _).discard.bind
    fun _ => keeps_pure _

lemma keeps_updateOccurrence (ho : IsRecoverable o) :
    v.Keeps (Agreeing v.engine) (updateOccurrence p i o) := by
  refine keeps_noteReference_bind fun q m hreference => keeps_clock_bind fun now hnow => ?_
  have hupdated : IsRecoverable (updatedOccurrence p i now o) :=
    ho.stamp _ none (some now) (by simp) (by simpa using hnow)
  refine (keeps_execute (respects_updateOccurrence hupdated rfl hreference) _).bind
    fun count => ?_
  split
  · exact (keeps_throw _).bind fun _ => keeps_pure _
  · exact keeps_pure _

end Service

/-! ### Errands -/

/-- What a store is asked: something about one record, to create many, or to list. -/
inductive Errand
  | single (a : Action)
  | createNotes (project : String) (notes : List (String × Note))
  | createOccurrences (project : String) (os : List Occurrence)
  | getOccurrenceNote (project id : String)
  | list (store : Store) (s : Scope) (filter token : String) (size : Int)

namespace Errand

def operation : Errand → Operation PUnit
  | single a => discard a.operation
  | createNotes project notes => discard (Store.createNotes project notes)
  | createOccurrences project os => discard (Store.createOccurrences project os)
  | getOccurrenceNote project id => discard (Store.getOccurrenceNote project id)
  | list store .projects filter token size => discard (store.listProjects filter token size)
  | list store (.notes p) filter token size => discard (store.listNotes p filter token size)
  | list store (.occurrences p) filter token size =>
    discard (store.listOccurrences p filter token size)
  | list store (.noteOccurrences p n) filter token size =>
    discard (store.listNoteOccurrences p n filter token size)

/-- All records are such as are read from payloads; ids and note names may be any. -/
def IsAdmissible : Errand → Prop
  | single (.createNote _ _ n) | single (.updateNote _ _ n) => IsGiven n
  | single (.createOccurrence _ o) | single (.updateOccurrence _ _ o) => IsGiven o
  | createNotes _ notes => ∀ x ∈ notes, IsGiven x.2
  | createOccurrences _ os => ∀ o ∈ os, IsGiven o
  | _ => True

end Errand

namespace Service

variable {v : Service}

lemma keeps_action {a : Action} (h : (Errand.single a).IsAdmissible) :
    v.Keeps (Agreeing v.engine) a.operation := by
  cases a with
  | createProject id p => exact (keeps_createProject id p).map _
  | getProject id => exact (keeps_getProject id).map _
  | deleteProject id => exact (keeps_remove (Statement.command?_deleteProject _) _ _).map _
  | createNote p i n => exact (keeps_createNote (IsGiven.recoverable h)).map _
  | getNote p i => exact (keeps_getNote p i).map _
  | updateNote p i n => exact (keeps_updateNote (IsGiven.recoverable h)).map _
  | deleteNote p i => exact (keeps_remove (Statement.command?_deleteNote p i) _ _).map _
  | createOccurrence p o => exact (keeps_createOccurrence (IsGiven.recoverable h)).map _
  | getOccurrence p i => exact (keeps_getOccurrence p i).map _
  | updateOccurrence p i o => exact (keeps_updateOccurrence (IsGiven.recoverable h)).map _
  | deleteOccurrence p i =>
    exact (keeps_remove (Statement.command?_deleteOccurrence p i) _ _).map _

lemma keeps_errand {errand : Errand} (h : errand.IsAdmissible) :
    v.Keeps (Agreeing v.engine) errand.operation := by
  cases errand with
  | single a => exact (keeps_action h).discard
  | createNotes project notes =>
    refine (keeps_keepCreated fun op hop => ?_).discard
    obtain ⟨x, hx, rfl⟩ := List.mem_map.mp hop
    exact keeps_createNote (h x (mem_of_mem_sortMembers hx)).recoverable
  | createOccurrences project os =>
    refine (keeps_keepCreated fun op hop => ?_).discard
    obtain ⟨o, ho, rfl⟩ := List.mem_map.mp hop
    exact keeps_createOccurrence (h o ho).recoverable
  | getOccurrenceNote project id => exact (keeps_getOccurrenceNote project id).discard
  | list store s filter token size =>
    cases s with
    | projects => exact ((keeps_list _ _ _ _ _).bind fun _ => keeps_pure _).discard
    | notes p =>
      exact ((keeps_list _ _ _ _ _).bind fun _ =>
        (keeps_fromExcept _).bind fun _ => keeps_pure _).discard
    | occurrences p => exact (keeps_listOccurrencesIn _ _ _ _ _).discard
    | noteOccurrences p n =>
      exact ((keeps_getNote p n).discard.bind fun _ =>
        keeps_listOccurrencesIn _ _ _ _ _).discard

end Service

/-! ### Tables that are reached -/

/-- The tables after any errands, starting from empty ones. Each errand may be done from any moment
on, and meet anything there. -/
inductive Reachable {e : Engine} : Tables e → Prop
  | empty : Reachable .empty
  | step {t : Tables e} (h : Reachable t) {errand : Errand} (hadmissible : errand.IsAdmissible)
      (meaning : Meaning) (occasions : ℕ → Occasion) (moment : ℕ) :
      Reachable ((Service.mk e meaning occasions).run errand.operation ⟨moment, t⟩).2.tables

/-- The invariant holds of all tables that are reached. -/
lemma Reachable.agreeing {e : Engine} {t : Tables e} (h : Reachable t) : Agreeing e t := by
  induction h with
  | empty => exact fun _ row hrow => absurd hrow List.not_mem_nil
  | step _ hadmissible meaning occasions moment ih =>
    exact Service.keeps_errand (v := ⟨_, meaning, occasions⟩) hadmissible ⟨moment, _⟩ ih

end Catalog.Store
