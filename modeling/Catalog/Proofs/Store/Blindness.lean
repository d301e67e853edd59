import Catalog.Proofs.Store.Likeness
import Catalog.Proofs.Store.TaskHeeding

/-!
No task can tell from each other two databases that answer alike.
-/

namespace Catalog.Store

open Operation Record

variable {α β γ : Type}

/-! ### Payloads -/

/-- The function reads the payloads of a kind, and says of all others that they are none. -/
def Entity.IsReader (e : Entity) (read : String → Except Error α) : Prop :=
  ∀ text, (∃ a, read text = .ok a) ∧ e.reads text = true
    ∨ read text = .error (.unreadable e) ∧ e.reads text = false

lemma isReader_note : Entity.note.IsReader noteOfPayload := by
  intro text
  rw [noteOfPayload, Entity.reads]
  cases Note.ofPayload? text with
  | none => exact .inr ⟨rfl, rfl⟩
  | some n => exact .inl ⟨⟨n, rfl⟩, rfl⟩

lemma isReader_occurrence : Entity.occurrence.IsReader occurrenceOfPayload := by
  intro text
  rw [occurrenceOfPayload, Entity.reads]
  cases Occurrence.ofPayload? text with
  | none => exact .inr ⟨rfl, rfl⟩
  | some o => exact .inl ⟨⟨o, rfl⟩, rfl⟩

section

variable {e : Entity} {read : String → Except Error α}

lemma Entity.IsReader.eq_of_like (h : e.IsReader read) {text text' : String}
    (hlike : e.LikeTexts text text') : read text = read text' := by
  rcases hlike with rfl | ⟨htext, htext'⟩
  · rfl
  · have hnone : ∀ text, e.reads text = false → read text = .error (.unreadable e) := by
      intro text htext
      rcases h text with ⟨-, hreads⟩ | ⟨hread, -⟩
      · rw [htext] at hreads
        cases hreads
      · exact hread
    rw [hnone _ htext, hnone _ htext']

/-- A page is refused for one payload that is none. -/
lemma Entity.IsReader.mapM (h : e.IsReader read) (texts : List String) :
    (∃ as, texts.mapM read = .ok as) ∧ (∀ text ∈ texts, e.reads text = true)
      ∨ texts.mapM read = .error (.unreadable e) ∧ ∃ text ∈ texts, e.reads text = false := by
  induction texts with
  | nil => exact .inl ⟨⟨[], rfl⟩, by simp⟩
  | cons text texts ih =>
    rw [List.mapM_cons]
    rcases h text with ⟨⟨a, hread⟩, htext⟩ | ⟨hread, htext⟩
    · rw [hread]
      rcases ih with ⟨⟨as, hrest⟩, hall⟩ | ⟨hrest, text', hmem, hnone⟩
      · exact .inl ⟨⟨a :: as, by rw [hrest]; rfl⟩, List.forall_mem_cons.mpr ⟨htext, hall⟩⟩
      · exact .inr ⟨by rw [hrest]; rfl, text', List.mem_cons_of_mem _ hmem, hnone⟩
    · exact .inr ⟨by rw [hread]; rfl, text, List.mem_cons_self, htext⟩

/-- What payloads that are alike are read as does not differ. -/
lemma Entity.IsReader.mapM_like (h : e.IsReader read) {texts texts' : List String}
    (hlike : List.Forall₂ e.LikeTexts texts texts') : texts.mapM read = texts'.mapM read := by
  induction hlike with
  | nil => rfl
  | cons htext _ ih => rw [List.mapM_cons, List.mapM_cons, h.eq_of_like htext, ih]

end

/-! ### Single records -/

lemma isBlind_discard {op : Operation α} (h : IsBlind op) (a : β) :
    IsBlind (discard op >>= fun _ => pure a) := by
  rw [discard_bind]
  exact h.bind fun _ => isBlind_pure a

lemma isBlind_create {st : Statement} {e : Entity} {name : String}
    (hst : st.inserted? = some (e, name)) (hpayload : st.payload? = none) (a : α) :
    IsBlind (discard (guarded (execute st (insertFailure e name))) >>= fun _ => pure a) :=
  isBlind_discard (parallel_guarded (isBlind_execute hpayload (isDiscreet_insertFailure hst))) a

/-- A statement that fails unless it touches a row. -/
lemma isBlind_touch {st : Statement} (hst : st.payload? = none) {e : Error} {f : ℕ → Operation α}
    (hf : ∀ count, IsBlind (f count)) :
    IsBlind (guarded (execute st fun _ => e) >>= f) :=
  IsBlind.bind (parallel_guarded (isBlind_execute hst (isDiscreet_const e))) hf

/-- A payload that is searched for, and read. -/
lemma isBlind_search {st : Statement} {e : Entity} (hst : st.payload? = some (0, e))
    {stage : Stage} {f : Option String → Operation α} (hnone : IsBlind (f none))
    (hsome : ∀ text text', e.LikeTexts text text' →
      Parallel Eq (f (some text)) (f (some text'))) :
    IsBlind (guarded (fetchFirst st stage readPayload?) >>= f) := by
  refine Parallel.bind (parallel_guarded (parallel_fetchPayload hst)) ?_
  rintro _ _ (h | _)
  · exact hsome _ _ h
  · exact hnone

lemma isBlind_getNote (p i : String) : IsBlind (getNote p i) := by
  refine isBlind_search rfl (isBlind_throw _) fun text text' h => ?_
  simp only [isReader_note.eq_of_like h]
  exact (isBlind_fromExcept _).bind fun _ => isBlind_pure _

lemma isBlind_getOccurrence (p i : String) : IsBlind (getOccurrence p i) := by
  refine isBlind_search rfl (isBlind_throw _) fun text text' h => ?_
  simp only [isReader_occurrence.eq_of_like h]
  exact (isBlind_fromExcept _).bind fun _ => isBlind_pure _

lemma isBlind_createNote (p i : String) (n : Note) : IsBlind (createNote p i n) :=
  (isBlind_ask (by simp)).bind fun _ => isBlind_create rfl rfl _

lemma isBlind_createOccurrence (p : String) (o : Occurrence) : IsBlind (createOccurrence p o) :=
  (isBlind_fromExcept _).bind fun _ => (isBlind_ask (by simp)).bind fun _ =>
    (isBlind_ask (by simp)).bind fun _ => isBlind_create rfl rfl _

lemma isBlind_action (a : Action) : IsBlind a.operation := by
  cases a with
  | createProject id p => exact (isBlind_create rfl rfl _).map _
  | getProject id =>
    refine IsBlind.map ?_ _
    refine IsBlind.bind (parallel_guarded (isBlind_fetchFirst rfl _)) fun found => ?_
    rcases found with _ | _ | _
    · exact isBlind_throw _
    · exact isBlind_throw _
    · exact isBlind_pure _
  | deleteProject id =>
    exact (isBlind_touch rfl fun _ => isBlind_ite (isBlind_throw _) (isBlind_pure _)).map _
  | createNote p i n => exact (isBlind_createNote p i n).map _
  | getNote p i => exact (isBlind_getNote p i).map _
  | updateNote p i n =>
    exact ((isBlind_ask (by simp)).bind fun _ => isBlind_touch rfl fun _ =>
      isBlind_ite (isBlind_throw _) (isBlind_pure _)).map _
  | deleteNote p i =>
    exact (isBlind_touch rfl fun _ => isBlind_ite (isBlind_throw _) (isBlind_pure _)).map _
  | createOccurrence p o => exact (isBlind_createOccurrence p o).map _
  | getOccurrence p i => exact (isBlind_getOccurrence p i).map _
  | updateOccurrence p i o =>
    exact ((isBlind_fromExcept _).bind fun _ => (isBlind_ask (by simp)).bind fun _ =>
      isBlind_touch rfl fun _ => isBlind_ite (isBlind_throw _) (isBlind_pure _)).map _
  | deleteOccurrence p i =>
    exact (isBlind_touch rfl fun _ => isBlind_ite (isBlind_throw _) (isBlind_pure _)).map _

/-! ### Listings -/

section

variable {s : Scope} {predicate : Option String} {after limit : Int}

/-- Rows that are alike, and one greatest id. -/
def LikeReads (e : Entity) (x y : List (Int × String) × Int) : Prop :=
  List.Forall₂ (LikeEntries e) x.1 y.1 ∧ x.2 = y.2

def LikePages (e : Entity) (page page' : Page) : Prop :=
  List.Forall₂ e.LikeTexts page.rows page'.rows ∧ page.token = page'.token

lemma isBlind_fetchMax (s : Scope) (predicate : Option String) :
    IsBlind (fetchMax s predicate) :=
  (isBlind_fetchFirst rfl _).bind fun found => by
    cases found with
    | none => exact isBlind_throw _
    | some id => exact isBlind_pure _

lemma parallel_readPage : Parallel (LikeReads s.entity) (readPage s predicate after limit)
    (readPage s predicate after limit) := by
  refine (parallel_fetchPage s predicate after limit).bind ?_
  rintro rows rows' hrows
  cases hrows with
  | nil => exact parallel_pure ⟨.nil, rfl⟩
  | cons hrow hrest =>
    refine (isBlind_fetchMax s predicate).parallel fun id => ?_
    exact parallel_pure ⟨.cons hrow hrest, rfl⟩

/-- A statement of which only the success counts. -/
lemma parallel_mark {R : α → β → Prop} {st : Statement} {e : Error} {f : PUnit → Operation α}
    {f' : PUnit → Operation β} (hst : st.payload? = none) (h : Parallel R (f ⟨⟩) (f' ⟨⟩)) :
    Parallel R (discard (execute st fun _ => e) >>= f)
      (discard (execute st fun _ => e) >>= f') := by
  rw [discard_bind, discard_bind]
  exact (isBlind_execute hst (isDiscreet_const e)).parallel fun _ => h

lemma parallel_readSnapshot : Parallel (LikeReads s.entity)
    (readSnapshot s predicate after limit) (readSnapshot s predicate after limit) := by
  refine parallel_mark rfl (parallel_mark rfl ?_)
  exact parallel_readPage.bind fun x y hxy => parallel_mark rfl (parallel_pure hxy)

lemma isBlind_nextToken (store : Store) (s : Scope) (id : Int) :
    IsBlind (store.nextToken s id) := by
  refine (isBlind_ask (by simp)).bind fun now => (isBlind_ask (by simp)).bind fun start => ?_
  split
  · exact isBlind_pure _
  · exact isBlind_throw _

lemma getLast?_rel {R : α → β → Prop} {l : List α} {l' : List β} (h : List.Forall₂ R l l') :
    Option.Rel R l.getLast? l'.getLast? := by
  rw [List.getLast?_eq_head?_reverse, List.getLast?_eq_head?_reverse]
  replace h := List.forall₂_reverse_iff.mpr h
  generalize l.reverse = reversed, l'.reverse = reversed' at h
  cases h with
  | nil => exact .none
  | cons hlast _ => exact .some hlast

/-- The token of a page depends on ids alone. -/
lemma parallel_list (store : Store) (s : Scope) (filter token : String) (size : Int) :
    Parallel (LikePages s.entity) (store.list s filter token size)
      (store.list s filter token size) := by
  refine (isBlind_fromExcept _).parallel fun predicate => ?_
  refine (isBlind_ask (by simp)).parallel fun now => ?_
  refine Parallel.bind (parallel_guarded (R := LikeReads s.entity) ?_) ?_
  · split
    · exact parallel_readSnapshot
    · exact parallel_readPage
  · rintro ⟨rows, maxId⟩ ⟨rows', _⟩ ⟨hrows, rfl⟩
    have hlast := getLast?_rel hrows
    simp only
    generalize rows.getLast? = last, rows'.getLast? = last' at hlast
    cases hlast with
    | none => exact parallel_pure ⟨.nil, rfl⟩
    | @some x y hxy =>
      have htexts : List.Forall₂ s.entity.LikeTexts (rows.map Prod.snd) (rows'.map Prod.snd) :=
        List.forall₂_map_left_iff.mpr (List.forall₂_map_right_iff.mpr
          (hrows.imp fun _ _ h => h.2))
      obtain ⟨lastId, text⟩ := x
      obtain ⟨_, text'⟩ := y
      obtain rfl : lastId = _ := hxy.1
      simp only
      split
      · exact (isBlind_nextToken store s lastId).parallel fun token => parallel_pure ⟨htexts, rfl⟩
      · exact (isBlind_pure "").parallel fun token => parallel_pure ⟨htexts, rfl⟩

end

lemma isBlind_listOccurrencesIn (store : Store) {s : Scope} (hs : s.entity = .occurrence)
    (filter token : String) (size : Int) :
    IsBlind (store.listOccurrencesIn s filter token size) := by
  refine (parallel_list store s filter token size).bind ?_
  rintro page page' ⟨hrows, htoken⟩
  rw [hs] at hrows
  rw [isReader_occurrence.mapM_like hrows, htoken]
  exact (isBlind_fromExcept _).bind fun _ => isBlind_pure _

lemma isBlind_call (store : Store) (filter token : String) (size : Int) (c : Call) :
    IsBlind (c.operation store filter token size) := by
  cases c with
  | projects =>
    refine IsBlind.map ?_ _
    refine (parallel_list store .projects filter token size).bind ?_
    rintro ⟨rows, token⟩ ⟨rows', _⟩ ⟨hrows, rfl⟩
    -- a project has no payload that could be none
    have heq : Entity.project.LikeTexts = Eq := by
      funext text text'
      simp [Entity.LikeTexts, Entity.reads]
    obtain rfl : rows = rows' := by
      rwa [Scope.entity, heq, List.forall₂_eq_eq_eq] at hrows
    exact isBlind_pure _
  | notes p =>
    refine IsBlind.map ?_ _
    refine (parallel_list store (.notes p) filter token size).bind ?_
    rintro page page' ⟨hrows, htoken⟩
    rw [isReader_note.mapM_like hrows, htoken]
    exact (isBlind_fromExcept _).bind fun _ => isBlind_pure _
  | occurrences p => exact (isBlind_listOccurrencesIn store rfl filter token size).map _
  | noteOccurrences p i =>
    refine IsBlind.map ?_ _
    rw [listNoteOccurrences, discard_bind]
    exact (isBlind_getNote p i).bind fun _ => isBlind_listOccurrencesIn store rfl filter token size
  | summary p =>
    exact ((isBlind_fromExcept _).bind fun predicate =>
      IsBlind.bind (parallel_guarded (isBlind_fetch rfl _)) fun _ => isBlind_pure _).map _

/-! ### Batches -/

lemma isBlind_attempt {op : Operation α} (h : IsBlind op) : IsBlind (attempt op) :=
  (parallel_attempt h).mono fun _ _ => outcomes_eq.mp

lemma isBlind_keepCreated {ops : List (Operation α)} (h : ∀ op ∈ ops, IsBlind op) :
    IsBlind (keepCreated ops) := by
  induction ops with
  | nil => exact isBlind_pure _
  | cons op ops ih =>
    have hrest := ih fun op' hop => h op' (List.mem_cons_of_mem _ hop)
    rw [keepCreated_cons]
    refine (isBlind_attempt (h op List.mem_cons_self)).bind ?_
    rintro (e | v)
    · exact isBlind_ite (isBlind_throw _) hrest
    · exact hrest.map _

lemma isBlind_operation (t : Task) : IsBlind t.operation := by
  cases t with
  | single a => exact (isBlind_action a).map _
  | createNotes p ns =>
    refine (isBlind_keepCreated fun op hop => ?_).map _
    obtain ⟨m, -, rfl⟩ := List.mem_map.mp hop
    exact isBlind_createNote p m.1 m.2
  | createOccurrences p os =>
    refine (isBlind_keepCreated fun op hop => ?_).map _
    obtain ⟨o, -, rfl⟩ := List.mem_map.mp hop
    exact isBlind_createOccurrence p o
  | occurrenceNote p i =>
    exact ((isBlind_getOccurrence p i).bind fun _ => (isBlind_fromExcept _).bind fun _ =>
      isBlind_getNote _ _).map _
  | call c store filter token size => exact isBlind_call store filter token size c

end Catalog.Store
