import Catalog.Proofs.Store.Blindness
import Catalog.Proofs.Store.Verdict

/-!
Operations answer for all that they are told: a verdict is their result, and a payload that is
none of its kind is reported, or the page it was on. All tasks do so but batches, which pass over
what fails.
-/

namespace Catalog.Store

open Operation Record

variable {α β : Type}

/-! ### Statements -/

section

variable {st : Statement} {stage : Stage} {due : Entity → Prop} {out : α → Entity → Prop}

lemma guarded_bind (body : Operation α) (f : α → Operation β) :
    guarded body >>= f = guarded (body >>= f) := by
  rw [guarded, guarded, bind_assoc]
  congr 1
  funext status
  cases status <;> rfl

/-- The statement inserts nothing, so every failure is one of its stage. -/
lemma refusal_eq (hst : st.inserted? = none) (hstage : st.stage = stage) (x : Failure) :
    Error.database stage = st.refusal x := by
  rw [Statement.refusal, hst, hstage]

/-- What is made of the first row comes after it was found and read. -/
lemma fetchFirst_bind (read : List Value → Option β) (f : Option β → Operation α) :
    fetchFirst st stage read >>= f = send st (fun _ => .database stage) >>= fun a =>
      match a.first? with
      | none => f none
      | some row => match read row with
        | none => throw (.database stage)
        | some b => f (some b) := by
  rw [fetchFirst, bind_assoc]
  congr 1
  funext a
  rcases a with _ | _ | ⟨row, rows⟩
  · rfl
  · rfl
  · simp only [Answer.first?]
    cases read row <;> rfl

/-- A row that must be there. -/
lemma accounts_fetchOne {read : List Value → Option β} {f : Option β → Operation α}
    (hst : st.inserted? = none) (hstage : st.stage = stage)
    (hdecodes : ∀ a, st.decodes a = (a.first?.bind read).isSome)
    (hclear : ∀ a, st.payloads a = []) (hf : f none = throw (.database stage))
    (hsome : ∀ b, (f (some b)).Accounts due out) :
    (fetchFirst st stage read >>= f).Accounts due out := by
  rw [fetchFirst_bind]
  refine accounts_send (refusal_eq hst hstage) (fun a hbad => ?_) fun a hgood => ?_
  · rw [hdecodes, Option.isSome_eq_false_iff, Option.isNone_iff_eq_none] at hbad
    cases hfirst : a.first? with
    | none => rw [hstage, ← hf]
    | some row =>
      rw [hfirst, Option.bind_some] at hbad
      simp only [hbad, hstage]
  · simp only [hclear, List.not_mem_nil, false_and, exists_false, or_false]
    rw [hdecodes, Option.isSome_iff_exists] at hgood
    obtain ⟨b, hb⟩ := hgood
    obtain ⟨row, hfirst, hrow⟩ := Option.bind_eq_some_iff.mp hb
    simp only [hfirst, hrow]
    exact hsome b

/-- What the statements are that search for a payload. -/
lemma searches {e : Entity} (hst : st.payload? = some (0, e)) :
    st.inserted? = none
      ∧ (∀ a, st.decodes a = a.first?.all fun row => (readPayload? row).isSome)
      ∧ ∀ a, st.payloads a = (a.first?.bind readPayload?).toList.map fun text => (e, text) := by
  cases st with
  | searchNote p i =>
    cases hst
    exact ⟨rfl, fun _ => rfl, fun _ => rfl⟩
  | searchOccurrence p i =>
    cases hst
    exact ⟨rfl, fun _ => rfl, fun _ => rfl⟩
  | _ => cases hst

/-- A payload that is searched for. -/
lemma accounts_search {e : Entity} {f : Option String → Operation α}
    (hst : st.payload? = some (0, e)) (hstage : st.stage = stage)
    (hnone : (f none).Accounts Clear out)
    (hsome : ∀ text, (f (some text)).Accounts (fun k => k = e ∧ e.reads text = false) out) :
    (guarded (fetchFirst st stage readPayload?) >>= f).Accounts Clear out := by
  obtain ⟨hinserted, hdecodes, hpayloads⟩ := searches hst
  rw [guarded_bind, fetchFirst_bind]
  refine accounts_guarded (accounts_send (refusal_eq hinserted hstage) (fun a hbad => ?_)
    fun a hgood => ?_)
  · rw [hdecodes] at hbad
    cases hfirst : a.first? with
    | none => simp [hfirst] at hbad
    | some row =>
      obtain hrow : readPayload? row = none := by simpa [hfirst] using hbad
      simp only [hrow, hstage]
  · rw [hdecodes] at hgood
    rw [hpayloads]
    cases hfirst : a.first? with
    | none => simpa using hnone
    | some row =>
      obtain ⟨text, htext⟩ : ∃ text, readPayload? row = some text := by
        simpa [hfirst, Option.isSome_iff_exists] using hgood
      have hdue : ∀ k, (Clear k ∨ ∃ text', (k, text') ∈ [(e, text)] ∧ k.reads text' = false)
          ↔ k = e ∧ e.reads text = false := by
        intro k
        constructor
        · rintro (h | ⟨text', hmem, hreads⟩)
          · exact h.elim
          · cases List.mem_singleton.mp hmem
            exact ⟨rfl, hreads⟩
        · rintro ⟨rfl, hreads⟩
          exact .inr ⟨text, List.mem_singleton_self _, hreads⟩
      simp only [Option.bind_some, htext, Option.toList_some, List.map_cons, List.map_nil, hdue]
      exact hsome text

lemma mapM_eq_filterMap {γ : Type} {read : γ → Option β} {cs : List γ}
    (h : cs.all (fun c => (read c).isSome) = true) : cs.mapM read = some (cs.filterMap read) := by
  induction cs with
  | nil => rfl
  | cons c cs ih =>
    rw [List.all_cons, Bool.and_eq_true, Option.isSome_iff_exists] at h
    obtain ⟨⟨b, hb⟩, hrest⟩ := h
    rw [List.mapM_cons, hb, ih hrest, List.filterMap_cons_some hb]
    rfl

lemma mapM_eq_none {γ : Type} {read : γ → Option β} {cs : List γ}
    (h : cs.all (fun c => (read c).isSome) = false) : cs.mapM read = none := by
  induction cs with
  | nil => cases h
  | cons c cs ih =>
    rw [List.mapM_cons]
    cases hc : read c with
    | none => rfl
    | some b =>
      rw [List.all_cons, hc, Option.isSome_some, Bool.true_and] at h
      rw [ih h]
      rfl

/-- Rows of which all must be read. -/
lemma accounts_fetch {read : List Value → Option β} {out : List β → Entity → Prop}
    (hst : st.inserted? = none) (hstage : st.stage = stage)
    (hdecodes : ∀ found, st.decodes (.rows found) = found.all fun row => (read row).isSome)
    (haffected : ∀ n, st.decodes (.affected n) = true ∧ st.payloads (.affected n) = [])
    (hout : ∀ found k text, (k, text) ∈ st.payloads (.rows found) → k.reads text = false →
      out (found.filterMap read) k) :
    (fetch st stage read).Accounts Clear out := by
  refine accounts_send (refusal_eq hst hstage) (fun a hbad => ?_) fun a hgood => ?_
  · cases a with
    | affected n =>
      rw [(haffected n).1] at hbad
      cases hbad
    | rows found =>
      rw [hdecodes] at hbad
      simp only [mapM_eq_none hbad, hstage]
      rfl
  · cases a with
    | affected n =>
      rw [(haffected n).2]
      exact accounts_pure (by simp)
    | rows found =>
      rw [hdecodes] at hgood
      simp only [mapM_eq_filterMap hgood]
      refine accounts_pure ?_
      rintro k (h | ⟨text, hmem, hreads⟩)
      · exact h.elim
      · exact hout found k text hmem hreads

end

/-! ### Single records -/

/-- The operation answers for all that it is told and reads. -/
def Operation.IsAccountable (op : Operation α) : Prop := op.Accounts Clear fun _ => Clear

lemma Operation.IsAccountable.map {op : Operation α} (h : op.IsAccountable) (g : α → β) :
    (g <$> op).IsAccountable := by
  rw [map_eq_pure_bind]
  exact h.bind fun _ => accounts_pure fun _ => id

lemma isAccountable_throw {err : Error} (h : err.isOwn) :
    (throw err : Operation α).IsAccountable :=
  accounts_throw h fun _ => False.elim

lemma isAccountable_pure (a : α) : (pure a : Operation α).IsAccountable :=
  accounts_pure fun _ => id

/-- A statement that touches rows, and what is made of their number. -/
lemma isAccountable_execute {st : Statement} {failure : Failure → Error} {f : ℕ → Operation α}
    (hfailure : ∀ x, failure x = st.refusal x) (hdecodes : ∀ a, st.decodes a = true)
    (hclear : ∀ a, st.payloads a = []) (hf : ∀ count, (f count).IsAccountable) :
    (guarded (execute st failure) >>= f).IsAccountable :=
  Accounts.bind (accounts_guarded (accounts_execute hfailure hdecodes hclear)) hf

lemma isAccountable_create {st : Statement} {failure : Failure → Error} (a : α)
    (hfailure : ∀ x, failure x = st.refusal x) (hdecodes : ∀ a, st.decodes a = true)
    (hclear : ∀ a, st.payloads a = []) :
    (discard (guarded (execute st failure)) >>= fun _ => pure a).IsAccountable := by
  rw [discard_bind]
  exact isAccountable_execute hfailure hdecodes hclear fun _ => isAccountable_pure a

/-- What must be there is there, or is missed. -/
lemma isAccountable_missing {count : ℕ} {e : Entity} {name : String} {op : Operation α}
    (h : op.IsAccountable) :
    Operation.IsAccountable (if count = 0 then throw (.missing e name) else op) :=
  accounts_ite (isAccountable_throw rfl) h

lemma accounts_read {e : Entity} {read : String → Except Error α} (h : e.IsReader read)
    (text : String) :
    (fromExcept (read text)).Accounts (fun k => k = e ∧ e.reads text = false) fun _ => Clear := by
  rcases h text with ⟨⟨a, hread⟩, htext⟩ | ⟨hread, -⟩
  · rw [hread, htext]
    exact accounts_pure (by simp)
  · rw [hread]
    exact accounts_throw rfl fun k hk => .inl (hk.1 ▸ rfl)

lemma isAccountable_getNote (p i : String) : (getNote p i).IsAccountable :=
  accounts_search rfl rfl (isAccountable_throw rfl) fun text =>
    (accounts_read isReader_note text).bind fun _ => isAccountable_pure _

lemma isAccountable_getOccurrence (p i : String) : (getOccurrence p i).IsAccountable :=
  accounts_search rfl rfl (isAccountable_throw rfl) fun text =>
    (accounts_read isReader_occurrence text).bind fun _ => isAccountable_pure _

lemma isAccountable_createNote (p i : String) (n : Note) : (createNote p i n).IsAccountable :=
  accounts_ask (by simp) fun _ =>
    isAccountable_create _ (fun _ => rfl) (fun _ => rfl) fun _ => rfl

lemma isAccountable_noteReference (o : Occurrence) :
    (fromExcept (noteReference o)).IsAccountable := by
  rcases noteReference_cases o with ⟨ref, href, -⟩ | ⟨href, -⟩
  · rw [href]
    exact isAccountable_pure ref
  · rw [href]
    exact isAccountable_throw rfl

lemma isAccountable_createOccurrence (p : String) (o : Occurrence) :
    (createOccurrence p o).IsAccountable :=
  (isAccountable_noteReference o).bind fun _ => accounts_ask (by simp) fun _ =>
    accounts_ask (by simp) fun _ =>
      isAccountable_create _ (fun _ => rfl) (fun _ => rfl) fun _ => rfl

lemma isAccountable_action (a : Action) : a.operation.IsAccountable := by
  cases a with
  | createProject id p =>
    exact (isAccountable_create _ (fun _ => rfl) (fun _ => rfl) fun _ => rfl).map _
  | getProject id =>
    refine IsAccountable.map ?_ _
    rw [getProject, guarded_bind]
    refine accounts_guarded
      (accounts_fetchOne rfl rfl (fun _ => rfl) (fun _ => rfl) rfl fun found => ?_)
    cases found
    · exact isAccountable_throw rfl
    · exact isAccountable_pure _
  | deleteProject id =>
    exact (isAccountable_execute (fun _ => rfl) (fun _ => rfl) (fun _ => rfl) fun _ =>
      isAccountable_missing (isAccountable_pure _)).map _
  | createNote p i n => exact (isAccountable_createNote p i n).map _
  | getNote p i => exact (isAccountable_getNote p i).map _
  | updateNote p i n =>
    refine IsAccountable.map (accounts_ask (by simp) fun _ => ?_) _
    exact isAccountable_execute (fun _ => rfl) (fun _ => rfl) (fun _ => rfl) fun _ =>
      isAccountable_missing (isAccountable_pure _)
  | deleteNote p i =>
    exact (isAccountable_execute (fun _ => rfl) (fun _ => rfl) (fun _ => rfl) fun _ =>
      isAccountable_missing (isAccountable_pure _)).map _
  | createOccurrence p o => exact (isAccountable_createOccurrence p o).map _
  | getOccurrence p i => exact (isAccountable_getOccurrence p i).map _
  | updateOccurrence p i o =>
    refine IsAccountable.map ((isAccountable_noteReference o).bind fun _ =>
      accounts_ask (by simp) fun _ => ?_) _
    exact isAccountable_execute (fun _ => rfl) (fun _ => rfl) (fun _ => rfl) fun _ =>
      isAccountable_missing (isAccountable_pure _)
  | deleteOccurrence p i =>
    exact (isAccountable_execute (fun _ => rfl) (fun _ => rfl) (fun _ => rfl) fun _ =>
      isAccountable_missing (isAccountable_pure _)).map _

/-! ### Listings -/

section

variable {s : Scope} {predicate : Option String} {after limit : Int}

/-- Some of the payloads of a page of the scope are none. -/
def Scope.Garbled (s : Scope) (texts : List String) (k : Entity) : Prop :=
  k = s.entity ∧ ∃ text ∈ texts, k.reads text = false

lemma accounts_fetchPage :
    (fetchPage s predicate after limit).Accounts Clear fun rows =>
      s.Garbled (rows.map Prod.snd) := by
  refine accounts_fetch rfl rfl (fun _ => rfl) (fun _ => ⟨rfl, rfl⟩) ?_
  intro found k text hmem hreads
  obtain ⟨x, hx, heq⟩ := List.mem_map.mp hmem
  cases heq
  exact ⟨rfl, x.2, List.mem_map_of_mem hx, hreads⟩

lemma accounts_fetchMax {due : Entity → Prop} :
    (fetchMax s predicate).Accounts due fun _ => due :=
  accounts_fetchOne rfl rfl (fun _ => rfl) (fun _ => rfl) rfl fun _ =>
    accounts_pure fun _ => id

lemma accounts_readPage : (readPage s predicate after limit).Accounts Clear fun x =>
    s.Garbled (x.1.map Prod.snd) :=
  accounts_fetchPage.bind fun _ => accounts_ite (accounts_pure fun _ => id)
    (accounts_fetchMax.bind fun _ => accounts_pure fun _ => id)

/-- A statement around the reads. -/
lemma accounts_mark {st : Statement} {stage : Stage} {due : Entity → Prop}
    {out : α → Entity → Prop} {f : PUnit → Operation α}
    (hst : st ∈ [Statement.begin, .snapshot, .commit]) (hstage : st.stage = stage)
    (h : (f ⟨⟩).Accounts due out) :
    (discard (execute st fun _ => .database stage) >>= f).Accounts due out := by
  rw [discard_bind]
  simp only [List.mem_cons, List.not_mem_nil, or_false] at hst
  rcases hst with rfl | rfl | rfl
  all_goals
    exact (accounts_execute (refusal_eq rfl hstage) (fun _ => rfl) fun _ => rfl).bind fun _ => h

lemma accounts_readSnapshot : (readSnapshot s predicate after limit).Accounts Clear fun x =>
    s.Garbled (x.1.map Prod.snd) := by
  refine accounts_mark (by simp) rfl (accounts_mark (by simp) rfl ?_)
  exact accounts_readPage.bind fun x => accounts_mark (by simp) rfl (accounts_pure fun _ => id)

lemma accounts_rows (store : Store) :
    Accounts Clear (fun x => s.Garbled (x.1.map Prod.snd))
      ((if store.options.snapshotListing then readSnapshot else readPage) s predicate after
        limit) := by
  split
  · exact accounts_readSnapshot
  · exact accounts_readPage

lemma accounts_nextToken {due : Entity → Prop} (store : Store) (s : Scope) (lastId : Int) :
    (store.nextToken s lastId).Accounts due fun _ => due := by
  refine accounts_ask (by simp) fun now => accounts_ask (by simp) fun start => ?_
  split
  · exact accounts_pure fun _ => id
  · exact accounts_throw rfl fun _ _ => .inr ⟨s, rfl⟩

lemma isAccountable_predicate (store : Store) (anchor filter : String) :
    (fromExcept (store.predicate? anchor filter)).IsAccountable := by
  refine accounts_fromExcept (fun _ _ _ => id) fun err herr => ⟨?_, fun _ => False.elim⟩
  unfold predicate? at herr
  split at herr
  · cases herr
  · split at herr
    · cases herr
    · split at herr
      · cases herr
        rfl
      · cases herr

lemma accounts_list (store : Store) (s : Scope) (filter token : String) (size : Int) :
    (store.list s filter token size).Accounts Clear fun page => s.Garbled page.rows := by
  refine (isAccountable_predicate store s.anchor filter).bind fun predicate => ?_
  refine accounts_ask (by simp) fun now => ?_
  refine (accounts_guarded (accounts_rows store)).bind ?_
  rintro ⟨rows, maxId⟩
  simp only
  cases hlast : rows.getLast? with
  | none =>
    rw [List.getLast?_eq_none_iff.mp hlast]
    exact accounts_pure fun _ => id
  | some x =>
    simp only
    split
    · exact (accounts_nextToken store s x.1).bind fun _ => accounts_pure fun _ => id
    · rw [pure_bind]
      exact accounts_pure fun _ => id

end

lemma accounts_readAll {e : Entity} {read : String → Except Error α} (h : e.IsReader read)
    {s : Scope} (hs : s.entity = e) (texts : List String) :
    (fromExcept (texts.mapM read)).Accounts (s.Garbled texts) fun _ => Clear := by
  rcases h.mapM texts with ⟨⟨as, hok⟩, hall⟩ | ⟨herror, -⟩
  · rw [hok]
    refine accounts_pure ?_
    rintro k ⟨rfl, text, hmem, hreads⟩
    rw [hs, hall text hmem] at hreads
    cases hreads
  · rw [herror]
    exact accounts_throw rfl fun k hk => .inl (by rw [hk.1, hs])

/-- A page of which the payloads are read. -/
lemma isAccountable_page {e : Entity} {read : String → Except Error α} (h : e.IsReader read)
    {store : Store} {s : Scope} (hs : s.entity = e) (filter token : String) (size : Int) :
    Operation.IsAccountable (do
      let page ← store.list s filter token size
      let as ← fromExcept (page.rows.mapM read)
      return (as, page.token)) := by
  exact (accounts_list store s filter token size).bind fun page =>
    (accounts_readAll h hs page.rows).bind fun _ => isAccountable_pure _

lemma isAccountable_call (store : Store) (filter token : String) (size : Int) (c : Call) :
    (c.operation store filter token size).IsAccountable := by
  cases c with
  | projects =>
    refine IsAccountable.map ((accounts_list store .projects filter token size).bind
      fun page => accounts_pure ?_) _
    rintro k ⟨rfl, text, -, hreads⟩
    cases hreads
  | notes p => exact (isAccountable_page isReader_note rfl filter token size).map _
  | occurrences p => exact (isAccountable_page isReader_occurrence rfl filter token size).map _
  | noteOccurrences p i =>
    refine IsAccountable.map ?_ _
    rw [listNoteOccurrences, discard_bind]
    exact (isAccountable_getNote p i).bind fun _ =>
      isAccountable_page isReader_occurrence rfl filter token size
  | summary p =>
    refine IsAccountable.map ((isAccountable_predicate store _ filter).bind fun predicate => ?_) _
    refine Accounts.bind (accounts_guarded (accounts_fetch rfl rfl (fun _ => rfl)
      (fun _ => ⟨rfl, rfl⟩) ?_)) fun _ => isAccountable_pure _
    intro found k text hmem
    cases hmem

end Catalog.Store
