import Catalog.Proofs.Store.Heeding
import Catalog.Proofs.Store.Task

/-!
How tasks heed their context. A listing is one run, the note of an occurrence and the occurrences
of a note take two, and a batch one for each item; an item that is given up ends its batch, which
passes over all other failures. A task is refused for its arguments, or has nothing to send, or
waits for its context.
-/

namespace Catalog.Store

open Operation Record

variable {α β : Type}

/-- How an operation as a whole may end: anyhow behind its last run, and with the interruption
where it was given up. -/
def Ends : Phase → Except Error α → Prop
  | .ended, _ => True
  | .stopped i, r => r = .error (.interrupted i)
  | .waiting, _ | .working, _ => False

lemma ends_awaits : Awaits (Ends (α := α)) Phase.IsFree where
  stop _ := rfl
  ok _ := ⟨.ended, .inl rfl, trivial⟩
  error _ := ⟨.ended, .inl rfl, trivial⟩

lemma Operation.IsRun.ends {op : Operation α} (h : IsRun op) : op.Heeds .waiting Ends :=
  h _ ends_awaits

/-- What is done with the result of an operation, without a question, changes nothing. -/
lemma Operation.Heeds.settle {op : Operation α} {ph : Phase} (h : op.Heeds ph Ends)
    {f : α → Operation β} (hf : ∀ a, IsSettled (f a)) : (op >>= f).Heeds ph Ends := by
  refine Heeds.bind (h.mono ?_)
  rintro (_ | _ | _ | i) r hr
  · cases r with
    | error e => trivial
    | ok a =>
      obtain ⟨r', hr'⟩ := hf a
      rw [Behind, Heeds, hr']
      trivial
  · exact hr.elim
  · exact hr.elim
  · subst hr
    exact rfl

lemma Operation.Heeds.map {op : Operation α} {ph : Phase} (h : op.Heeds ph Ends) (g : α → β) :
    (g <$> op).Heeds ph Ends := by
  rw [map_eq_pure_bind]
  exact h.settle fun _ => ⟨_, rfl⟩

/-! ### Listings -/

section

variable {s : Scope} {predicate : Option String} {after limit : Int}

/-- What follows a read may belong to its run. -/
abbrev Phase.IsInside (ph : Phase) : Prop := ph.IsFree ∨ ph = .working

lemma heeds_fetchMax {φ : Phase → Except Error Int → Prop} (h : Awaits φ Phase.IsInside) :
    (fetchMax s predicate).Heeds .working φ := by
  have hleads : ∀ {ph : Phase}, ph.IsInside → (Statement.maxId s predicate).Leads True ph :=
    fun hph => hph.imp_right fun hw => ⟨hw, rfl, trivial⟩
  refine Heeds.bind (heeds_fetchFirst ⟨h.stop, fun found => ?_, h.error⟩)
  cases found with
  | none =>
    obtain ⟨ph, hph, he⟩ := h.error (.database .maxId)
    exact ⟨ph, .inl hph, he⟩
  | some id =>
    obtain ⟨ph, hph, hid⟩ := h.ok id
    exact ⟨ph, hleads hph, hid⟩

lemma heeds_readPage {φ : Phase → Except Error (List (Int × String) × Int) → Prop}
    (h : Awaits φ Phase.IsInside) : (readPage s predicate after limit).Heeds .working φ := by
  have hleads : ∀ {ph : Phase}, ph.IsInside →
      (Statement.page s predicate after limit).Leads True ph :=
    fun hph => hph.imp_right fun hw => ⟨hw, rfl, trivial⟩
  refine Heeds.bind (heeds_fetch ⟨h.stop, fun rows => ?_, h.error⟩)
  by_cases hrows : rows.isEmpty
  · obtain ⟨ph, hph, hok⟩ := h.ok (rows, 0)
    refine ⟨ph, hleads hph, ?_⟩
    rw [Behind, if_pos hrows]
    exact hok
  · refine ⟨.working, hleads (.inr rfl), ?_⟩
    rw [Behind, if_neg hrows]
    exact Heeds.bind (heeds_fetchMax ⟨h.stop, fun id => h.ok (rows, id), h.error⟩)

lemma heeds_readSnapshot {φ : Phase → Except Error (List (Int × String) × Int) → Prop}
    (h : Awaits φ Phase.IsFree) : (readSnapshot s predicate after limit).Heeds .working φ := by
  rw [readSnapshot, discard_bind]
  refine Heeds.bind (heeds_execute ⟨h.stop, fun _ => ⟨.working, .inr ⟨rfl, rfl, trivial⟩, ?_⟩,
    h.error⟩)
  rw [Behind, discard_bind]
  refine Heeds.bind (heeds_execute ⟨h.stop, fun _ => ⟨.working, .inr ⟨rfl, rfl, trivial⟩, ?_⟩,
    h.error⟩)
  refine Heeds.bind (heeds_readPage ⟨h.stop, fun result => ⟨.working, .inr rfl, ?_⟩, h.error⟩)
  rw [Behind, discard_bind]
  exact Heeds.bind (heeds_execute (Awaits.last ⟨h.stop, fun _ => h.ok result, h.error⟩))

lemma heeds_nextToken (store : Store) (s : Scope) (id : Int) :
    (store.nextToken s id).Heeds .ended Ends := by
  refine Heeds.bind (heeds_ask (.inl rfl) (by simp) fun now => ?_)
  refine Heeds.bind (heeds_ask (.inl rfl) (by simp) fun start => ?_)
  rw [Behind]
  split <;> trivial

/-- Reads in one run, behind which nothing is sent any more. -/
lemma heeds_reads (store : Store) {f : List (Int × String) × Int → Operation β}
    (hf : ∀ x, (f x).Heeds .ended Ends) :
    (guarded ((if store.options.snapshotListing then readSnapshot else readPage) s predicate after
      limit) >>= f).Heeds .waiting Ends := by
  have htail : Awaits (Behind f Ends) Phase.IsFree :=
    ⟨fun _ => rfl, fun x => ⟨.ended, .inl rfl, hf x⟩, fun _ => ⟨.ended, .inl rfl, trivial⟩⟩
  refine Heeds.bind (heeds_guarded htail.stop ?_)
  split
  · exact heeds_readSnapshot htail
  · exact heeds_readPage ⟨htail.stop, fun x => (htail.ok x).imp fun _ hx => ⟨.inl hx.1, hx.2⟩,
      htail.error⟩

/-- A listing checks its context before the first of its reads. -/
lemma heeds_list {store : Store} {filter token : String} {size : Int}
    (hp : store.predicate? s.anchor filter = .ok predicate) :
    (store.list s filter token size).Heeds .waiting Ends := by
  rw [list, hp, fromExcept_ok_bind]
  refine Heeds.bind (heeds_ask (.inr rfl) (by simp) fun now => ?_)
  -- behind the reads only a token is made
  refine heeds_reads store fun x => ?_
  split
  split
  · trivial
  · split
    · exact (heeds_nextToken store s _).settle fun _ => ⟨_, rfl⟩
    · trivial

end

/-! ### Batches -/

lemma heeds_attempt {op : Operation α} {ph : Phase}
    {φ : Phase → Except Error (Except Error α) → Prop}
    (h : op.Heeds ph fun ph r => φ ph (.ok r)) : (attempt op).Heeds ph φ :=
  Program.Heeds.bind h fun _ _ hr => hr

/-- The item is refused before anything is asked. -/
def IsRefused (op : Operation α) : Prop :=
  ∃ e : Error, op.run = .done (.error e) ∧ e.code.isInterruption = false

lemma keepCreated_cons (op : Operation α) (ops : List (Operation α)) :
    keepCreated (op :: ops) = attempt op >>= fun r => match r with
      | .ok v => (v :: ·) <$> keepCreated ops
      | .error e => if e.code.isInterruption then throw e else keepCreated ops := rfl

lemma IsRefused.keepCreated_cons {op : Operation α} (h : IsRefused op)
    (ops : List (Operation α)) : (keepCreated (op :: ops)).run = (keepCreated ops).run := by
  obtain ⟨e, hrun, he⟩ := h
  rw [Store.keepCreated_cons, run_bind_eq, attempt, hrun]
  simp only [ExceptT.run_mk, Program.bind_done, he, Bool.false_eq_true, if_false]

lemma run_keepCreated_of_refused {ops : List (Operation α)} (h : ∀ op ∈ ops, IsRefused op) :
    (keepCreated ops).run = .done (.ok []) := by
  induction ops with
  | nil => rfl
  | cons op ops ih =>
    rw [(h op List.mem_cons_self).keepCreated_cons]
    exact ih fun op' hop => h op' (List.mem_cons_of_mem _ hop)

/-- A batch waits if one of its items does; an item that is given up ends it. -/
lemma heeds_keepCreated {ops : List (Operation α)} (h : ∀ op ∈ ops, IsRun op ∨ IsRefused op) :
    (∀ op ∈ ops, IsRefused op) ∨ (keepCreated ops).Heeds .waiting Ends := by
  induction ops with
  | nil => exact .inl (by simp)
  | cons op ops ih =>
    have hrest := ih fun op' hop => h op' (List.mem_cons_of_mem _ hop)
    rcases h op List.mem_cons_self with hop | hop
    · right
      have hfree : ∃ ph : Phase, ph.IsFree ∧ (keepCreated ops).Heeds ph Ends := by
        rcases hrest with hrefused | hwaits
        · refine ⟨.ended, .inl rfl, ?_⟩
          rw [Heeds, run_keepCreated_of_refused hrefused]
          trivial
        · exact ⟨.waiting, .inr rfl, hwaits⟩
      obtain ⟨ph, hph, hheeds⟩ := hfree
      rw [keepCreated_cons]
      refine Heeds.bind (heeds_attempt (hop _ ⟨fun i => ?_, fun v => ?_, fun e => ?_⟩))
      · -- the interruption of an item is no failure to be passed over
        cases i <;> exact rfl
      · exact ⟨ph, hph, hheeds.map _⟩
      · cases he : e.code.isInterruption with
        | true => exact ⟨.ended, .inl rfl, by simp [Behind, he]; trivial⟩
        | false => exact ⟨ph, hph, by simpa [Behind, he] using hheeds⟩
    · refine hrest.imp (fun hrefused => ?_) fun hwaits => ?_
      · rintro op' hop'
        rcases List.mem_cons.mp hop' with rfl | hop'
        · exact hop
        · exact hrefused op' hop'
      · rw [Heeds, hop.keepCreated_cons]
        exact hwaits

/-! ### Tasks -/

/-- A reference to a note is read, or refused for the name. -/
lemma noteReference_cases (o : Occurrence) :
    (∃ ref, noteReference o = .ok ref ∧ Task.isMalformed o = false)
      ∨ noteReference o = .error .invalidNoteName ∧ Task.isMalformed o = true := by
  unfold Task.isMalformed noteReference
  cases Name.parseChild .note o.noteName with
  | ok ref => exact .inl ⟨ref, rfl, rfl⟩
  | error e => exact .inr ⟨rfl, rfl⟩

lemma isRefused_of_malformed {p : String} {o : Occurrence} (h : Task.isMalformed o = true) :
    IsRefused (createOccurrence p o) := by
  rcases noteReference_cases o with ⟨ref, -, hok⟩ | ⟨href, -⟩
  · rw [h] at hok
    cases hok
  · refine ⟨.invalidNoteName, ?_, rfl⟩
    rw [createOccurrence, href]
    rfl

lemma Operation.IsRun.not_isRefused {op : Operation α} (h : IsRun op) : ¬ IsRefused op := by
  rintro ⟨e, hrun, -⟩
  have hends := h.ends
  rw [Heeds, hrun] at hends
  exact hends.elim

lemma heeds_createNotes (p : String) {ns : List (String × Note)} (h : ns ≠ []) :
    (createNotes p ns).Heeds .waiting Ends := by
  have hruns : ∀ op ∈ (Json.sortMembers ns).map fun m => createNote p m.1 m.2, IsRun op := by
    intro op hop
    obtain ⟨m, -, rfl⟩ := List.mem_map.mp hop
    exact isRun_createNote p m.1 m.2
  refine (heeds_keepCreated fun op hop => .inl (hruns op hop)).resolve_left fun hrefused => ?_
  obtain ⟨m, ms, hsorted⟩ := List.exists_cons_of_ne_nil (Json.sortMembers_ne_nil h)
  have hmem : createNote p m.1 m.2
      ∈ (Json.sortMembers ns).map fun m => createNote p m.1 m.2 := by
    rw [hsorted]
    exact List.mem_cons_self
  exact (hruns _ hmem).not_isRefused (hrefused _ hmem)

lemma heeds_createOccurrences (p : String) {os : List Occurrence}
    (h : os.all Task.isMalformed = false) : (createOccurrences p os).Heeds .waiting Ends := by
  refine (heeds_keepCreated ?_).resolve_left fun hrefused => ?_
  · intro op hop
    obtain ⟨o, -, rfl⟩ := List.mem_map.mp hop
    rcases noteReference_cases o with ⟨ref, href, -⟩ | ⟨-, hmalformed⟩
    · exact .inl (isRun_createOccurrence p href)
    · exact .inr (isRefused_of_malformed hmalformed)
  · obtain ⟨o, ho, hsound⟩ := List.all_eq_false.mp h
    rcases noteReference_cases o with ⟨ref, href, -⟩ | ⟨-, hmalformed⟩
    · exact (isRun_createOccurrence p href).not_isRefused (hrefused _ (List.mem_map_of_mem ho))
    · exact hsound hmalformed

lemma heeds_getOccurrenceNote (p i : String) : (getOccurrenceNote p i).Heeds .waiting Ends := by
  refine Heeds.bind (isRun_getOccurrence p i _ ⟨fun _ => rfl, fun o => ?_, fun _ =>
    ⟨.ended, .inl rfl, trivial⟩⟩)
  rcases noteReference_cases o with ⟨ref, href, -⟩ | ⟨href, -⟩
  · refine ⟨.waiting, .inr rfl, ?_⟩
    rw [Behind, href, fromExcept_ok_bind]
    exact (isRun_getNote _ _).ends
  · refine ⟨.ended, .inl rfl, ?_⟩
    rw [Behind, href]
    trivial

lemma predicate?_of_filterRefusal? {c : Call} {store : Store} {filter : String} :
    (∀ e, Task.filterRefusal? c store filter = some e → store.predicate? c.anchor filter = .error e)
      ∧ (Task.filterRefusal? c store filter = none →
        ∃ predicate, store.predicate? c.anchor filter = .ok predicate) := by
  unfold Task.filterRefusal? predicate?
  cases Text.isBlankText filter <;> cases Filter.compile c.anchor filter <;>
    cases store.options.strictFilters <;> simp

lemma heeds_listOccurrencesIn {store : Store} {s : Scope} {filter token : String} {size : Int}
    {predicate : Option String} (hp : store.predicate? s.anchor filter = .ok predicate) :
    (store.listOccurrencesIn s filter token size).Heeds .waiting Ends :=
  (heeds_list hp).settle fun _ => (isSettled_fromExcept _).bind fun _ => ⟨_, rfl⟩

/-- The note is looked for before the filter is. -/
lemma heeds_listNoteOccurrences (store : Store) (p i filter token : String) (size : Int) :
    (store.listNoteOccurrences p i filter token size).Heeds .waiting Ends := by
  rw [listNoteOccurrences, discard_bind]
  refine Heeds.bind (isRun_getNote p i _ ⟨fun _ => rfl, fun _ => ?_, fun _ =>
    ⟨.ended, .inl rfl, trivial⟩⟩)
  cases hp : store.predicate? (Scope.noteOccurrences p i).anchor filter with
  | ok predicate => exact ⟨.waiting, .inr rfl, heeds_listOccurrencesIn hp⟩
  | error e =>
    refine ⟨.ended, .inl rfl, ?_⟩
    rw [Behind, Heeds, listOccurrencesIn, list, hp]
    trivial

/-- A task whose filter was not refused waits for its context. -/
lemma heeds_call {store : Store} {c : Call} {filter : String} (token : String) (size : Int)
    (h : (Task.call c store filter token size).refusal? = none) :
    (c.operation store filter token size).Heeds .waiting Ends := by
  cases c with
  | projects =>
    obtain ⟨predicate, hp⟩ := predicate?_of_filterRefusal?.2 h
    exact ((heeds_list hp).settle fun _ => ⟨_, rfl⟩).map _
  | notes p =>
    obtain ⟨predicate, hp⟩ := predicate?_of_filterRefusal?.2 h
    exact ((heeds_list hp).settle fun _ => (isSettled_fromExcept _).bind fun _ => ⟨_, rfl⟩).map _
  | occurrences p =>
    obtain ⟨predicate, hp⟩ := predicate?_of_filterRefusal?.2 h
    exact (heeds_listOccurrencesIn hp).map _
  | noteOccurrences p i => exact (heeds_listNoteOccurrences store p i filter token size).map _
  | summary p =>
    obtain ⟨predicate, hp⟩ := predicate?_of_filterRefusal?.2 h
    have hp' : store.predicate? Filter.payloadAnchor filter = .ok predicate := hp
    refine Heeds.map ?_ _
    rw [summarize, hp', fromExcept_ok_bind]
    exact ((isRun_fetch _ _ _).bind fun _ => ⟨_, rfl⟩).ends

lemma run_list_of_error {store : Store} (s : Scope) {filter : String} (token : String) (size : Int)
    {e : Error} (hp : store.predicate? s.anchor filter = .error e) :
    (store.list s filter token size).run = .done (.error e) := by
  rw [list, hp]
  rfl

lemma run_call_of_refusal? {store : Store} {c : Call} {filter : String} (token : String)
    (size : Int) {e : Error} (h : (Task.call c store filter token size).refusal? = some e) :
    (c.operation store filter token size).run = .done (.error e) := by
  cases c with
  | projects =>
    have hlist := run_list_of_error .projects token size (predicate?_of_filterRefusal?.1 e h)
    rw [Call.operation, map_eq_pure_bind, run_bind_eq, listProjects, run_bind_eq, hlist]
    rfl
  | notes p =>
    have hlist := run_list_of_error (.notes p) token size (predicate?_of_filterRefusal?.1 e h)
    rw [Call.operation, map_eq_pure_bind, run_bind_eq, listNotes, run_bind_eq, hlist]
    rfl
  | occurrences p =>
    have hlist := run_list_of_error (.occurrences p) token size (predicate?_of_filterRefusal?.1 e h)
    rw [Call.operation, map_eq_pure_bind, run_bind_eq, listOccurrences, listOccurrencesIn,
      run_bind_eq, hlist]
    rfl
  | noteOccurrences p i => cases h
  | summary p =>
    have hp : store.predicate? Filter.payloadAnchor filter = .error e :=
      predicate?_of_filterRefusal?.1 e h
    rw [Call.operation, summarize, hp]
    rfl

lemma Action.cases_operation (a : Action) :
    (∃ e, (Task.single a).refusal? = some e ∧ (Task.single a).operation.run = .done (.error e))
      ∨ ((Task.single a).refusal? = none ∧ (Task.single a).idle? = none
        ∧ (Task.single a).operation.Heeds .waiting Ends) := by
  cases a with
  | createProject id p => exact .inr ⟨rfl, rfl, ((isRun_createProject id p).ends.map _).map _⟩
  | getProject id => exact .inr ⟨rfl, rfl, ((isRun_getProject id).ends.map _).map _⟩
  | deleteProject id => exact .inr ⟨rfl, rfl, ((isRun_deleteProject id).ends.map _).map _⟩
  | createNote p i n => exact .inr ⟨rfl, rfl, ((isRun_createNote p i n).ends.map _).map _⟩
  | getNote p i => exact .inr ⟨rfl, rfl, ((isRun_getNote p i).ends.map _).map _⟩
  | updateNote p i n => exact .inr ⟨rfl, rfl, ((isRun_updateNote p i n).ends.map _).map _⟩
  | deleteNote p i => exact .inr ⟨rfl, rfl, ((isRun_deleteNote p i).ends.map _).map _⟩
  | createOccurrence p o =>
    rcases noteReference_cases o with ⟨ref, href, hsound⟩ | ⟨href, hmalformed⟩
    · exact .inr ⟨by simp [Task.refusal?, hsound], rfl,
        ((isRun_createOccurrence p href).ends.map _).map _⟩
    · refine .inl ⟨.invalidNoteName, by simp [Task.refusal?, hmalformed], ?_⟩
      rw [Task.operation, Action.operation, Store.createOccurrence, href]
      rfl
  | getOccurrence p i => exact .inr ⟨rfl, rfl, ((isRun_getOccurrence p i).ends.map _).map _⟩
  | updateOccurrence p i o =>
    rcases noteReference_cases o with ⟨ref, href, hsound⟩ | ⟨href, hmalformed⟩
    · exact .inr ⟨by simp [Task.refusal?, hsound], rfl,
        ((isRun_updateOccurrence p i href).ends.map _).map _⟩
    · refine .inl ⟨.invalidNoteName, by simp [Task.refusal?, hmalformed], ?_⟩
      rw [Task.operation, Action.operation, Store.updateOccurrence, href]
      rfl
  | deleteOccurrence p i =>
    exact .inr ⟨rfl, rfl, ((isRun_deleteOccurrence p i).ends.map _).map _⟩

/-- A task is refused, or has nothing to send, or waits for its context. -/
lemma Task.cases_operation (t : Task) :
    (∃ e, t.refusal? = some e ∧ t.operation.run = .done (.error e))
      ∨ (∃ r, t.refusal? = none ∧ t.idle? = some r ∧ t.operation.run = .done (.ok r))
      ∨ (t.refusal? = none ∧ t.idle? = none ∧ t.operation.Heeds .waiting Ends) := by
  cases t with
  | single a => exact a.cases_operation.imp id .inr
  | createNotes p ns =>
    cases ns with
    | nil => exact .inr (.inl ⟨_, rfl, rfl, rfl⟩)
    | cons m ns =>
      exact .inr (.inr ⟨rfl, rfl, (heeds_createNotes p (List.cons_ne_nil m ns)).map _⟩)
  | createOccurrences p os =>
    cases hall : os.all isMalformed with
    | true =>
      refine .inr (.inl ⟨.occurrences [], rfl, by rw [idle?, if_pos hall], ?_⟩)
      have hrefused : ∀ op ∈ os.map (createOccurrence p), IsRefused op := by
        intro op hop
        obtain ⟨o, ho, rfl⟩ := List.mem_map.mp hop
        exact isRefused_of_malformed (List.all_eq_true.mp hall o ho)
      rw [operation, map_eq_pure_bind, run_bind_eq, Store.createOccurrences,
        run_keepCreated_of_refused hrefused]
      rfl
    | false =>
      refine .inr (.inr ⟨rfl, by rw [idle?, if_neg (by simp [hall])], ?_⟩)
      exact (heeds_createOccurrences p hall).map _
  | occurrenceNote p i => exact .inr (.inr ⟨rfl, rfl, (heeds_getOccurrenceNote p i).map _⟩)
  | call c store filter token size =>
    cases hrefusal : (call c store filter token size).refusal? with
    | none => exact .inr (.inr ⟨rfl, rfl, heeds_call token size hrefusal⟩)
    | some e => exact .inl ⟨e, rfl, run_call_of_refusal? token size hrefusal⟩

end Catalog.Store
