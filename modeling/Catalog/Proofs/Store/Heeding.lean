import Catalog.Proofs.Store.Conversation
import Catalog.Proofs.Store.Requests

/-!
How operations heed the context of their call. Statements are sent in runs, and before each run
the context is checked; once it tells that the call is given up, at a check or while a statement
is out, the operation ends with that interruption. Where no check is made any more, no statement
is sent any more.
-/

namespace Catalog.Store

variable {α β : Type}

/-- How far an operation is from its next statement. -/
inductive Phase
  /-- None will come. -/
  | ended
  /-- The context is checked first. -/
  | waiting
  /-- It was checked, or a statement of the same run was sent. -/
  | working
  /-- The call was given up. -/
  | stopped (i : Context.Interruption)
  deriving DecidableEq

/-- No run is going on. -/
def Phase.IsFree (ph : Phase) : Prop := ph = .ended ∨ ph = .waiting

/-- The statement may be followed by another one in its run. -/
def Statement.goesOn : Statement → Bool
  | begin | snapshot | page .. | maxId .. => true
  | _ => false

/-- Where an operation may be behind a statement that did or did not succeed. -/
def Statement.Leads (st : Statement) (succeeded : Prop) (ph : Phase) : Prop :=
  ph.IsFree ∨ ph = .working ∧ st.goesOn ∧ succeeded

/-- From a phase on, the program sends statements in runs only, and `φ` holds where it ends. -/
def Program.Heeds (φ : Phase → α → Prop) : Phase → Program α → Prop
  | ph, .done a => φ ph a
  | ph, .ask .status next =>
    ph = .waiting ∧ (∀ i, Heeds φ (.stopped i) (next (some i))) ∧ Heeds φ .working (next none)
  | ph, .ask (.send st) next =>
    ph = .working ∧ (∀ i, Heeds φ (.stopped i) (next (.interrupted i)))
      ∧ (∀ a, ∃ ph', st.Leads True ph' ∧ Heeds φ ph' (next (.answered a)))
      ∧ ∀ f, ∃ ph', st.Leads False ph' ∧ Heeds φ ph' (next (.failed f))
  | ph, .ask .clock next => ph.IsFree ∧ ∀ a, Heeds φ ph (next a)
  | ph, .ask .randomBlock next => ph.IsFree ∧ ∀ a, Heeds φ ph (next a)
  | ph, .ask .freshId next => ph.IsFree ∧ ∀ a, Heeds φ ph (next a)

/-- What holds where the first part of a sequence ends is what the second part begins with. -/
lemma Program.Heeds.bind {φ : Phase → α → Prop} {ψ : Phase → β → Prop} {ph : Phase}
    {p : Program α} {f : α → Program β} (h : p.Heeds φ ph)
    (hf : ∀ ph a, φ ph a → (f a).Heeds ψ ph) : (p >>= f).Heeds ψ ph := by
  induction p generalizing ph with
  | done a => exact hf ph a h
  | ask r next ih =>
    rw [bind_ask]
    cases r with
    | status => exact ⟨h.1, fun i => ih _ (h.2.1 i), ih _ h.2.2⟩
    | send st =>
      obtain ⟨hph, hstop, hanswered, hfailed⟩ := h
      refine ⟨hph, fun i => ih _ (hstop i), fun a => ?_, fun fault => ?_⟩
      · obtain ⟨ph', hleads, ha⟩ := hanswered a
        exact ⟨ph', hleads, ih _ ha⟩
      · obtain ⟨ph', hleads, ha⟩ := hfailed fault
        exact ⟨ph', hleads, ih _ ha⟩
    | clock | randomBlock | freshId => exact ⟨h.1, fun a => ih a (h.2 a)⟩

namespace Operation

/-- The same for an operation, which may fail. -/
def Heeds (op : Operation α) (ph : Phase) (φ : Phase → Except Error α → Prop) : Prop :=
  op.run.Heeds φ ph

variable {φ : Phase → Except Error α → Prop} {ph : Phase} {st : Statement}

/-- What must hold where the first part of a sequence ends. -/
def Behind (f : α → Operation β) (φ : Phase → Except Error β → Prop) (ph : Phase) :
    Except Error α → Prop
  | .ok a => (f a).Heeds ph φ
  | .error e => φ ph (.error e)

lemma Heeds.bind {φ : Phase → Except Error β → Prop} {op : Operation α} {f : α → Operation β}
    (h : op.Heeds ph (Behind f φ)) : (op >>= f).Heeds ph φ := by
  rw [Heeds, run_bind_eq]
  refine Program.Heeds.bind h ?_
  rintro ph (e | a) hr <;> exact hr

lemma Heeds.mono {ψ : Phase → Except Error α → Prop} {op : Operation α} (h : op.Heeds ph φ)
    (hφ : ∀ ph r, φ ph r → ψ ph r) : op.Heeds ph ψ := by
  rw [Heeds, ← op.run.bind_pure]
  exact Program.Heeds.bind h hφ

lemma heeds_ask {r : Request} {φ : Phase → Except Error r.Response → Prop} (hph : ph.IsFree)
    (hr : r ∈ [.clock, .randomBlock, .freshId]) (h : ∀ a, φ ph (.ok a)) : (ask r).Heeds ph φ := by
  simp only [List.mem_cons, List.not_mem_nil, or_false] at hr
  rcases hr with rfl | rfl | rfl <;> exact ⟨hph, h⟩

/-! ### Runs -/

/-- What may be expected where a statement was sent, or some in one run. -/
structure Awaits (φ : Phase → Except Error α → Prop) (leads : Phase → Prop) : Prop where
  stop : ∀ i, φ (.stopped i) (.error (.interrupted i))
  ok : ∀ a, ∃ ph, leads ph ∧ φ ph (.ok a)
  error : ∀ e, ∃ ph, ph.IsFree ∧ φ ph (.error e)

lemma heeds_guarded {body : Operation α} (hstop : ∀ i, φ (.stopped i) (.error (.interrupted i)))
    (h : body.Heeds .working φ) : (guarded body).Heeds .waiting φ :=
  Heeds.bind ⟨rfl, hstop, h⟩

lemma heeds_send {φ : Phase → Except Error Answer → Prop} {failure : Failure → Error}
    (hstop : ∀ i, φ (.stopped i) (.error (.interrupted i)))
    (hok : ∀ a, ∃ ph, st.Leads True ph ∧ φ ph (.ok a))
    (herror : ∀ e, ∃ ph, ph.IsFree ∧ φ ph (.error e)) : (send st failure).Heeds .working φ := by
  refine Heeds.bind ⟨rfl, hstop, hok, fun f => ?_⟩
  obtain ⟨ph, hph, he⟩ := herror (failure f)
  exact ⟨ph, .inl hph, he⟩

lemma heeds_execute {φ : Phase → Except Error ℕ → Prop} {failure : Failure → Error}
    (h : Awaits φ (st.Leads True)) : (execute st failure).Heeds .working φ := by
  refine Heeds.bind (heeds_send h.stop (fun a => ?_) h.error)
  cases a <;> exact h.ok _

lemma Awaits.result {φ : Phase → Except Error α → Prop} (h : Awaits φ (st.Leads True))
    (r : Except Error α) : ∃ ph, st.Leads True ph ∧ φ ph r := by
  cases r with
  | ok a => exact h.ok a
  | error e =>
    obtain ⟨ph, hph, he⟩ := h.error e
    exact ⟨ph, .inl hph, he⟩

lemma heeds_fetch {φ : Phase → Except Error (List α) → Prop} {stage : Stage}
    {read : List Value → Option α} (h : Awaits φ (st.Leads True)) :
    (fetch st stage read).Heeds .working φ := by
  refine Heeds.bind (heeds_send h.stop (fun a => ?_) h.error)
  cases a <;> exact h.result _

lemma heeds_fetchFirst {φ : Phase → Except Error (Option α) → Prop} {stage : Stage}
    {read : List Value → Option α} (h : Awaits φ (st.Leads True)) :
    (fetchFirst st stage read).Heeds .working φ := by
  refine Heeds.bind (heeds_send h.stop (fun a => ?_) h.error)
  rcases a with _ | _ | ⟨row, rows⟩ <;> exact h.result _

lemma discard_bind (op : Operation α) (f : PUnit → Operation β) :
    discard op >>= f = op >>= fun _ => f PUnit.unit := by
  rw [discard_eq, bind_assoc]
  rfl

/-- The operation asks for nothing more. -/
def IsSettled (op : Operation α) : Prop := ∃ r, op.run = .done r

lemma isSettled_fromExcept (r : Except Error α) : IsSettled (fromExcept r) := ⟨r, rfl⟩

lemma IsSettled.bind {op : Operation α} {f : α → Operation β} (h : IsSettled op)
    (hf : ∀ a, IsSettled (f a)) : IsSettled (op >>= f) := by
  obtain ⟨r, hr⟩ := h
  rw [IsSettled, run_bind_eq, hr]
  cases r with
  | ok a => exact hf a
  | error e => exact ⟨_, rfl⟩

lemma isSettled_ite {c : Prop} [Decidable c] {op op' : Operation α} (h : IsSettled op)
    (h' : IsSettled op') : IsSettled (if c then op else op') := by
  split
  · exact h
  · exact h'

/-- The operation is one run: a check, and then statements until none is to come in it. -/
def IsRun (op : Operation α) : Prop :=
  ∀ φ : Phase → Except Error α → Prop, Awaits φ Phase.IsFree → op.Heeds .waiting φ

lemma IsRun.ask {r : Request} (hr : r ∈ [.clock, .randomBlock, .freshId])
    {f : r.Response → Operation α} (h : ∀ a, IsRun (f a)) : IsRun (ask r >>= f) :=
  fun φ hφ => Heeds.bind (heeds_ask (.inr rfl) hr fun a => h a φ hφ)

lemma IsRun.bind {op : Operation α} {f : α → Operation β} (h : IsRun op)
    (hf : ∀ a, IsSettled (f a)) : IsRun (op >>= f) := by
  intro φ hφ
  refine Heeds.bind (h _ ⟨hφ.stop, fun a => ?_, hφ.error⟩)
  obtain ⟨r, hr⟩ := hf a
  cases r with
  | ok b =>
    obtain ⟨ph, hph, hb⟩ := hφ.ok b
    exact ⟨ph, hph, by rw [Behind, Heeds, hr]; exact hb⟩
  | error e =>
    obtain ⟨ph, hph, he⟩ := hφ.error e
    exact ⟨ph, hph, by rw [Behind, Heeds, hr]; exact he⟩

lemma Awaits.last {φ : Phase → Except Error α → Prop} (h : Awaits φ Phase.IsFree) :
    Awaits φ (st.Leads True) where
  stop := h.stop
  ok a := (h.ok a).imp fun _ hph => ⟨.inl hph.1, hph.2⟩
  error := h.error

lemma isRun_execute (st : Statement) (failure : Failure → Error) :
    IsRun (guarded (execute st failure)) :=
  fun _ h => heeds_guarded h.stop (heeds_execute h.last)

lemma isRun_fetch (st : Statement) (stage : Stage) (read : List Value → Option α) :
    IsRun (guarded (fetch st stage read)) :=
  fun _ h => heeds_guarded h.stop (heeds_fetch h.last)

lemma isRun_fetchFirst (st : Statement) (stage : Stage) (read : List Value → Option α) :
    IsRun (guarded (fetchFirst st stage read)) :=
  fun _ h => heeds_guarded h.stop (heeds_fetchFirst h.last)

/-- A statement of which only the success counts. -/
lemma isRun_discard_execute (st : Statement) (failure : Failure → Error) (a : α) :
    IsRun (discard (guarded (execute st failure)) >>= fun _ => pure a) := by
  rw [discard_bind]
  exact (isRun_execute st failure).bind fun _ => ⟨_, rfl⟩

end Operation

open Operation

/-! ### Single records -/

lemma isRun_createProject (id : String) (p : Record.Project) : IsRun (createProject id p) :=
  isRun_discard_execute _ _ _

lemma isRun_getProject (id : String) : IsRun (getProject id) := by
  refine (isRun_fetchFirst _ _ _).bind fun found => ?_
  rcases found with _ | _ | _ <;> exact ⟨_, rfl⟩

lemma isRun_deleteProject (id : String) : IsRun (deleteProject id) :=
  (isRun_execute _ _).bind fun _ => isSettled_ite ⟨_, rfl⟩ ⟨_, rfl⟩

lemma isRun_createNote (p i : String) (n : Record.Note) : IsRun (createNote p i n) :=
  .ask (by simp) fun _ => isRun_discard_execute _ _ _

lemma isRun_getNote (p i : String) : IsRun (getNote p i) := by
  refine (isRun_fetchFirst _ _ _).bind fun found => ?_
  cases found with
  | none => exact ⟨_, rfl⟩
  | some payload => exact (isSettled_fromExcept _).bind fun _ => ⟨_, rfl⟩

lemma isRun_updateNote (p i : String) (n : Record.Note) : IsRun (updateNote p i n) :=
  .ask (by simp) fun _ => (isRun_execute _ _).bind fun _ => isSettled_ite ⟨_, rfl⟩ ⟨_, rfl⟩

lemma isRun_deleteNote (p i : String) : IsRun (deleteNote p i) :=
  (isRun_execute _ _).bind fun _ => isSettled_ite ⟨_, rfl⟩ ⟨_, rfl⟩

lemma isRun_createOccurrence (p : String) {o : Record.Occurrence} {ref : String × String}
    (href : noteReference o = .ok ref) : IsRun (createOccurrence p o) := by
  rw [createOccurrence, href, fromExcept_ok_bind]
  exact .ask (by simp) fun _ => .ask (by simp) fun _ => isRun_discard_execute _ _ _

lemma isRun_getOccurrence (p i : String) : IsRun (getOccurrence p i) := by
  refine (isRun_fetchFirst _ _ _).bind fun found => ?_
  cases found with
  | none => exact ⟨_, rfl⟩
  | some payload => exact (isSettled_fromExcept _).bind fun _ => ⟨_, rfl⟩

lemma isRun_updateOccurrence (p i : String) {o : Record.Occurrence} {ref : String × String}
    (href : noteReference o = .ok ref) : IsRun (updateOccurrence p i o) := by
  rw [updateOccurrence, href, fromExcept_ok_bind]
  exact .ask (by simp) fun _ => (isRun_execute _ _).bind fun _ => isSettled_ite ⟨_, rfl⟩ ⟨_, rfl⟩

lemma isRun_deleteOccurrence (p i : String) : IsRun (deleteOccurrence p i) :=
  (isRun_execute _ _).bind fun _ => isSettled_ite ⟨_, rfl⟩ ⟨_, rfl⟩

end Catalog.Store
