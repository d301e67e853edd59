import Catalog.Proofs.Store.TaskHeeding

/-!
A context that has fired stops all work on the database. Where it fired before the call, nothing
is sent. Where it fires later, nothing is sent any more but the statement that was out, and where
another one would have followed, the result is the interruption.
-/

namespace Catalog.Store

open Operation

variable {α : Type}

/-! ### What conversations show -/

/-- The exchange tells that the call is given up. -/
def Exchange.Tells (i : Context.Interruption) (e : Exchange) : Prop :=
  e = ⟨.status, some i⟩ ∨ ∃ st, e = ⟨.send st, .interrupted i⟩

/-- From the first of them on, all exchanges with the context or the database tell so. -/
def Fired (es : List Exchange) : Prop :=
  ∀ e ∈ es, e.request = .status ∨ (∃ st, e.request = .send st) → ∃ i, e.Tells i

/-- Behind the exchange the run goes on in which it is: the context was just checked, or the
statement may be followed by another one. -/
def Exchange.IsInRun : Exchange → Prop
  | ⟨.status, answer⟩ => answer = none
  | ⟨.send st, .answered _⟩ => st.goesOn = true
  | _ => False

/-- The conversation breaks off inside a run. -/
def InRun (es : List Exchange) : Prop := ∃ e ∈ es.getLast?, e.IsInRun

/-! ### From phases to conversations -/

namespace Program.Heeds

variable {p : Program (Except Error α)} {ph : Phase} {es rest : List Exchange} {r : Except Error α}

lemma of_ended (h : p.Heeds Ends .ended) (ht : p.Talks es r) : statements es = [] := by
  induction ht with
  | done a => rfl
  | @ask q next answer es a _ ih =>
    cases q with
    | status => exact absurd h.1 (by simp)
    | send st => exact absurd h.1 (by simp)
    | clock | randomBlock | freshId => exact ih (h.2 answer)

lemma of_stopped {i : Context.Interruption} (h : p.Heeds Ends (.stopped i)) (ht : p.Talks es r) :
    es = [] ∧ r = .error (.interrupted i) := by
  cases ht with
  | done a => exact ⟨rfl, h⟩
  | @ask q next answer es a _ =>
    cases q with
    | status => exact absurd h.1 (by simp)
    | send st => exact absurd h.1 (by simp)
    | clock | randomBlock | freshId => exact absurd h.1 (by simp [Phase.IsFree])

/-- At a check that tells of the interruption, the operation ends. -/
lemma of_waiting (h : p.Heeds Ends .waiting) (ht : p.Talks es r)
    (hfired : ∀ e ∈ es, e.request = .status → ∃ i, e = ⟨.status, some i⟩) :
    statements es = []
      ∧ ∃ i, (⟨.status, some i⟩ : Exchange) ∈ es ∧ r = .error (.interrupted i) := by
  induction ht with
  | done a => exact h.elim
  | @ask q next answer es a hrest ih =>
    have hfired' : ∀ e ∈ es, e.request = .status → ∃ i, e = ⟨.status, some i⟩ :=
      fun e he => hfired e (List.mem_cons_of_mem _ he)
    cases q with
    | status =>
      obtain ⟨i, hi⟩ := hfired _ List.mem_cons_self rfl
      cases hi
      obtain ⟨rfl, hr⟩ := of_stopped (h.2.1 i) hrest
      exact ⟨rfl, i, List.mem_cons_self, hr⟩
    | send st => exact absurd h.1 (by simp)
    | clock | randomBlock | freshId =>
      obtain ⟨hnone, i, hmem, hr⟩ := ih (h.2 answer) hfired'
      exact ⟨hnone, i, List.mem_cons_of_mem _ hmem, hr⟩

/-- A statement that is out when the context fires is the last one. -/
lemma of_working (h : p.Heeds Ends .working) (ht : p.Talks es r) (hfired : Fired es) :
    (statements es).length = 1 ∧ ∃ i, (∃ e ∈ es, e.Tells i) ∧ r = .error (.interrupted i) := by
  cases ht with
  | done a => exact h.elim
  | @ask q next answer es a hrest =>
    cases q with
    | status => exact absurd h.1 (by simp)
    | send st =>
      obtain ⟨i, hi⟩ := hfired _ List.mem_cons_self (.inr ⟨st, rfl⟩)
      rcases hi with hi | ⟨st', hi⟩
      · cases hi
      · cases hi
        obtain ⟨rfl, hr⟩ := of_stopped (h.2.1 i) hrest
        exact ⟨rfl, i, ⟨_, List.mem_cons_self, .inr ⟨st, rfl⟩⟩, hr⟩
    | clock | randomBlock | freshId => exact absurd h.1 (by simp [Phase.IsFree])

/-- Behind one exchange a run goes on only if the exchange says so. -/
lemma step {q : Request} {next : q.Response → Program (Except Error α)}
    (h : (Program.ask q next).Heeds Ends ph) (answer : q.Response) :
    ∃ ph', (next answer).Heeds Ends ph'
      ∧ (ph' = .working → (⟨q, answer⟩ : Exchange).IsInRun) := by
  cases q with
  | status =>
    cases answer with
    | none => exact ⟨.working, h.2.2, fun _ => rfl⟩
    | some i => exact ⟨.stopped i, h.2.1 i, Phase.noConfusion⟩
  | send st =>
    obtain ⟨-, hstop, hanswered, hfailed⟩ := h
    cases answer with
    | answered a =>
      obtain ⟨ph', hleads, ha⟩ := hanswered a
      refine ⟨ph', ha, ?_⟩
      rintro rfl
      rcases hleads with (hfree | hfree) | ⟨-, hgoes, -⟩
      · cases hfree
      · cases hfree
      · exact hgoes
    | failed f =>
      obtain ⟨ph', hleads, ha⟩ := hfailed f
      refine ⟨ph', ha, ?_⟩
      rintro rfl
      rcases hleads with (hfree | hfree) | ⟨-, -, hfalse⟩
      · cases hfree
      · cases hfree
      · exact hfalse
    | interrupted i => exact ⟨.stopped i, hstop i, Phase.noConfusion⟩
  | clock | randomBlock | freshId =>
    refine ⟨ph, h.2 answer, ?_⟩
    rintro rfl
    rcases h.1 with hfree | hfree <;> cases hfree

/-- Where a conversation may break off there is a rest of the program, in a phase of its own. -/
lemma break_off {pre : List Exchange} (h : p.Heeds Ends ph) (ht : p.Talks (pre ++ rest) r) :
    ∃ ph' p', Heeds Ends ph' p' ∧ p'.Talks rest r
      ∧ (ph' = .working → InRun pre ∨ pre = [] ∧ ph = .working)
      ∧ ∀ rest' r', p.Talks (pre ++ rest') r' → p'.Talks rest' r' := by
  induction pre generalizing p ph with
  | nil => exact ⟨ph, p, h, ht, fun hw => .inr ⟨rfl, hw⟩, fun _ _ => id⟩
  | cons e pre ih =>
    cases ht with
    | @ask q next answer es a hrest =>
      obtain ⟨ph₁, h₁, hrun₁⟩ := h.step answer
      obtain ⟨ph', p', h', ht', hrun, honly⟩ := ih h₁ hrest
      refine ⟨ph', p', h', ht', fun hw => .inl ?_, fun rest' r' hother => ?_⟩
      · rcases hrun hw with ⟨e', he', hin⟩ | ⟨rfl, hw₁⟩
        · exact ⟨e', by rw [List.getLast?_cons, he']; rfl, hin⟩
        · exact ⟨_, rfl, hrun₁ hw₁⟩
      · cases hother with
        | ask _ hother => exact honly _ _ hother

end Program.Heeds

/-! ### All tasks -/

/-- What a task comes to whose context has fired before. -/
def Task.givenUp (t : Task) (i : Context.Interruption) : Except Error Result :=
  match t.refusal?, t.idle? with
  | some e, _ => .error e
  | none, some r => .ok r
  | none, none => .error (.interrupted i)

lemma Task.refusal?_code {t : Task} {e : Error} (h : t.refusal? = some e) :
    e.code = .invalidArgument := by
  have hfilter : ∀ {c : Call} {store : Store} {filter : String},
      filterRefusal? c store filter = some e → e.code = .invalidArgument := by
    intro c store filter hf
    unfold filterRefusal? at hf
    split at hf
    · split at hf
      · rw [← Option.some.inj hf]
        rfl
      · cases hf
    · cases hf
  unfold refusal? at h
  split at h
  · split at h
    · rw [← Option.some.inj h]
      rfl
    · cases h
  · split at h
    · rw [← Option.some.inj h]
      rfl
    · cases h
  · cases h
  · exact hfilter h
  · cases h

/-- Somewhere a task is waiting, or nothing more comes of it. -/
lemma Task.exists_heeds (t : Task) : ∃ ph : Phase, ph.IsFree ∧ t.operation.Heeds ph Ends := by
  rcases t.cases_operation with ⟨e, -, hrun⟩ | ⟨r, -, -, hrun⟩ | ⟨-, -, h⟩
  · exact ⟨.ended, .inl rfl, by rw [Heeds, hrun]; trivial⟩
  · exact ⟨.ended, .inl rfl, by rw [Heeds, hrun]; trivial⟩
  · exact ⟨.waiting, .inr rfl, h⟩

/-- **A fired context stops all work on the database.** A task that is called when its context is
over sends nothing, and answers what its arguments and options alone decide, or else the
interruption. When the context fires later, nothing is sent from then on, but for a statement
that was out in a run; and where there could have been more, the answer is the interruption. -/
theorem stops_when_fired (t : Task) :
    (∀ e, t.refusal? = some e → e.code = .invalidArgument)
    ∧ (∀ (s : Context.State) (peer : Peer), s.isCancelled = true ∨ s.isExpired = true →
      (∀ past, peer past .status = s.interruption?) →
      statements (t.operation.run.talk peer []).1 = []
        ∧ (t.operation.run.talk peer []).2
          = t.givenUp (if s.isCancelled then .cancelled else .deadlineExceeded))
    ∧ ∀ pre rest r, t.operation.run.Talks (pre ++ rest) r → Fired rest →
      (statements rest).length ≤ 1 ∧ (¬ InRun pre → statements rest = [])
        ∧ ∀ rest' r', t.operation.run.Talks (pre ++ rest') r' → statements rest' ≠ [] →
          ∃ i, (∃ e ∈ rest, e.Tells i) ∧ r = .error (.interrupted i) := by
  refine ⟨fun e => t.refusal?_code, ?_, ?_⟩
  · intro s peer hs hstatus
    have hi : s.interruption? = some (if s.isCancelled then .cancelled else .deadlineExceeded) := by
      rw [Context.State.interruption?]
      split
      · rfl
      · rw [if_pos (hs.resolve_left ‹_›)]
    rw [hi] at hstatus
    generalize (if s.isCancelled then Context.Interruption.cancelled else .deadlineExceeded) = i
      at hstatus
    rcases t.cases_operation with ⟨e, he, hrun⟩ | ⟨r, hnone, hr, hrun⟩ | ⟨hnone, hidle, h⟩
    · rw [hrun, Task.givenUp, he]
      exact ⟨rfl, rfl⟩
    · rw [hrun, Task.givenUp, hnone, hr]
      exact ⟨rfl, rfl⟩
    · have hall := fun e he => Program.answer_of_mem_talk hstatus [] t.operation.run (e := e) he
      obtain ⟨hsent, j, hj, hr⟩ := h.of_waiting (Program.talks_talk peer [] t.operation.run)
        fun e he hstatus => ⟨i, hall e he hstatus⟩
      cases hall _ hj rfl
      rw [Task.givenUp, hnone, hidle]
      exact ⟨hsent, hr⟩
  · intro pre rest r ht hfired
    obtain ⟨ph, hfree, h⟩ := t.exists_heeds
    obtain ⟨ph', p', h', ht', hrun, honly⟩ := Program.Heeds.break_off h ht
    cases ph' with
    | ended =>
      have hnone := h'.of_ended ht'
      refine ⟨by simp [hnone], fun _ => hnone, fun rest' r' hother hsent => ?_⟩
      exact absurd (h'.of_ended (honly _ _ hother)) hsent
    | waiting =>
      obtain ⟨hnone, i, hmem, hr⟩ := h'.of_waiting ht' fun e he hstatus => by
        obtain ⟨i, rfl | ⟨st, rfl⟩⟩ := hfired e he (.inl hstatus)
        · exact ⟨i, rfl⟩
        · cases hstatus
      exact ⟨by simp [hnone], fun _ => hnone, fun _ _ _ _ => ⟨i, ⟨_, hmem, .inl rfl⟩, hr⟩⟩
    | working =>
      obtain ⟨hone, hend⟩ := h'.of_working ht' hfired
      refine ⟨hone.le, fun hnot => ?_, fun _ _ _ _ => hend⟩
      rcases hrun rfl with hin | ⟨-, hw⟩
      · exact absurd hin hnot
      · subst hw
        rcases hfree with hfree | hfree <;> cases hfree
    | stopped i =>
      obtain ⟨rfl, -⟩ := h'.of_stopped ht'
      refine ⟨Nat.zero_le _, fun _ => rfl, fun rest' r' hother hsent => ?_⟩
      rw [(h'.of_stopped (honly _ _ hother)).1] at hsent
      exact absurd rfl hsent

/-- A note of which nothing is said. -/
def unsaid : Record.Note := ⟨"", "", "", .unspecified, [], none, none, none, [], []⟩

def twoNotes : Task := .createNotes "p" [("a", unsaid), ("b", unsaid)]

/-- The insertion of one of the two. -/
def inserted (id : String) : List Exchange :=
  [⟨.clock, (⟨0, 0⟩ : Time)⟩, ⟨.status, (none : Option Context.Interruption)⟩,
    ⟨.send (.insertNote "p" id (createdNote "p" id ⟨0, 0⟩ unsaid).payload),
      Reply.answered (.affected 1)⟩]

/-- The caller cancels behind the first insertion, where the second would have followed. -/
def cancelledThen : List Exchange :=
  [⟨.clock, (⟨0, 0⟩ : Time)⟩, ⟨.status, some Context.Interruption.cancelled⟩]

theorem stops_when_fired_twoNotes :
    ∃ notes r, twoNotes.operation.run.Talks (inserted "a" ++ inserted "b") (.ok notes)
      ∧ twoNotes.operation.run.Talks (inserted "a" ++ cancelledThen) r
      ∧ Fired cancelledThen ∧ statements cancelledThen = []
      ∧ ∃ i, (∃ e ∈ cancelledThen, e.Tells i) ∧ r = .error (.interrupted i) := by
  have hboth : ∃ notes, twoNotes.operation.run.Talks (inserted "a" ++ inserted "b") (.ok notes) :=
    ⟨_, .ask _ (.ask _ (.ask _ (.ask _ (.ask _ (.ask _ (.done _))))))⟩
  have hcancelled : ∃ r, twoNotes.operation.run.Talks (inserted "a" ++ cancelledThen) r :=
    ⟨_, .ask _ (.ask _ (.ask _ (.ask _ (.ask _ (.done _)))))⟩
  have hfired : Fired cancelledThen := by
    intro e he hasked
    simp only [cancelledThen, List.mem_cons, List.not_mem_nil, or_false] at he
    rcases he with rfl | rfl
    · simp at hasked
    · exact ⟨.cancelled, .inl rfl⟩
  obtain ⟨notes, hnotes⟩ := hboth
  obtain ⟨r, hr⟩ := hcancelled
  obtain ⟨-, -, hend⟩ := (stops_when_fired twoNotes).2.2 _ _ _ hr hfired
  exact ⟨notes, r, hnotes, hr, hfired, rfl, hend _ _ hnotes (List.cons_ne_nil _ _)⟩

end Catalog.Store
