import Catalog.Proofs.Store.Accounts
import Catalog.Proofs.Store.Interruption

/-!
What callers learn of a failure. Of its details nothing, but for an insertion whose key is taken:
databases that answer alike are not told from each other. A single record, a listing or a count
fails with a message that is fixed by the stage that failed; a batch passes over what fails, and
returns just what the database took.
-/

namespace Catalog.Store

open Operation Record

variable {α β : Type}

/-! ### What is kept of a batch -/

/-- The statement, if it was carried out. -/
def Exchange.accepted? : Exchange → Option Statement
  | ⟨.send st, .answered _⟩ => some st
  | _ => none

def accepted (es : List Exchange) : List Statement := es.filterMap Exchange.accepted?

lemma accepted_append (es es' : List Exchange) :
    accepted (es ++ es') = accepted es ++ accepted es' := List.filterMap_append

/-- The statement puts in just this. -/
def Statement.Inserts (st : Statement) : Given → Prop
  | .project p => st = .insertProject p.name
  | .note n => ∃ p i, st = .insertNote p i n.payload ∧ n.name = Name.note p i
  | .occurrence o =>
    ∃ p i q j, st = .insertOccurrence p i q j o.payload ∧ o.name = Name.occurrence p i
  | .removed => False

/-- What a batch created. -/
def Result.created : Result → List Given
  | notes ns => ns.map .note
  | occurrences os => os.map .occurrence
  | _ => []

namespace Operation

/-- The operation has something inserted where it succeeds, and nothing where it fails. -/
def Adds (inserts : Statement → α → Prop) (op : Operation α) : Prop :=
  ∀ es r, op.run.Talks es r → match r with
    | .ok a => ∃ st, accepted es = [st] ∧ inserts st a
    | .error _ => accepted es = []

variable {inserts : Statement → α → Prop}

/-- What is asked of neither the context nor the database leaves no statement behind. -/
lemma talks_ask_idle {q : Request} (hq : q ∈ [.clock, .randomBlock, .freshId])
    {f : q.Response → Operation α} {es : List Exchange} {r : Except Error α}
    (h : (ask q >>= f).run.Talks es r) : ∃ answer rest, (f answer).run.Talks rest r
      ∧ accepted es = accepted rest ∧ statements es = statements rest := by
  obtain ⟨answer, rest, rfl, hrest⟩ := talks_ask h
  simp only [List.mem_cons, List.not_mem_nil, or_false] at hq
  rcases hq with rfl | rfl | rfl <;> exact ⟨answer, rest, hrest, rfl, rfl⟩

/-- What a creation comes to, once its record is made. -/
lemma talks_create {st : Statement} {failure : Failure → Error} {a : α} {es : List Exchange}
    {r : Except Error α}
    (h : (discard (guarded (execute st failure)) >>= fun _ => pure a).run.Talks es r) :
    (∃ i, es = [⟨.status, some i⟩] ∧ r = .error (.interrupted i))
      ∨ ∃ reply : Reply, es = [⟨.status, none⟩, ⟨.send st, reply⟩] ∧ r = match reply with
        | .answered _ => .ok a
        | .failed x => .error (failure x)
        | .interrupted i => .error (.interrupted i) := by
  rw [discard_bind, guarded_bind, execute, bind_assoc] at h
  rcases talks_guarded h with ⟨i, rfl, rfl⟩ | ⟨rest, rfl, hrest⟩
  · exact .inl ⟨i, rfl, rfl⟩
  · rcases talks_send hrest with ⟨x, rfl, rfl⟩ | ⟨i, rfl, rfl⟩ | ⟨answer, rest, rfl, hlast⟩
    · exact .inr ⟨.failed x, rfl, rfl⟩
    · exact .inr ⟨.interrupted i, rfl, rfl⟩
    · cases answer <;> cases hlast <;> exact .inr ⟨.answered _, rfl, rfl⟩

lemma adds_ask {q : Request} (hq : q ∈ [.clock, .randomBlock, .freshId])
    {f : q.Response → Operation α} (h : ∀ answer, (f answer).Adds inserts) :
    (ask q >>= f).Adds inserts := by
  intro es r ht
  obtain ⟨answer, rest, hrest, haccepted, -⟩ := talks_ask_idle hq ht
  rw [haccepted]
  exact h answer rest r hrest

lemma adds_create {st : Statement} {failure : Failure → Error} {a : α} (h : inserts st a) :
    (discard (guarded (execute st failure)) >>= fun _ => pure a).Adds inserts := by
  intro es r ht
  rcases talks_create ht with ⟨i, rfl, rfl⟩ | ⟨reply, rfl, rfl⟩
  · exact rfl
  · cases reply with
    | answered => exact ⟨st, rfl, h⟩
    | failed | interrupted => exact rfl

lemma adds_createNote (p i : String) (n : Note) :
    (createNote p i n).Adds fun st n => st.Inserts (.note n) :=
  adds_ask (by simp) fun _ => adds_create ⟨p, i, rfl, rfl⟩

lemma adds_createOccurrence (p : String) (o : Occurrence) :
    (createOccurrence p o).Adds fun st o => st.Inserts (.occurrence o) := by
  rcases noteReference_cases o with ⟨ref, href, -⟩ | ⟨href, -⟩
  · rw [createOccurrence, href, fromExcept_ok_bind]
    exact adds_ask (by simp) fun id => adds_ask (by simp) fun _ =>
      adds_create ⟨p, id, ref.1, ref.2, rfl, rfl⟩
  · rw [createOccurrence, href]
    intro es r ht
    cases ht
    exact rfl

lemma talks_attempt {op : Operation α} {es : List Exchange} {r : Except Error (Except Error α)}
    (h : (attempt op).run.Talks es r) : ∃ r', r = .ok r' ∧ op.run.Talks es r' := by
  obtain ⟨es₁, r', es₂, rfl, h₁, h₂⟩ := Program.Talks.of_bind h
  cases h₂
  rw [List.append_nil]
  exact ⟨r', rfl, h₁⟩

lemma talks_map {op : Operation α} {g : α → β} {es : List Exchange} {r : Except Error β}
    (h : (g <$> op).run.Talks es r) : ∃ r', r = r'.map g ∧ op.run.Talks es r' := by
  rw [map_eq_pure_bind, run_bind_eq] at h
  obtain ⟨es₁, r', es₂, rfl, h₁, h₂⟩ := h.of_bind
  refine ⟨r', ?_, ?_⟩ <;> cases r' <;> cases h₂
  · rfl
  · rfl
  · rwa [List.append_nil]
  · rwa [List.append_nil]

end Operation

/-! ### Verdicts by their kind -/

lemma Statement.refusal_of_conflict {st : Statement} {f : Failure} (h : st.IsConflict f) :
    ∃ k name, st.refusal f = .alreadyExists k name := by
  obtain ⟨⟨k, name⟩, hst⟩ := Option.isSome_iff_exists.mp h.1
  exact ⟨k, name, by rw [refusal, hst]; exact if_pos h.2⟩

lemma Statement.refusal_of_not_conflict {st : Statement} {f : Failure} (h : ¬ st.IsConflict f) :
    st.refusal f = .database st.stage := by
  unfold refusal
  split
  · rename_i k name hst
    exact if_neg fun hcode => h ⟨by rw [hst]; rfl, hcode⟩
  · rfl

lemma Exchange.Tells.verdict?_eq {i : Context.Interruption} {e : Exchange} (h : e.Tells i) :
    e.verdict? = some (.interrupted i) := by
  rcases h with rfl | ⟨st, rfl⟩ <;> rfl

/-- Where a verdict comes from. -/
lemma Exchange.verdict?_cases {e : Exchange} {err : Error} (h : e.verdict? = some err) :
    (∃ i, e.Tells i ∧ err = .interrupted i)
      ∨ (∃ st f, e = ⟨.send st, .failed f⟩ ∧ err = st.refusal f)
      ∨ ∃ st a, e = ⟨.send st, .answered a⟩ ∧ st.decodes a = false ∧ err = .database st.stage := by
  obtain ⟨r, answer⟩ := e
  cases r with
  | status =>
    obtain ⟨i, rfl, rfl⟩ := Option.map_eq_some_iff.mp h
    exact .inl ⟨i, .inl rfl, rfl⟩
  | send st =>
    cases answer with
    | interrupted i =>
      cases h
      exact .inl ⟨i, .inr ⟨st, rfl⟩, rfl⟩
    | failed f =>
      cases h
      exact .inr (.inl ⟨st, f, rfl, rfl⟩)
    | answered a =>
      cases hdec : st.decodes a with
      | true => simp [verdict?, hdec] at h
      | false =>
        obtain rfl : Error.database st.stage = err := by simpa [verdict?, hdec] using h
        exact .inr (.inr ⟨st, a, rfl, hdec, rfl⟩)
  | clock | randomBlock | freshId => cases h

lemma Exchange.tells_of_verdict? {i : Context.Interruption} {e : Exchange}
    (h : e.verdict? = some (.interrupted i)) : e.Tells i := by
  rcases verdict?_cases h with ⟨j, htells, hij⟩ | ⟨st, f, -, hrefusal⟩ | ⟨st, a, -, -, hstage⟩
  · cases hij
    exact htells
  · by_cases hconflict : st.IsConflict f
    · obtain ⟨k, name, hexists⟩ := Statement.refusal_of_conflict hconflict
      rw [hexists] at hrefusal
      cases hrefusal
    · rw [Statement.refusal_of_not_conflict hconflict] at hrefusal
      cases hrefusal
  · cases hstage

/-! ### Batches -/

/-- A batch comes to the interruption it is told of, or else to all that was carried out. -/
structure Kept (inserts : Statement → α → Prop) (es : List Exchange)
    (r : Except Error (List α)) : Prop where
  stops : ∀ i, (∃ e ∈ es, e.Tells i) → r = .error (.interrupted i)
  keeps : (∀ i, ∀ e ∈ es, ¬ e.Tells i) →
    ∃ as, r = .ok as ∧ List.Forall₂ inserts (accepted es) as

section

variable {inserts : Statement → α → Prop} {es es' : List Exchange} {r : Except Error (List α)}

lemma Kept.create (h : Kept inserts es' r) {st : Statement} {a : α}
    (hclear : ∀ i, ∀ e ∈ es, ¬ e.Tells i) (haccepted : accepted es = [st]) (ha : inserts st a) :
    Kept inserts (es ++ es') (r.map (a :: ·)) where
  stops i := by
    rintro ⟨e, he, htells⟩
    rcases List.mem_append.mp he with he | he
    · exact absurd htells (hclear i e he)
    · rw [h.stops i ⟨e, he, htells⟩]
      rfl
  keeps hnone := by
    obtain ⟨as, rfl, hall⟩ := h.keeps fun i e he => hnone i e (List.mem_append_right _ he)
    refine ⟨a :: as, rfl, ?_⟩
    rw [accepted_append, haccepted]
    exact .cons ha hall

lemma Kept.skip (h : Kept inserts es' r) (hclear : ∀ i, ∀ e ∈ es, ¬ e.Tells i)
    (haccepted : accepted es = []) : Kept inserts (es ++ es') r where
  stops i := by
    rintro ⟨e, he, htells⟩
    rcases List.mem_append.mp he with he | he
    · exact absurd htells (hclear i e he)
    · exact h.stops i ⟨e, he, htells⟩
  keeps hnone := by
    rw [accepted_append, haccepted]
    exact h.keeps fun i e he => hnone i e (List.mem_append_right _ he)

/-- Item by item, what is inserted is kept and what fails is passed over. -/
lemma kept_keepCreated {ops : List (Operation α)}
    (h : ∀ op ∈ ops, op.IsAccountable ∧ op.Adds inserts)
    (ht : (keepCreated ops).run.Talks es r) : Kept inserts es r := by
  induction ops generalizing es r with
  | nil =>
    cases ht
    exact ⟨by simp, fun _ => ⟨[], rfl, .nil⟩⟩
  | cons op ops ih =>
    obtain ⟨haccounts, hadds⟩ := h op List.mem_cons_self
    rw [keepCreated_cons, run_bind_eq] at ht
    obtain ⟨es₁, _, es₂, rfl, hattempt, hnext⟩ := ht.of_bind
    obtain ⟨item, rfl, hitem⟩ := talks_attempt hattempt
    have account := haccounts _ _ hitem
    have hadded := hadds _ _ hitem
    have htold : ∀ i, ∀ e ∈ es₁, e.Tells i → item = .error (.interrupted i) :=
      fun i e he htells => account.decided e he _ htells.verdict?_eq
    have hrest : ∀ {es r}, (keepCreated ops).run.Talks es r → Kept inserts es r :=
      ih fun op' hop => h op' (List.mem_cons_of_mem _ hop)
    cases item with
    | ok a =>
      obtain ⟨r', rfl, hops⟩ := talks_map hnext
      obtain ⟨st, haccepted, ha⟩ := hadded
      refine (hrest hops).create (fun i e he htells => ?_) haccepted ha
      cases htold i e he htells
    | error err =>
      replace hnext : (if err.code.isInterruption then throw err else keepCreated ops :
        Operation (List α)).run.Talks es₂ r := hnext
      cases hcode : err.code.isInterruption with
      | false =>
        rw [hcode] at hnext
        refine (hrest hnext).skip (fun i e he htells => ?_) hadded
        cases htold i e he htells
        cases i <;> cases hcode
      | true =>
        rw [hcode] at hnext
        cases hnext
        rw [List.append_nil]
        obtain ⟨i, rfl⟩ : ∃ i, err = .interrupted i := by
          cases err with
          | interrupted i => exact ⟨i, rfl⟩
          | _ => cases hcode
        refine ⟨fun j ⟨e, he, htells⟩ => ?_, fun hnone => ?_⟩
        · cases htold j e he htells
          rfl
        · rcases account.caused _ rfl with hown | ⟨e, he, hv⟩
          · cases hown
          · exact absurd (Exchange.tells_of_verdict? hv) (hnone i e he)

end

/-! ### All tasks -/

/-- The operation fails, and this is what its caller is told. -/
def FailsWith (r : Except Error α) (code : Code) (message : String) : Prop :=
  ∃ err, r = .error err ∧ err.code = code ∧ err.message = message

def Task.isBatch : Task → Bool
  | createNotes .. | createOccurrences .. => true
  | _ => false

lemma isAccountable_task {t : Task} (h : t.isBatch = false) : t.operation.IsAccountable := by
  cases t with
  | single a => exact (isAccountable_action a).map _
  | createNotes p ns => cases h
  | createOccurrences p os => cases h
  | occurrenceNote p i =>
    refine IsAccountable.map ?_ _
    exact (isAccountable_getOccurrence p i).bind fun o => (isAccountable_noteReference o).bind
      fun _ => isAccountable_getNote _ _
  | call c store filter token size => exact isAccountable_call store filter token size c

lemma Kept.result {g : α → Given} {wrap : List α → Result}
    (hwrap : ∀ as, (wrap as).created = as.map g) {es : List Exchange}
    {r : Except Error (List α)} (h : Kept (fun st a => st.Inserts (g a)) es r) :
    (∀ i, (∃ e ∈ es, e.Tells i) → r.map wrap = .error (.interrupted i))
      ∧ ((∀ i, ∀ e ∈ es, ¬ e.Tells i) →
        ∃ result, r.map wrap = .ok result
          ∧ List.Forall₂ Statement.Inserts (accepted es) result.created) := by
  refine ⟨fun i hi => by rw [h.stops i hi]; rfl, fun hnone => ?_⟩
  obtain ⟨as, rfl, hall⟩ := h.keeps hnone
  refine ⟨wrap as, rfl, ?_⟩
  rw [hwrap]
  exact List.forall₂_map_right_iff.mpr hall

lemma task_kept {t : Task} (h : t.isBatch = true) {es : List Exchange} {r : Except Error Result}
    (ht : t.operation.run.Talks es r) :
    (∀ i, (∃ e ∈ es, e.Tells i) → r = .error (.interrupted i))
      ∧ ((∀ i, ∀ e ∈ es, ¬ e.Tells i) →
        ∃ result, r = .ok result
          ∧ List.Forall₂ Statement.Inserts (accepted es) result.created) := by
  cases t with
  | createNotes p ns =>
    obtain ⟨r', rfl, hops⟩ := talks_map ht
    refine Kept.result (g := .note) (fun _ => rfl) (kept_keepCreated (fun op hop => ?_) hops)
    obtain ⟨m, -, rfl⟩ := List.mem_map.mp hop
    exact ⟨isAccountable_createNote p m.1 m.2, adds_createNote p m.1 m.2⟩
  | createOccurrences p os =>
    obtain ⟨r', rfl, hops⟩ := talks_map ht
    refine Kept.result (g := .occurrence) (fun _ => rfl)
      (kept_keepCreated (fun op hop => ?_) hops)
    obtain ⟨o, -, rfl⟩ := List.mem_map.mp hop
    exact ⟨isAccountable_createOccurrence p o, adds_createOccurrence p o⟩
  | single a => cases h
  | occurrenceNote p i => cases h
  | call c store filter token size => cases h

/-- A task says that a key is taken just where an insertion failed for it. -/
lemma alreadyExists_iff {t : Task} (h : t.isBatch = false) {es : List Exchange}
    {r : Except Error Result} (ht : t.operation.run.Talks es r) :
    (∃ err, r = .error err ∧ err.code = .alreadyExists)
      ↔ ∃ st f, (⟨.send st, .failed f⟩ : Exchange) ∈ es ∧ st.IsConflict f := by
  have account := isAccountable_task h es r ht
  constructor
  · rintro ⟨err, hr, hcode⟩
    rcases account.caused err hr with hown | ⟨e, he, hv⟩
    · cases err with
      | alreadyExists k name => cases hown
      | interrupted i => cases hown
      | _ => cases hcode
    · rcases Exchange.verdict?_cases hv with ⟨i, -, rfl⟩ | ⟨st, f, rfl, rfl⟩ | ⟨st, a, -, -, rfl⟩
      · cases i <;> cases hcode
      · refine ⟨st, f, he, by_contra fun hnot => ?_⟩
        rw [Statement.refusal_of_not_conflict hnot] at hcode
        cases hcode
      · cases hcode
  · rintro ⟨st, f, he, hconflict⟩
    obtain ⟨k, name, hrefusal⟩ := Statement.refusal_of_conflict hconflict
    exact ⟨_, account.decided _ he _ (congrArg some hrefusal), rfl⟩

/-- **Callers learn nothing of the driver.** Against databases that answer alike, a task has one
result and sends the same statements. Unless it is a batch, it says that something already exists
just where its insertion failed for a key that is taken; every other failure, and every answer
that cannot be read, is told by the stage alone; and so is a payload that is none of its kind, if
it is not told that its page has no token. A batch passes over failures, but not over its
interruption. -/
theorem hides_driver (t : Task) :
    (∀ peer peer' : Peer, peer.Alike peer' →
      (t.operation.run.talk peer []).2 = (t.operation.run.talk peer' []).2
        ∧ statements (t.operation.run.talk peer []).1
          = statements (t.operation.run.talk peer' []).1)
    ∧ ∀ es r, t.operation.run.Talks es r →
      (t.isBatch = false →
        ((∃ err, r = .error err ∧ err.code = .alreadyExists)
          ↔ ∃ st f, (⟨.send st, .failed f⟩ : Exchange) ∈ es ∧ st.IsConflict f)
        ∧ (∀ st f, (⟨.send st, .failed f⟩ : Exchange) ∈ es → ¬ st.IsConflict f →
          FailsWith r .internal st.stage.message)
        ∧ (∀ st a, (⟨.send st, .answered a⟩ : Exchange) ∈ es → st.decodes a = false →
          FailsWith r .internal st.stage.message)
        ∧ ∀ k, (∃ e ∈ es, e.Garbles k) → (∀ e ∈ es, e.verdict? = none) →
          FailsWith r .internal ("Failed to unmarshal " ++ k.word ++ " from database")
            ∨ ∃ s : Scope, FailsWith r .internal ("Failed to paginate " ++ s.table))
      ∧ (t.isBatch = true →
        (∀ i, (∃ e ∈ es, e.Tells i) → r = .error (.interrupted i))
        ∧ ((∀ i, ∀ e ∈ es, ¬ e.Tells i) → ∃ result, r = .ok result
          ∧ List.Forall₂ Statement.Inserts (accepted es) result.created)) := by
  refine ⟨fun peer peer' hpeer => ?_, fun es r ht => ⟨fun hbatch => ?_, fun hbatch => ?_⟩⟩
  · obtain ⟨halike, hresult⟩ := (isBlind_operation t).talk hpeer .nil
    exact ⟨outcomes_eq.mp hresult, statements_eq halike⟩
  · have account := isAccountable_task hbatch es r ht
    refine ⟨alreadyExists_iff hbatch ht, fun st f he hnot => ?_, fun st a he hdec => ?_,
      fun k hgarbled hnone => ?_⟩
    · refine ⟨_, account.decided _ he (.database st.stage) ?_, rfl, rfl⟩
      exact congrArg some (Statement.refusal_of_not_conflict hnot)
    · refine ⟨_, account.decided _ he (.database st.stage) ?_, rfl, rfl⟩
      simp [Exchange.verdict?, hdec]
    · cases r with
      | ok result => exact (account.passed result rfl k (.inr hgarbled)).elim
      | error err =>
        rcases account.answered err rfl k (.inr hgarbled) with (rfl | ⟨s, rfl⟩) | ⟨e, he, hv⟩
        · exact .inl ⟨_, rfl, rfl, rfl⟩
        · exact .inr ⟨s, _, rfl, rfl, rfl⟩
        · rw [hnone e he] at hv
          cases hv
  · exact task_kept hbatch ht

/-- A database that is broken: it has a text for a note that is none, and else fails with it. -/
def broken (text : String) : Peer := fun _ r =>
  match r with
  | .status => (none : Option Context.Interruption)
  | .send (.searchNote ..) => Reply.answered (.rows [[.text text]])
  | .send _ => Reply.failed ⟨none, text⟩
  | .clock => (⟨0, 0⟩ : Time)
  | .randomBlock => (.replicate 16 0 : Cipher.Block)
  | .freshId => ""

/-- The insertion of a note whose key is taken. -/
def refused : List Exchange :=
  [⟨.clock, (⟨0, 0⟩ : Time)⟩, ⟨.status, (none : Option Context.Interruption)⟩,
    ⟨.send (.insertNote "p" "a" (createdNote "p" "a" ⟨0, 0⟩ unsaid).payload),
      Reply.failed ⟨some uniqueViolation, "duplicate key value"⟩⟩]

theorem hides_driver_note :
    (broken "").Alike (broken "[]")
    ∧ ((Task.single (.getNote "p" "a")).operation.run.talk (broken "") []).2
      = ((Task.single (.getNote "p" "a")).operation.run.talk (broken "[]") []).2
    ∧ ∃ r, (Task.single (.createNote "p" "a" unsaid)).operation.run.Talks refused r
      ∧ ∃ err, r = .error err ∧ err.code = .alreadyExists := by
  have hreads : Entity.note.reads "" = false ∧ Entity.note.reads "[]" = false :=
    ⟨by decide +kernel, by decide +kernel⟩
  have halike : (broken "").Alike (broken "[]") := by
    intro past past' _ r
    cases r with
    | send st =>
      refine .reply ?_
      cases st with
      | searchNote p i =>
        exact .cons (.inr ⟨0, .note, "", "[]", rfl, rfl, rfl, hreads.1, hreads.2⟩) .nil
      | _ => simp [broken, Reply.Alike, Statement.IsConflict]
    | status | clock | randomBlock | freshId => exact .same _
  have htalks : ∃ r, (Task.single (.createNote "p" "a" unsaid)).operation.run.Talks refused r :=
    ⟨_, .ask _ (.ask _ (.ask _ (.done _)))⟩
  obtain ⟨r, hr⟩ := htalks
  obtain ⟨hexists, -⟩ :=
    ((hides_driver (.single (.createNote "p" "a" unsaid))).2 refused r hr).1 rfl
  refine ⟨halike, ((hides_driver (.single (.getNote "p" "a"))).1 _ _ halike).1, r, hr, ?_⟩
  have hmem : refused[2] ∈ refused := List.getElem_mem _
  exact hexists.mpr ⟨_, _, hmem, rfl, rfl⟩

end Catalog.Store
