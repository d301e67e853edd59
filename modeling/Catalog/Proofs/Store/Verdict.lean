import Catalog.Proofs.Store.Likeness

/-!
What decides the result of an operation. A reply to a statement is a verdict where it is a failure,
or cannot be read by the driver; a context that is over is one too. Payloads that are none of
their kind are no verdict yet, for more may be read before they are looked into. So an operation
is followed with the payloads in mind that were found to be none and not yet answered for.
-/

namespace Catalog.Store

variable {α β : Type}

/-! ### Verdicts -/

/-- What is not done if the statement is not. -/
def Statement.stage : Statement → Stage
  | insertProject _ => .insert .project
  | projectExists _ => .query .project
  | deleteProject _ => .delete .project
  | insertNote .. => .insert .note
  | searchNote .. => .query .note
  | updateNote .. => .update .note
  | deleteNote .. => .delete .note
  | insertOccurrence .. => .insert .occurrence
  | searchOccurrence .. => .query .occurrence
  | updateOccurrence .. => .update .occurrence
  | deleteOccurrence .. => .delete .occurrence
  | page .. => .list
  | maxId .. => .maxId
  | summary .. => .summarize
  | begin | snapshot => .beginSnapshot
  | commit => .endSnapshot

/-- What a caller should be told of a failure. -/
def Statement.refusal (st : Statement) (f : Failure) : Error :=
  match st.inserted? with
  | some (e, name) => if f.code = some uniqueViolation then .alreadyExists e name
    else .database st.stage
  | none => .database st.stage

/-- The first of the rows that are found. -/
def Answer.first? : Answer → Option (List Value)
  | .rows (row :: _) => some row
  | _ => none

/-- The driver finds in the rows what the statement is to find. -/
def Statement.decodes : Statement → Answer → Bool
  | projectExists _, a => (a.first?.bind readExists?).isSome
  | maxId .., a => (a.first?.bind readMax?).isSome
  | searchNote .., a | searchOccurrence .., a => a.first?.all fun row => (readPayload? row).isSome
  | page .., .rows found => found.all fun row => (readRow? row).isSome
  | summary .., .rows found => found.all fun row => (readCount? row).isSome
  | _, _ => true

/-- The payloads in an answer that are read, and what they should be. -/
def Statement.payloads : Statement → Answer → List (Entity × String)
  | searchNote .., a => (a.first?.bind readPayload?).toList.map fun text => (.note, text)
  | searchOccurrence .., a =>
    (a.first?.bind readPayload?).toList.map fun text => (.occurrence, text)
  | page s .., .rows found => (found.filterMap readRow?).map fun x => (s.entity, x.2)
  | _, _ => []

namespace Exchange

/-- The result of an operation in which this is said, where this decides it. -/
def verdict? : Exchange → Option Error
  | ⟨.status, answer⟩ => answer.map .interrupted
  | ⟨.send st, .answered a⟩ => if st.decodes a then none else some (.database st.stage)
  | ⟨.send st, .failed f⟩ => some (st.refusal f)
  | ⟨.send _, .interrupted i⟩ => some (.interrupted i)
  | _ => none

/-- A payload is read that should be of the kind, and is not. -/
def Garbles (k : Entity) (e : Exchange) : Prop :=
  ∃ st a text, e = ⟨.send st, .answered a⟩ ∧ (k, text) ∈ st.payloads a ∧ k.reads text = false

end Exchange

/-- An error that the store itself comes to. -/
def Error.isOwn : Error → Bool
  | .alreadyExists .. | .database _ | .interrupted _ => false
  | _ => true

/-- The error answers for a payload of the kind: it tells of it, or that the page it was on has
no token. -/
def Error.AnswersFor (k : Entity) (err : Error) : Prop :=
  err = .unreadable k ∨ ∃ s : Scope, err = .pagination s.table

/-- What an operation comes to after what was said. The kinds in `due` are those of payloads that
were garbled before; the ones in `out` are still to be answered for. -/
structure Account (due : Entity → Prop) (out : α → Entity → Prop) (es : List Exchange)
    (r : Except Error α) : Prop where
  /-- A verdict is the result. -/
  decided : ∀ e ∈ es, ∀ err, e.verdict? = some err → r = .error err
  /-- No error is made up. -/
  caused : ∀ err, r = .error err → err.isOwn ∨ ∃ e ∈ es, e.verdict? = some err
  passed : ∀ a, r = .ok a → ∀ k, due k ∨ (∃ e ∈ es, e.Garbles k) → out a k
  answered : ∀ err, r = .error err → ∀ k, due k ∨ (∃ e ∈ es, e.Garbles k) →
    err.AnswersFor k ∨ ∃ e ∈ es, e.verdict? = some err

section

variable {due : Entity → Prop} {out : α → Entity → Prop} {e : Exchange} {es : List Exchange}
  {r : Except Error α}

/-- What one part leaves due is due where the next part begins. -/
lemma Account.append {b : β} {mid : β → Entity → Prop} {es' : List Exchange}
    (first : Account due mid es (.ok b)) (second : Account (mid b) out es' r) :
    Account due out (es ++ es') r := by
  have hclear : ∀ e ∈ es, ∀ err, e.verdict? ≠ some err := by
    intro e he err hv
    cases first.decided e he err hv
  have hlater : ∀ {err}, (∃ e ∈ es', e.verdict? = some err) →
      ∃ e ∈ es ++ es', e.verdict? = some err :=
    fun ⟨e, he, hv⟩ => ⟨e, List.mem_append_right _ he, hv⟩
  have hmid : ∀ k, due k ∨ (∃ e ∈ es ++ es', e.Garbles k) → mid b k ∨ ∃ e ∈ es', e.Garbles k := by
    rintro k (hk | ⟨e, he, hk⟩)
    · exact .inl (first.passed b rfl k (.inl hk))
    · rcases List.mem_append.mp he with he | he
      · exact .inl (first.passed b rfl k (.inr ⟨e, he, hk⟩))
      · exact .inr ⟨e, he, hk⟩
  refine ⟨fun e he err hv => ?_, fun err hr => (second.caused err hr).imp_right hlater,
    fun a hr k hk => second.passed a hr k (hmid k hk),
    fun err hr k hk => (second.answered err hr k (hmid k hk)).imp_right hlater⟩
  rcases List.mem_append.mp he with he | he
  · exact absurd hv (hclear e he err)
  · exact second.decided e he err hv

/-- Where the first part fails, the sequence does. -/
lemma Account.fail {err : Error} {mid : β → Entity → Prop}
    (h : Account due mid es (.error err)) : Account due out es (.error err) where
  decided e he err' hv := by
    cases h.decided e he err' hv
    rfl
  caused err' hr := by
    cases hr
    exact h.caused err rfl
  passed a hr := by cases hr
  answered err' hr := by
    cases hr
    exact h.answered err rfl

/-- An exchange that decides nothing only adds the payloads in it. -/
lemma Account.cons (h : Account (fun k => due k ∨ e.Garbles k) out es r)
    (hv : e.verdict? = none) : Account due out (e :: es) r := by
  have hsaid : Account due (fun (_ : Unit) k => due k ∨ e.Garbles k) [e] (.ok ()) := by
    refine ⟨fun e' he err hv' => ?_, fun err hr => (by cases hr), fun _ _ k hk => ?_,
      fun err hr => (by cases hr)⟩
    · rw [List.mem_singleton.mp he, hv] at hv'
      cases hv'
    · simpa using hk
  exact hsaid.append h

/-- The same where there is no payload in it. -/
lemma Account.cons_clear (h : Account due out es r) (hv : e.verdict? = none)
    (hclear : ∀ k, ¬ e.Garbles k) : Account due out (e :: es) r := by
  refine Account.cons ?_ hv
  simpa only [hclear, or_false] using h

/-- A verdict ends the operation. -/
lemma account_of_verdict {err : Error} (hv : e.verdict? = some err) :
    Account due out [e] (.error err) where
  decided e' he err' hv' := by
    obtain rfl := List.mem_singleton.mp he
    rw [hv] at hv'
    cases hv'
    rfl
  caused err' hr := by
    cases hr
    exact .inr ⟨e, List.mem_cons_self, hv⟩
  passed a hr := by cases hr
  answered err' hr k _ := by
    cases hr
    exact .inr ⟨e, List.mem_cons_self, hv⟩

end

/-- Nothing is to be answered for. -/
abbrev Clear : Entity → Prop := fun _ => False

namespace Operation

def Accounts (due : Entity → Prop) (out : α → Entity → Prop) (op : Operation α) : Prop :=
  ∀ es r, op.run.Talks es r → Account due out es r

variable {due : Entity → Prop} {out : α → Entity → Prop} {st : Statement}

lemma Accounts.bind {op : Operation β} {mid : β → Entity → Prop} {f : β → Operation α}
    (h : op.Accounts due mid) (hf : ∀ b, (f b).Accounts (mid b) out) :
    (op >>= f).Accounts due out := by
  intro es r ht
  rw [run_bind_eq] at ht
  obtain ⟨es₁, r₁, es₂, rfl, h₁, h₂⟩ := ht.of_bind
  cases r₁ with
  | error err =>
    cases h₂
    rw [List.append_nil]
    exact (h _ _ h₁).fail
  | ok b => exact (h _ _ h₁).append (hf b _ _ h₂)

/-! ### What is said -/

lemma talks_ask {r : Request} {f : r.Response → Operation α} {es : List Exchange}
    {result : Except Error α} (h : (ask r >>= f).run.Talks es result) :
    ∃ answer rest, es = ⟨r, answer⟩ :: rest ∧ (f answer).run.Talks rest result := by
  rw [run_bind_eq] at h
  cases h with
  | ask answer rest => exact ⟨answer, _, rfl, rest⟩

lemma talks_guarded {body : Operation α} {es : List Exchange} {r : Except Error α}
    (h : (guarded body).run.Talks es r) :
    (∃ i, es = [⟨.status, some i⟩] ∧ r = .error (.interrupted i))
      ∨ ∃ rest, es = ⟨.status, none⟩ :: rest ∧ body.run.Talks rest r := by
  obtain ⟨answer, rest, rfl, hrest⟩ := talks_ask h
  cases answer with
  | none => exact .inr ⟨rest, rfl, hrest⟩
  | some i =>
    cases hrest
    exact .inl ⟨i, rfl, rfl⟩

lemma talks_send {failure : Failure → Error} {f : Answer → Operation α} {es : List Exchange}
    {r : Except Error α} (h : (send st failure >>= f).run.Talks es r) :
    (∃ x, es = [⟨.send st, .failed x⟩] ∧ r = .error (failure x))
      ∨ (∃ i, es = [⟨.send st, .interrupted i⟩] ∧ r = .error (.interrupted i))
      ∨ ∃ a rest, es = ⟨.send st, .answered a⟩ :: rest ∧ (f a).run.Talks rest r := by
  rw [send, bind_assoc] at h
  obtain ⟨reply, rest, rfl, hrest⟩ := talks_ask h
  cases reply with
  | failed x =>
    cases hrest
    exact .inl ⟨x, rfl, rfl⟩
  | interrupted i =>
    cases hrest
    exact .inr (.inl ⟨i, rfl, rfl⟩)
  | answered a => exact .inr (.inr ⟨a, rest, rfl, hrest⟩)

/-! ### Without a statement -/

lemma accounts_fromExcept {r : Except Error α}
    (hok : ∀ a, r = .ok a → ∀ k, due k → out a k)
    (herror : ∀ err, r = .error err → err.isOwn ∧ ∀ k, due k → err.AnswersFor k) :
    (fromExcept r).Accounts due out := by
  intro es r' ht
  cases ht
  have hdue : ∀ k, due k ∨ (∃ e ∈ ([] : List Exchange), e.Garbles k) → due k := by simp
  exact ⟨by simp, fun err hr => .inl (herror err hr).1,
    fun a hr k hk => hok a hr k (hdue k hk),
    fun err hr k hk => .inl ((herror err hr).2 k (hdue k hk))⟩

lemma accounts_pure {a : α} (h : ∀ k, due k → out a k) :
    (pure a : Operation α).Accounts due out :=
  accounts_fromExcept (r := .ok a) (fun b hb => by cases hb; exact h) fun err hr => by cases hr

lemma accounts_throw {err : Error} (hown : err.isOwn) (h : ∀ k, due k → err.AnswersFor k) :
    (throw err : Operation α).Accounts due out :=
  accounts_fromExcept (r := .error err) (fun a hr => by cases hr) fun err' hr => by
    cases hr
    exact ⟨hown, h⟩

lemma accounts_ite {c : Prop} [Decidable c] {op op' : Operation α}
    (h : op.Accounts due out) (h' : op'.Accounts due out) :
    (if c then op else op').Accounts due out := by
  split
  · exact h
  · exact h'

lemma accounts_ask {r : Request} (hr : r ∈ [.clock, .randomBlock, .freshId])
    {f : r.Response → Operation α} (h : ∀ answer, (f answer).Accounts due out) :
    (ask r >>= f).Accounts due out := by
  simp only [List.mem_cons, List.not_mem_nil, or_false] at hr
  intro es r' ht
  obtain ⟨answer, rest, rfl, hrest⟩ := talks_ask ht
  have hclear : ∀ k, ¬ (⟨r, answer⟩ : Exchange).Garbles k := by
    rintro k ⟨st, a, text, he, -⟩
    rcases hr with rfl | rfl | rfl <;> cases he
  refine (h answer _ _ hrest).cons_clear ?_ hclear
  rcases hr with rfl | rfl | rfl <;> rfl

lemma accounts_guarded {body : Operation α} (h : body.Accounts due out) :
    (guarded body).Accounts due out := by
  intro es r ht
  rcases talks_guarded ht with ⟨i, rfl, rfl⟩ | ⟨rest, rfl, hrest⟩
  · exact account_of_verdict rfl
  · refine (h _ _ hrest).cons_clear rfl ?_
    rintro k ⟨st, a, text, he, -⟩
    cases he

/-! ### Behind a statement -/

/-- A statement whose failures are told as they should be, and whose answers are refused if the
driver cannot read them. -/
lemma accounts_send {failure : Failure → Error} {f : Answer → Operation α}
    (hfailure : ∀ x, failure x = st.refusal x)
    (hbad : ∀ a, st.decodes a = false → f a = throw (.database st.stage))
    (hgood : ∀ a, st.decodes a = true → (f a).Accounts
      (fun k => due k ∨ ∃ text, (k, text) ∈ st.payloads a ∧ k.reads text = false) out) :
    (send st failure >>= f).Accounts due out := by
  intro es r ht
  rcases talks_send ht with ⟨x, rfl, rfl⟩ | ⟨i, rfl, rfl⟩ | ⟨a, rest, rfl, hrest⟩
  · exact account_of_verdict (congrArg some (hfailure x).symm)
  · exact account_of_verdict rfl
  · cases hdec : st.decodes a with
    | false =>
      rw [hbad a hdec] at hrest
      cases hrest
      exact account_of_verdict (by simp [Exchange.verdict?, hdec])
    | true =>
      have hgarbles : ∀ k, (∃ text, (k, text) ∈ st.payloads a ∧ k.reads text = false)
          ↔ (⟨.send st, .answered a⟩ : Exchange).Garbles k := by
        intro k
        constructor
        · rintro ⟨text, hmem, htext⟩
          exact ⟨st, a, text, rfl, hmem, htext⟩
        · rintro ⟨st', a', text, he, hmem, htext⟩
          cases he
          exact ⟨text, hmem, htext⟩
      refine Account.cons ?_ (by simp [Exchange.verdict?, hdec])
      simpa only [hgarbles] using hgood a hdec _ _ hrest

/-- A statement of which only success counts, or the number of rows. -/
lemma accounts_execute {failure : Failure → Error} (hfailure : ∀ x, failure x = st.refusal x)
    (hdec : ∀ a, st.decodes a = true) (hclear : ∀ a, st.payloads a = []) :
    (execute st failure).Accounts due fun _ => due := by
  refine accounts_send hfailure (fun a hbad => ?_) fun a _ => ?_
  · rw [hdec] at hbad
    cases hbad
  · simp only [hclear, List.not_mem_nil, false_and, exists_false, or_false]
    cases a <;> exact accounts_pure fun _ => id

end Operation

end Catalog.Store
