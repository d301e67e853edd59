import Mathlib.Data.List.Forall2
import Catalog.Proofs.Store.Heeding

/-!
Two databases that answer alike. Their replies may differ in how failures are told, if not in
whether an insertion failed for its key, and in the texts of payloads that are none. A program
that cannot tell two such databases from each other sends the same to both and comes to the same
result; this is shown for programs part by part.
-/

namespace Catalog.Store

open Record

variable {α β γ δ : Type}

/-! ### Alike -/

/-- The payload is one of its kind. -/
def Entity.reads (text : String) : Entity → Bool
  | project => true
  | note => (Note.ofPayload? text).isSome
  | occurrence => (Occurrence.ofPayload? text).isSome

/-- Payloads that are the same, or both none of their kind. -/
def Entity.LikeTexts (e : Entity) (text text' : String) : Prop :=
  text = text' ∨ e.reads text = false ∧ e.reads text' = false

/-- What the rows of a scope are. -/
def Scope.entity : Scope → Entity
  | projects => .project
  | notes _ => .note
  | occurrences _ | noteOccurrences .. => .occurrence

/-- Where in its rows a statement finds payloads, and of what. -/
def Statement.payload? : Statement → Option (ℕ × Entity)
  | searchNote .. => some (0, .note)
  | searchOccurrence .. => some (0, .occurrence)
  | page s .. => some (1, s.entity)
  | _ => none

/-- What a statement inserts, and under which name. -/
def Statement.inserted? : Statement → Option (Entity × String)
  | insertProject name => some (.project, name)
  | insertNote p i _ => some (.note, Name.note p i)
  | insertOccurrence p i .. => some (.occurrence, Name.occurrence p i)
  | _ => none

/-- The failure of an insertion that tells that the key is taken. -/
def Statement.IsConflict (st : Statement) (f : Failure) : Prop :=
  st.inserted?.isSome ∧ f.code = some uniqueViolation

/-- Rows that differ at most in a payload that is none in either. -/
def Statement.LikeRows (st : Statement) (row row' : List Value) : Prop :=
  row = row' ∨ ∃ k e text text', st.payload? = some (k, e) ∧ row[k]? = some (.text text)
    ∧ row' = row.set k (.text text') ∧ e.reads text = false ∧ e.reads text' = false

def Answer.Alike (st : Statement) : Answer → Answer → Prop
  | .affected n, .affected n' => n = n'
  | .rows found, .rows found' => List.Forall₂ st.LikeRows found found'
  | _, _ => False

def Reply.Alike (st : Statement) : Reply → Reply → Prop
  | .answered a, .answered a' => a.Alike st a'
  | .failed f, .failed f' => st.IsConflict f ↔ st.IsConflict f'
  | .interrupted i, .interrupted i' => i = i'
  | _, _ => False

/-- The same is asked, and answered alike. -/
inductive Exchange.Alike : Exchange → Exchange → Prop
  | same (e : Exchange) : Alike e e
  | reply {st : Statement} {reply reply' : Reply} (alike : reply.Alike st reply') :
      Alike ⟨.send st, reply⟩ ⟨.send st, reply'⟩

lemma Exchange.Alike.statement?_eq {e e' : Exchange} (h : e.Alike e') :
    e.statement? = e'.statement? := by
  cases h <;> rfl

lemma statements_eq {es es' : List Exchange} (h : List.Forall₂ Exchange.Alike es es') :
    statements es = statements es' := by
  induction h with
  | nil => rfl
  | cons he _ ih =>
    simp only [statements, List.filterMap_cons, he.statement?_eq] at ih ⊢
    rw [ih]

lemma Entity.LikeTexts.refl (e : Entity) (text : String) : e.LikeTexts text text := .inl rfl

lemma Answer.Alike.refl (st : Statement) (a : Answer) : a.Alike st a := by
  cases a with
  | affected n => rfl
  | rows found => exact List.forall₂_same.mpr fun _ _ => .inl rfl

lemma Reply.Alike.refl (st : Statement) (reply : Reply) : reply.Alike st reply := by
  cases reply with
  | answered a => exact Answer.Alike.refl st a
  | failed f => exact Iff.rfl
  | interrupted i => rfl

/-- Where no payload is read, answers that are alike are the same. -/
lemma Answer.Alike.eq {st : Statement} (hst : st.payload? = none) {a a' : Answer}
    (h : a.Alike st a') : a = a' := by
  have hrows : st.LikeRows = Eq := by
    funext row row'
    simp [Statement.LikeRows, hst]
  cases a with
  | affected n =>
    cases a' with
    | affected n' => exact congrArg _ h
    | rows found' => exact h.elim
  | rows found =>
    cases a' with
    | affected n' => exact h.elim
    | rows found' =>
      have hfound : List.Forall₂ st.LikeRows found found' := h
      rw [hrows, List.forall₂_eq_eq_eq] at hfound
      exact congrArg _ hfound

/-! ### Programs side by side -/

/-- The programs ask the same as long as they are answered alike, and their results are related. -/
inductive Program.Parallel (R : α → β → Prop) : Program α → Program β → Prop
  | done {a : α} {b : β} (related : R a b) : Parallel R (.done a) (.done b)
  | ask {r : Request} {next : r.Response → Program α} {next' : r.Response → Program β}
      (parallel : ∀ answer answer', Exchange.Alike ⟨r, answer⟩ ⟨r, answer'⟩ →
        Parallel R (next answer) (next' answer')) : Parallel R (.ask r next) (.ask r next')

lemma Program.Parallel.bind {R : α → β → Prop} {S : γ → δ → Prop} {p : Program α}
    {p' : Program β} {f : α → Program γ} {f' : β → Program δ} (h : p.Parallel R p')
    (hf : ∀ a b, R a b → (f a).Parallel S (f' b)) : (p >>= f).Parallel S (p' >>= f') := by
  induction h with
  | done related => exact hf _ _ related
  | ask _ ih => exact .ask ih

/-- Peers that answer alike as long as all was alike before. -/
def Peer.Alike (peer peer' : Peer) : Prop :=
  ∀ past past', List.Forall₂ Exchange.Alike past past' →
    ∀ r, Exchange.Alike ⟨r, peer past r⟩ ⟨r, peer' past' r⟩

/-- Against peers that answer alike, conversations are alike and results related. -/
lemma Program.Parallel.talk {R : α → β → Prop} {p : Program α} {p' : Program β}
    (h : p.Parallel R p') {peer peer' : Peer} (hpeer : peer.Alike peer')
    {past past' : List Exchange} (hpast : List.Forall₂ Exchange.Alike past past') :
    List.Forall₂ Exchange.Alike (p.talk peer past).1 (p'.talk peer' past').1
      ∧ R (p.talk peer past).2 (p'.talk peer' past').2 := by
  induction h generalizing past past' with
  | done related => exact ⟨.nil, related⟩
  | @ask r next next' _ ih =>
    have he := hpeer past past' hpast r
    obtain ⟨hrest, hresult⟩ := ih _ _ he (List.rel_append hpast (.cons he .nil))
    exact ⟨.cons he hrest, hresult⟩

/-! ### Operations side by side -/

/-- Both fail for one reason, or succeed with related results. -/
def Outcomes (R : α → β → Prop) : Except Error α → Except Error β → Prop
  | .ok a, .ok b => R a b
  | .error e, .error e' => e = e'
  | _, _ => False

lemma outcomes_eq {r r' : Except Error α} : Outcomes Eq r r' ↔ r = r' := by
  cases r <;> cases r' <;> simp [Outcomes]

namespace Operation

def Parallel (R : α → β → Prop) (op : Operation α) (op' : Operation β) : Prop :=
  op.run.Parallel (Outcomes R) op'.run

/-- The operation cannot tell from each other what answers alike. -/
def IsBlind (op : Operation α) : Prop := Parallel Eq op op

variable {R : α → β → Prop} {S : γ → δ → Prop} {op : Operation α} {op' : Operation β}

lemma Parallel.bind {f : α → Operation γ} {f' : β → Operation δ} (h : Parallel R op op')
    (hf : ∀ a b, R a b → Parallel S (f a) (f' b)) : Parallel S (op >>= f) (op' >>= f') := by
  rw [Parallel, run_bind_eq, run_bind_eq]
  refine Program.Parallel.bind h ?_
  rintro (e | a) (e' | b) hr
  · exact .done hr
  · exact hr.elim
  · exact hr.elim
  · exact hf a b hr

lemma Parallel.mono {S : α → β → Prop} (h : Parallel R op op') (hR : ∀ a b, R a b → S a b) :
    Parallel S op op' := by
  rw [Parallel, ← op.run.bind_pure, ← op'.run.bind_pure]
  refine Program.Parallel.bind h ?_
  rintro (e | a) (e' | b) hr
  · exact .done hr
  · exact hr.elim
  · exact hr.elim
  · exact .done (hR a b hr)

lemma IsBlind.parallel {op : Operation γ} {f : γ → Operation α} {f' : γ → Operation β}
    (h : IsBlind op) (hf : ∀ c, Parallel R (f c) (f' c)) : Parallel R (op >>= f) (op >>= f') := by
  refine Parallel.bind h ?_
  rintro c _ rfl
  exact hf c

lemma IsBlind.bind {f : α → Operation β} (h : IsBlind op) (hf : ∀ a, IsBlind (f a)) :
    IsBlind (op >>= f) := h.parallel hf

lemma parallel_pure {a : α} {b : β} (h : R a b) : Parallel R (pure a) (pure b) := .done h

lemma parallel_fromExcept {r : Except Error α} {r' : Except Error β} (h : Outcomes R r r') :
    Parallel R (fromExcept r) (fromExcept r') := .done h

lemma isBlind_pure (a : α) : IsBlind (pure a) := parallel_pure rfl

lemma isBlind_throw (e : Error) : IsBlind (throw e : Operation α) := .done rfl

lemma isBlind_fromExcept (r : Except Error α) : IsBlind (fromExcept r) :=
  parallel_fromExcept (outcomes_eq.mpr rfl)

lemma IsBlind.map (h : IsBlind op) (g : α → β) : IsBlind (g <$> op) := by
  rw [map_eq_pure_bind]
  exact h.bind fun a => isBlind_pure (g a)

lemma isBlind_ite {c : Prop} [Decidable c] {op op' : Operation α} (h : IsBlind op)
    (h' : IsBlind op') : IsBlind (if c then op else op') := by
  split
  · exact h
  · exact h'

/-- What is no statement is answered the same. -/
lemma isBlind_ask {r : Request} (hr : ∀ st, r ≠ .send st) : IsBlind (ask r) := by
  refine .ask fun answer answer' h => .done ?_
  cases h with
  | same => rfl
  | reply => exact absurd rfl (hr _)

lemma parallel_guarded (h : Parallel R op op') : Parallel R (guarded op) (guarded op') := by
  refine Parallel.bind (isBlind_ask (by simp)) ?_
  rintro (_ | i) _ rfl
  · exact h
  · exact .done rfl

lemma parallel_attempt (h : Parallel R op op') :
    Parallel (Outcomes R) (attempt op) (attempt op') :=
  Program.Parallel.bind h fun _ _ hr => .done hr

/-! ### Statements side by side -/

variable {st : Statement} {failure : Failure → Error} {stage : Stage}

/-- The meaning of a failure heeds nothing of it but whether it is a conflict. -/
def IsDiscreet (st : Statement) (failure : Failure → Error) : Prop :=
  ∀ f f', (st.IsConflict f ↔ st.IsConflict f') → failure f = failure f'

lemma parallel_send (hfailure : IsDiscreet st failure) :
    Parallel (Answer.Alike st) (send st failure) (send st failure) := by
  have halike : ∀ {reply reply' : Reply}, Exchange.Alike ⟨.send st, reply⟩ ⟨.send st, reply'⟩ →
      reply.Alike st reply' := by
    intro reply reply' h
    cases h with
    | same => exact Reply.Alike.refl st reply
    | reply alike => exact alike
  refine .ask fun reply reply' h => ?_
  cases reply <;> cases reply'
  case answered.answered => exact .done (halike h)
  case failed.failed => exact .done (hfailure _ _ (halike h))
  case interrupted.interrupted => exact .done (congrArg Error.interrupted (halike h))
  all_goals exact (halike h).elim

/-- Where no payload is read, nothing is to be told. -/
lemma isBlind_send (hst : st.payload? = none) (hfailure : IsDiscreet st failure) :
    IsBlind (send st failure) :=
  (parallel_send hfailure).mono fun _ _ h => h.eq hst

lemma isBlind_execute (hst : st.payload? = none) (hfailure : IsDiscreet st failure) :
    IsBlind (execute st failure) :=
  (isBlind_send hst hfailure).bind fun a => by cases a <;> exact isBlind_pure _

lemma isDiscreet_const (e : Error) : IsDiscreet st fun _ => e := fun _ _ _ => rfl

lemma isDiscreet_insertFailure {e : Entity} {name : String} (hst : st.inserted? = some (e, name)) :
    IsDiscreet st (insertFailure e name) := by
  intro f f' h
  have hcodes : f.code = some uniqueViolation ↔ f'.code = some uniqueViolation := by
    simpa [Statement.IsConflict, hst] using h
  simp only [insertFailure, hcodes]

lemma isBlind_fetch (hst : st.payload? = none) (read : List Value → Option α) :
    IsBlind (fetch st stage read) :=
  (isBlind_send hst (isDiscreet_const _)).bind fun a => by
    cases a with
    | affected n => exact isBlind_pure _
    | rows found => exact isBlind_fromExcept _

lemma isBlind_fetchFirst (hst : st.payload? = none) (read : List Value → Option α) :
    IsBlind (fetchFirst st stage read) :=
  (isBlind_send hst (isDiscreet_const _)).bind fun a => by
    rcases a with _ | _ | ⟨row, found⟩
    · exact isBlind_pure _
    · exact isBlind_pure _
    · exact isBlind_fromExcept _

/-! ### Payloads side by side -/

/-- The payload of a single record. -/
lemma parallel_fetchPayload {e : Entity} (hst : st.payload? = some (0, e)) :
    Parallel (Option.Rel e.LikeTexts) (fetchFirst st stage readPayload?)
      (fetchFirst st stage readPayload?) := by
  refine (parallel_send (isDiscreet_const _)).bind ?_
  rintro (n | found) (n' | found') h
  · exact parallel_pure .none
  · exact h.elim
  · exact h.elim
  · cases h with
    | nil => exact parallel_pure .none
    | @cons row row' _ _ hrow _ =>
      refine parallel_fromExcept ?_
      rcases hrow with rfl | ⟨k, e', text, text', hk, hget, rfl, htext, htext'⟩
      · cases readPayload? row with
        | none => exact rfl
        | some payload => exact Option.Rel.some (.refl e payload)
      · obtain ⟨rfl, rfl⟩ : 0 = k ∧ e = e' := by simpa [hst] using hk
        cases row with
        | nil => cases hget
        | cons v row =>
          obtain rfl : v = .text text := by simpa using hget
          exact Option.Rel.some (.inr ⟨htext, htext'⟩)

/-- Rows of a page that have the same ids, and payloads that are alike. -/
def LikeEntries (e : Entity) (x y : Int × String) : Prop := x.1 = y.1 ∧ e.LikeTexts x.2 y.2

lemma readRow?_like {s : Scope} {predicate : Option String} {after limit : Int}
    {row row' : List Value} (h : (Statement.page s predicate after limit).LikeRows row row') :
    Option.Rel (LikeEntries s.entity) (readRow? row) (readRow? row') := by
  rcases h with rfl | ⟨k, e, text, text', hk, hget, rfl, htext, htext'⟩
  · cases readRow? row with
    | none => exact .none
    | some x => exact .some ⟨rfl, .refl _ _⟩
  · obtain ⟨rfl, rfl⟩ : 1 = k ∧ s.entity = e := by simpa [Statement.payload?] using hk
    rcases row with _ | ⟨v, _ | ⟨v', row⟩⟩
    · cases hget
    · cases hget
    · obtain rfl : v' = .text text := by simpa using hget
      cases v with
      | int id => exact .some ⟨rfl, .inr ⟨htext, htext'⟩⟩
      | null | bool b | text t => exact .none

lemma mapM_rel {ρ : γ → δ → Prop} {read : γ → Option α} {read' : δ → Option β}
    (h : ∀ c d, ρ c d → Option.Rel R (read c) (read' d)) {cs : List γ} {ds : List δ}
    (hrows : List.Forall₂ ρ cs ds) :
    Option.Rel (List.Forall₂ R) (cs.mapM read) (ds.mapM read') := by
  induction hrows with
  | nil => exact .some .nil
  | @cons c d cs ds hcd _ ih =>
    have hread := h c d hcd
    rw [List.mapM_cons, List.mapM_cons]
    generalize read c = x, read' d = y at hread
    cases hread with
    | none => exact .none
    | some hab =>
      generalize cs.mapM read = xs, ds.mapM read' = ys at ih
      cases ih with
      | none => exact .none
      | some hrest => exact .some (.cons hab hrest)

lemma parallel_fetchPage (s : Scope) (predicate : Option String) (after limit : Int) :
    Parallel (List.Forall₂ (LikeEntries s.entity)) (fetchPage s predicate after limit)
      (fetchPage s predicate after limit) := by
  refine (parallel_send (isDiscreet_const _)).bind ?_
  rintro (n | found) (n' | found') h
  · exact parallel_pure .nil
  · exact h.elim
  · exact h.elim
  · refine parallel_fromExcept ?_
    have hfound : List.Forall₂ (Statement.page s predicate after limit).LikeRows found found' := h
    have hrel := mapM_rel (fun _ _ hrow => readRow?_like hrow) hfound
    generalize found.mapM readRow? = x, found'.mapM readRow? = y at hrel
    cases hrel with
    | none => exact rfl
    | some hrows => exact hrows

end Operation

end Catalog.Store
