import Mathlib.Tactic.Common
import Catalog.Store.Listing
import Catalog.Store.Occurrence
import Catalog.Store.Project
import Catalog.Store.Summary

/-!
The statements that an operation may send, whatever it is answered.
-/

namespace Catalog.Store

variable {α β : Type} {st : Statement}

/-- The program sends the statement for some answers to its requests. -/
inductive Program.Sends (st : Statement) : Program α → Prop
  | here (next : Reply → Program α) : Sends st (.ask (.send st) next)
  | later {r : Request} {next : r.Response → Program α} (answer : r.Response)
      (sends : Sends st (next answer)) : Sends st (.ask r next)

def Operation.Sends (st : Statement) (op : Operation α) : Prop := Program.Sends st op.run

lemma Program.not_sends_done (a : α) : ¬ Sends st (.done a) := by
  intro h
  cases h

/-- A sequence sends what its first part sends, or what its second part does. -/
lemma Program.Sends.bind {p : Program α} {f : α → Program β} (h : Sends st (p >>= f)) :
    Sends st p ∨ ∃ a, Sends st (f a) := by
  induction p with
  | done a => exact .inr ⟨a, h⟩
  | ask r next ih =>
    rw [bind_ask] at h
    cases h with
    | here => exact .inl (.here next)
    | later answer sends =>
      rcases ih answer sends with h | h
      · exact .inl (.later answer h)
      · exact .inr h

lemma Program.Sends.bind_left {p : Program α} (h : Sends st p) (f : α → Program β) :
    Sends st (p >>= f) := by
  induction h with
  | here next => exact .here _
  | later answer _ ih => exact .later answer ih

namespace Operation

/-- What comes after an operation goes on only if it succeeds. -/
lemma run_bind_eq (op : Operation α) (f : α → Operation β) :
    (op >>= f).run = op.run >>= fun r => match r with
      | .ok a => (f a).run
      | .error e => .done (.error e) := by
  rw [ExceptT.run_bind]
  congr 1
  funext r
  cases r <;> rfl

lemma Sends.bind {op : Operation α} {f : α → Operation β} (h : (op >>= f).Sends st) :
    op.Sends st ∨ ∃ a, (f a).Sends st := by
  rw [Sends, run_bind_eq] at h
  rcases h.bind with h | ⟨r, h⟩
  · exact .inl h
  · cases r with
    | ok a => exact .inr ⟨a, h⟩
    | error e => exact absurd h (Program.not_sends_done _)

lemma Sends.bind_left {op : Operation α} (h : op.Sends st) (f : α → Operation β) :
    (op >>= f).Sends st := by
  rw [Sends, run_bind_eq]
  exact Program.Sends.bind_left h _

lemma not_sends_pure (a : α) : ¬ (pure a : Operation α).Sends st := Program.not_sends_done _

lemma not_sends_throw (e : Error) : ¬ (throw e : Operation α).Sends st := Program.not_sends_done _

lemma not_sends_fromExcept (r : Except Error α) : ¬ (fromExcept r).Sends st :=
  Program.not_sends_done _

lemma fromExcept_ok_bind (a : α) (f : α → Operation β) : fromExcept (.ok a) >>= f = f a := rfl

lemma fromExcept_error_bind (e : Error) (f : α → Operation β) :
    fromExcept (.error e) >>= f = throw e := rfl

/-- A question that is no statement. -/
lemma not_sends_ask {r : Request} (h : ∀ s, r ≠ .send s) : ¬ (ask r).Sends st := by
  intro hs
  cases hs with
  | here => exact h _ rfl
  | later answer sends => exact Program.not_sends_done _ sends

lemma sends_send {s : Statement} {failure : Failure → Error}
    (h : (send s failure).Sends st) : st = s := by
  rcases Sends.bind h with h | ⟨reply, h⟩
  · cases h with
    | here => rfl
    | later answer sends => exact absurd sends (Program.not_sends_done _)
  · cases reply with
    | answered a => exact absurd h (not_sends_pure _)
    | failed f => exact absurd h (not_sends_throw _)
    | interrupted i => exact absurd h (not_sends_throw _)

lemma sends_guarded {body : Operation α} (h : (guarded body).Sends st) : body.Sends st := by
  rcases Sends.bind h with h | ⟨status, h⟩
  · exact absurd h (not_sends_ask (by simp))
  · cases status with
    | none => exact h
    | some i => exact absurd h (not_sends_throw _)

lemma sends_execute {s : Statement} {failure : Failure → Error}
    (h : (execute s failure).Sends st) : st = s := by
  rcases Sends.bind h with h | ⟨answer, h⟩
  · exact sends_send h
  · cases answer <;> exact absurd h (not_sends_pure _)

lemma sends_fetch {s : Statement} {stage : Stage} {read : List Value → Option α}
    (h : (fetch s stage read).Sends st) : st = s := by
  rcases Sends.bind h with h | ⟨answer, h⟩
  · exact sends_send h
  · cases answer with
    | affected => exact absurd h (not_sends_pure _)
    | rows => exact absurd h (not_sends_fromExcept _)

lemma sends_fetchFirst {s : Statement} {stage : Stage} {read : List Value → Option α}
    (h : (fetchFirst s stage read).Sends st) : st = s := by
  rcases Sends.bind h with h | ⟨answer, h⟩
  · exact sends_send h
  · rcases answer with _ | _ | ⟨row, rows⟩
    · exact absurd h (not_sends_pure _)
    · exact absurd h (not_sends_pure _)
    · exact absurd h (not_sends_fromExcept _)

lemma discard_eq (op : Operation α) : discard op = op >>= fun _ => pure PUnit.unit := by
  exact map_eq_pure_bind _ op

lemma sends_discard {op : Operation α} (h : (discard op).Sends st) : op.Sends st := by
  rw [discard_eq] at h
  rcases h.bind with h | ⟨a, h⟩
  · exact h
  · exact absurd h (not_sends_pure _)

end Operation

open Operation

/-! ### Listings -/

lemma sends_readPage {s : Scope} {predicate : Option String} {after limit : Int}
    (h : (readPage s predicate after limit).Sends st) :
    st = .page s predicate after limit ∨ st = .maxId s predicate := by
  rcases Sends.bind h with h | ⟨rows, h⟩
  · exact .inl (sends_fetch h)
  · split at h
    · exact absurd h (not_sends_pure _)
    · rcases Sends.bind h with h | ⟨id, h⟩
      · rcases Sends.bind h with h | ⟨found, h⟩
        · exact .inr (sends_fetchFirst h)
        · cases found with
          | some id => exact absurd h (not_sends_pure _)
          | none => exact absurd h (not_sends_throw _)
      · exact absurd h (not_sends_pure _)

lemma sends_readSnapshot {s : Scope} {predicate : Option String} {after limit : Int}
    (h : (readSnapshot s predicate after limit).Sends st) :
    (st = .page s predicate after limit ∨ st = .maxId s predicate)
      ∨ st ∈ [Statement.begin, .snapshot, .commit] := by
  rcases Sends.bind h with h | ⟨-, h⟩
  · exact .inr (by simp [sends_execute (sends_discard h)])
  · rcases Sends.bind h with h | ⟨-, h⟩
    · exact .inr (by simp [sends_execute (sends_discard h)])
    · rcases Sends.bind h with h | ⟨result, h⟩
      · exact .inl (sends_readPage h)
      · rcases Sends.bind h with h | ⟨-, h⟩
        · exact .inr (by simp [sends_execute (sends_discard h)])
        · exact absurd h (not_sends_pure _)

lemma not_sends_nextToken (store : Store) (s : Scope) (id : Int) :
    ¬ (nextToken store s id).Sends st := by
  intro h
  rcases Sends.bind h with h | ⟨now, h⟩
  · exact not_sends_ask (by simp) h
  · rcases Sends.bind h with h | ⟨start, h⟩
    · exact not_sends_ask (by simp) h
    · split at h
      · exact not_sends_pure _ h
      · exact not_sends_throw _ h

/-- A listing sends the page statement and the one for the greatest id, both with the predicate of
its filter, and what a transaction around them needs. -/
lemma sends_list {store : Store} {s : Scope} {filter token : String} {size : Int}
    (h : (store.list s filter token size).Sends st) :
    ∃ predicate, store.predicate? s.anchor filter = .ok predicate
      ∧ ((∃ now : Time, st = .page s predicate (store.cursor.decode now.unixSeconds 0 token)
            (store.options.pageSize size))
        ∨ st = .maxId s predicate ∨ st ∈ [Statement.begin, .snapshot, .commit]) := by
  rw [list] at h
  cases hp : store.predicate? s.anchor filter with
  | error e =>
    rw [hp, fromExcept_error_bind] at h
    exact absurd h (not_sends_throw e)
  | ok predicate =>
    refine ⟨predicate, rfl, ?_⟩
    rw [hp, fromExcept_ok_bind] at h
    rcases Sends.bind h with h | ⟨now, h⟩
    · exact absurd h (not_sends_ask (by simp))
    rcases Sends.bind h with h | ⟨⟨rows, maxId⟩, h⟩
    · have hread := sends_guarded h
      split at hread
      · rcases sends_readSnapshot hread with (hs | hs) | hs
        · exact .inl ⟨now, hs⟩
        · exact .inr (.inl hs)
        · exact .inr (.inr hs)
      · rcases sends_readPage hread with hs | hs
        · exact .inl ⟨now, hs⟩
        · exact .inr (.inl hs)
    · -- behind the two reads no statement is sent
      exfalso
      simp only at h
      split at h
      · exact not_sends_pure _ h
      · split at h
        · rcases Sends.bind h with h | ⟨token, h⟩
          · exact not_sends_nextToken _ _ _ h
          · exact not_sends_pure _ h
        · rcases Sends.bind h with h | ⟨token, h⟩ <;> exact not_sends_pure _ h

/-! ### Calls -/

/-- A call that lists or counts under a filter. -/
inductive Call
  | projects
  | notes (project : String)
  | occurrences (project : String)
  | noteOccurrences (project id : String)
  | summary (project : String)

namespace Call

/-- The values that bound what the call may see. -/
def values : Call → List String
  | projects => []
  | notes p | occurrences p | summary p => [p]
  | noteOccurrences p i => [p, i]

/-- What its filter looks into. -/
def anchor : Call → String
  | projects => Filter.projectAnchor
  | _ => Filter.payloadAnchor

/-- The call sends the statement for some answers to its requests. -/
def Sends (store : Store) (filter token : String) (size : Int) (st : Statement) : Call → Prop
  | projects => (store.listProjects filter token size).Sends st
  | notes p => (store.listNotes p filter token size).Sends st
  | occurrences p => (store.listOccurrences p filter token size).Sends st
  | noteOccurrences p i => (store.listNoteOccurrences p i filter token size).Sends st
  | summary p => (store.summarize p filter).Sends st

/-- What it lists. -/
def scope? : Call → Option Scope
  | projects => some .projects
  | notes p => some (.notes p)
  | occurrences p => some (.occurrences p)
  | noteOccurrences p i => some (.noteOccurrences p i)
  | summary _ => none

lemma anchor_of_scope? {call : Call} {s : Scope} (h : call.scope? = some s) :
    s.anchor = call.anchor ∧ s.keys.map Prod.snd = call.values := by
  cases call <;> simp only [scope?, Option.some.injEq, reduceCtorEq] at h <;> subst h <;>
    exact ⟨rfl, rfl⟩

lemma sends_listOccurrencesIn {store : Store} {s : Scope} {filter token : String} {size : Int}
    (h : (store.listOccurrencesIn s filter token size).Sends st) :
    (store.list s filter token size).Sends st := by
  rcases Sends.bind h with h | ⟨page, h⟩
  · exact h
  · rcases Sends.bind h with h | ⟨occurrences, h⟩
    · exact absurd h (not_sends_fromExcept _)
    · exact absurd h (not_sends_pure _)

lemma sends_getNote {project id : String} (h : (getNote project id).Sends st) :
    st = .searchNote project id := by
  rcases Sends.bind h with h | ⟨found, h⟩
  · exact sends_fetchFirst (sends_guarded h)
  · cases found with
    | none => exact absurd h (not_sends_throw _)
    | some payload =>
      rcases Sends.bind h with h | ⟨note, h⟩
      · exact absurd h (not_sends_fromExcept _)
      · exact absurd h (not_sends_pure _)

/-- A call sends what its listing does; before the occurrences of a note it looks for the note. -/
lemma sends_cases {store : Store} {filter token : String} {size : Int} {call : Call}
    (h : call.Sends store filter token size st) :
    (∃ s, call.scope? = some s ∧ (store.list s filter token size).Sends st)
      ∨ (∃ p i, call = noteOccurrences p i ∧ st = .searchNote p i)
      ∨ ∃ p predicate, call = summary p
        ∧ store.predicate? call.anchor filter = .ok predicate ∧ st = .summary p predicate := by
  cases call with
  | projects =>
    rcases Operation.Sends.bind h with h | ⟨page, h⟩
    · exact .inl ⟨_, rfl, h⟩
    · exact absurd h (not_sends_pure _)
  | notes p =>
    rcases Operation.Sends.bind h with h | ⟨page, h⟩
    · exact .inl ⟨_, rfl, h⟩
    · rcases Operation.Sends.bind h with h | ⟨notes, h⟩
      · exact absurd h (not_sends_fromExcept _)
      · exact absurd h (not_sends_pure _)
  | occurrences p => exact .inl ⟨_, rfl, sends_listOccurrencesIn h⟩
  | noteOccurrences p i =>
    rcases Operation.Sends.bind h with h | ⟨-, h⟩
    · exact .inr (.inl ⟨p, i, rfl, sends_getNote (sends_discard h)⟩)
    · exact .inl ⟨_, rfl, sends_listOccurrencesIn h⟩
  | summary p =>
    refine .inr (.inr ?_)
    have hs : (store.summarize p filter).Sends st := h
    rw [summarize] at hs
    cases hp : store.predicate? Filter.payloadAnchor filter with
    | error e =>
      rw [hp, fromExcept_error_bind] at hs
      exact absurd hs (not_sends_throw e)
    | ok predicate =>
      rw [hp, fromExcept_ok_bind] at hs
      rcases Operation.Sends.bind hs with hs | ⟨counts, hs⟩
      · exact ⟨p, predicate, rfl, hp, sends_fetch (sends_guarded hs)⟩
      · exact absurd hs (not_sends_pure _)

end Call

end Catalog.Store
