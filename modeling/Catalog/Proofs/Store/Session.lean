import Mathlib.Algebra.Group.Nat.Defs
import Catalog.Proofs.Store.Answers
import Catalog.Proofs.Store.Execution

/-!
A client at work while others write. Each of its requests meets the world at a moment of its own;
the tables may be any others at the next one. Inside of a transaction that was set to one state,
every query reads the tables as its first one found them.
-/

namespace Catalog.Store

/-- What may become of a statement instead of an answer. -/
inductive Fault
  | failed (f : Failure)
  | interrupted (i : Context.Interruption)

def Fault.reply : Fault → Reply
  | failed f => .failed f
  | interrupted i => .interrupted i

/-- The world as a request meets it. -/
structure Moment where
  database : Database
  status : Option Context.Interruption
  fault : Option Fault
  /-- What is said to statements whose meaning is left open. -/
  otherwise : Answer
  time : Time
  time_lt : time.unixSeconds < 2 ^ 64
  block : Cipher.Block
  freshId : String

/-- A world at the successive requests of a client, and what conditions mean in it. -/
structure World where
  moments : ℕ → Moment
  meaning : Meaning

/-- Which state of the tables queries read. -/
inductive View
  | current
  /-- The one that the next query finds. -/
  | unpinned
  | pinned (moment : ℕ)

/-- How far the client is: the number of its requests, its view of the tables, and the moments
whose tables it read, last first. -/
structure Session where
  moment : ℕ
  view : View
  reads : List ℕ

namespace Session

/-- The state of the tables that a query of the session reads. -/
def seen (c : Session) : ℕ :=
  match c.view with
  | .pinned k => k
  | _ => c.moment

def next (c : Session) : Session := { c with moment := c.moment + 1 }

/-- The session with another view, one request later. -/
def turn (c : Session) (v : View) : Session := ⟨c.moment + 1, v, c.reads⟩

/-- The session after a query. -/
def read (c : Session) : Session where
  moment := c.moment + 1
  view := match c.view with
    | .unpinned => .pinned c.moment
    | v => v
  reads := c.seen :: c.reads

@[simp] lemma moment_next (c : Session) : c.next.moment = c.moment + 1 := rfl

@[simp] lemma reads_next (c : Session) : c.next.reads = c.reads := rfl

@[simp] lemma moment_turn (c : Session) (v : View) : (c.turn v).moment = c.moment + 1 := rfl

@[simp] lemma reads_turn (c : Session) (v : View) : (c.turn v).reads = c.reads := rfl

@[simp] lemma moment_read (c : Session) : c.read.moment = c.moment + 1 := rfl

@[simp] lemma reads_read (c : Session) : c.read.reads = c.seen :: c.reads := rfl

/-- The session sees and has seen the tables as they were, not as they will be. -/
def Past (c : Session) : Prop := c.seen ≤ c.moment ∧ ∀ k ∈ c.reads, k < c.moment

lemma Past.next {c : Session} (h : c.Past) : c.next.Past := by
  refine ⟨?_, fun k hk => (h.2 k hk).trans (Nat.lt_succ_self _)⟩
  rcases c with ⟨moment, _ | _ | k, reads⟩
  · exact le_rfl
  · exact le_rfl
  · exact h.1.trans (Nat.le_succ _)

lemma Past.turn {c : Session} {v : View} (h : c.Past) (hv : (c.turn v).seen = c.moment + 1) :
    (c.turn v).Past :=
  ⟨hv.le, fun k hk => (h.2 k hk).trans (Nat.lt_succ_self _)⟩

lemma Past.read {c : Session} (h : c.Past) : c.read.Past := by
  constructor
  · rcases c with ⟨moment, _ | _ | k, reads⟩
    · exact le_rfl
    · exact Nat.le_succ _
    · exact h.1.trans (Nat.le_succ _)
  · intro k hk
    rcases List.mem_cons.mp hk with rfl | hk
    · exact Nat.lt_succ_of_le h.1
    · exact (h.2 k hk).trans (Nat.lt_succ_self _)

end Session

namespace World

variable (w : World) {α β : Type} {c : Session}

/-- What becomes of a statement. -/
def reply (st : Statement) (c : Session) : Reply × Session :=
  match (w.moments c.moment).fault with
  | some f => (f.reply, c.next)
  | none =>
    match st with
    | .begin => (.answered (w.moments c.moment).otherwise, c.next)
    | .snapshot => (.answered (w.moments c.moment).otherwise, c.turn .unpinned)
    | .commit => (.answered (w.moments c.moment).otherwise, c.turn .current)
    | st =>
      (.answered ((((w.moments c.seen).database.answer? w.meaning st).map .rows).getD
        (w.moments c.moment).otherwise), c.read)

def respond (r : Request) : StateM Session r.Response :=
  match r with
  | .status => fun c => ((w.moments c.moment).status, c.next)
  | .send st => fun c => w.reply st c
  | .clock => fun c => ((w.moments c.moment).time, c.next)
  | .randomBlock => fun c => ((w.moments c.moment).block, c.next)
  | .freshId => fun c => ((w.moments c.moment).freshId, c.next)

/-- The result of an operation in the world, and the session after it. -/
def run (op : Operation α) (c : Session) : Except Error α × Session :=
  op.runIn w.respond c

end World

/-! ### Execution -/

namespace World

open Operation

variable {w : World} {α β : Type} {c : Session}

lemma run_bind (op : Operation α) (f : α → Operation β) (c : Session) :
    w.run (op >>= f) c = match w.run op c with
      | (.ok a, c') => w.run (f a) c'
      | (.error e, c') => (.error e, c') := by
  rw [run, runIn_bind]
  rcases hrun : op.runIn w.respond c with ⟨_ | _, _⟩ <;> simp only [run, hrun]

/-- What was read stays on record, and only what is past is on it. -/
lemma reads_respond (r : Request) (c : Session) :
    c.reads ⊆ (w.respond r c).2.reads ∧ (c.Past → (w.respond r c).2.Past) := by
  cases r with
  | send st =>
    change c.reads ⊆ (w.reply st c).2.reads ∧ (c.Past → (w.reply st c).2.Past)
    unfold reply
    split
    · exact ⟨List.Subset.refl _, Session.Past.next⟩
    · split
      · exact ⟨List.Subset.refl _, Session.Past.next⟩
      · exact ⟨List.Subset.refl _, fun h => h.turn rfl⟩
      · exact ⟨List.Subset.refl _, fun h => h.turn rfl⟩
      · exact ⟨List.subset_cons_self _ _, Session.Past.read⟩
  | status | clock | randomBlock | freshId => exact ⟨List.Subset.refl _, Session.Past.next⟩

lemma reads_run (op : Operation α) (c : Session) :
    c.reads ⊆ (w.run op c).2.reads ∧ (c.Past → (w.run op c).2.Past) := by
  have hprogram : ∀ (p : Program (Except Error α)) (c : Session),
      c.reads ⊆ ((p.run w.respond).run c).2.reads
        ∧ (c.Past → ((p.run w.respond).run c).2.Past) := by
    intro p
    induction p with
    | done a => exact fun c => ⟨List.Subset.refl _, id⟩
    | ask r next ih =>
      intro c
      have hfirst := w.reads_respond r c
      have hrest := ih (w.respond r c).1 (w.respond r c).2
      exact ⟨List.Subset.trans hfirst.1 hrest.1, hrest.2 ∘ hfirst.2⟩
  exact hprogram op.run c

@[simp] lemma run_pure (a : α) (c : Session) : w.run (pure a) c = (.ok a, c) := rfl

@[simp] lemma run_throw (e : Error) (c : Session) :
    w.run (throw e : Operation α) c = (.error e, c) := rfl

@[simp] lemma run_fromExcept (r : Except Error α) (c : Session) :
    w.run (fromExcept r) c = (r, c) := rfl

/-- A sequence that succeeds does so in two steps. -/
lemma run_bind_eq_ok {op : Operation α} {f : α → Operation β} {b : β} {c' : Session} :
    w.run (op >>= f) c = (.ok b, c')
      ↔ ∃ a c₁, w.run op c = (.ok a, c₁) ∧ w.run (f a) c₁ = (.ok b, c') := by
  rw [run_bind]
  rcases w.run op c with ⟨a | e, c₁⟩ <;> simp

lemma run_guarded (body : Operation α) (c : Session) :
    w.run (guarded body) c = match (w.moments c.moment).status with
      | some i => (.error (.interrupted i), c.next)
      | none => w.run body c.next := by
  have hstatus : w.respond .status c = ((w.moments c.moment).status, c.next) := rfl
  rw [run, runIn_guarded, hstatus]
  cases (w.moments c.moment).status <;> rfl

lemma run_send (st : Statement) (failure : Failure → Error) (c : Session) :
    w.run (send st failure) c = match w.reply st c with
      | (.answered a, c') => (.ok a, c')
      | (.failed f, c') => (.error (failure f), c')
      | (.interrupted i, c') => (.error (.interrupted i), c') := by
  have hreply : w.respond (.send st) c = w.reply st c := rfl
  rw [run, runIn_send, hreply]
  rcases w.reply st c with ⟨_ | _ | _, _⟩ <;> rfl

/-- Where only the sending matters, an operation does what its statement does. -/
lemma run_discard_execute (st : Statement) (failure : Failure → Error) (c : Session) :
    w.run (discard (execute st failure)) c = match w.reply st c with
      | (.answered _, c') => (.ok ⟨⟩, c')
      | (.failed f, c') => (.error (failure f), c')
      | (.interrupted i, c') => (.error (.interrupted i), c') := by
  rw [discard_eq, run_bind, execute, run_bind, run_send]
  rcases w.reply st c with ⟨a | _ | _, c'⟩
  · cases a <;> rfl
  · rfl
  · rfl

/-! ### The two reads of a listing -/

/-- The error of a fault at a stage. -/
def errorOf (stage : Stage) : Fault → Error
  | .failed _ => .database stage
  | .interrupted i => .interrupted i

variable {filter : Option Sql.Fragment} {s : Scope}

/-- The statement is answered from the tables, or meets a fault. -/
def IsQuery (st : Statement) : Prop := st ∉ [Statement.begin, .snapshot, .commit]

lemma reply_query {st : Statement} (hst : IsQuery st) (c : Session) {rows : List (List Value)}
    (h : (w.moments c.seen).database.answer? w.meaning st = some rows) :
    w.reply st c = match (w.moments c.moment).fault with
      | some f => (f.reply, c.next)
      | none => (.answered (.rows rows), c.read) := by
  unfold reply
  cases (w.moments c.moment).fault with
  | some f => rfl
  | none =>
    cases st with
    | begin | snapshot | commit => exact absurd (by simp) hst
    | _ => simp only [h, Option.map_some, Option.getD_some]

lemma run_send_query {st : Statement} (hst : IsQuery st) (stage : Stage) (c : Session)
    {rows : List (List Value)}
    (h : (w.moments c.seen).database.answer? w.meaning st = some rows) :
    w.run (send st fun _ => .database stage) c = match (w.moments c.moment).fault with
      | some f => (.error (errorOf stage f), c.next)
      | none => (.ok (.rows rows), c.read) := by
  rw [run_send, reply_query hst c h]
  rcases (w.moments c.moment).fault with _ | _ | _ <;> rfl

/-- A page is what the table holds at the moment that the session sees. -/
lemma run_fetchPage (h : ∀ f ∈ filter, IsClause f) {after limit : Int} (hlimit : 0 ≤ limit)
    (c : Session) :
    w.run (fetchPage s (filter.map sqlOf) after limit) c
      = match (w.moments c.moment).fault with
        | some f => (.error (errorOf .list f), c.next)
        | none => (.ok ((s.pageRows w.meaning (filter.map sqlOf) (w.moments c.seen).database after
            limit).map fun row => (row.id, s.shown row)), c.read) := by
  rw [fetchPage, fetch, run_bind, run_send_query (by simp [IsQuery]) .list c
    (answer?_page _ w.meaning s h hlimit)]
  cases (w.moments c.moment).fault with
  | some f => rfl
  | none => simp only [run_fromExcept, mapM_readRow?, Option.elim_some]

lemma run_fetchMax (h : ∀ f ∈ filter, IsClause f) (c : Session) :
    w.run (fetchMax s (filter.map sqlOf)) c
      = match (w.moments c.moment).fault with
        | some f => (.error (errorOf .maxId f), c.next)
        | none => (.ok (maxOf (s.matching w.meaning (filter.map sqlOf)
            (w.moments c.seen).database)), c.read) := by
  rw [fetchMax, fetchFirst, run_bind, run_bind, run_send_query (by simp [IsQuery]) .maxId c
    (answer?_maxId _ w.meaning s h)]
  cases (w.moments c.moment).fault with
  | some f => rfl
  | none => simp only [run_fromExcept, readMax?_greatest, Option.elim_some, Function.comp_apply,
      run_pure]

end World

end Catalog.Store
