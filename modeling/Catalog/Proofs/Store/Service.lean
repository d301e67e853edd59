import Catalog.Proofs.Store.Engine
import Catalog.Proofs.Store.Session
import Catalog.Proofs.Time.Text

/-!
Operations at work on the tables of one engine. At each of its requests an operation may meet a
mishap, and a statement may have been carried out even if its answer never came.
-/

namespace Catalog.Store

open Operation

/-- What a request meets. -/
structure Occasion where
  status : Option Context.Interruption
  /-- What a statement meets instead of its answer, and whether it was carried out. -/
  mishap : Option (Fault × Bool)
  /-- What is said to statements whose meaning is left open. -/
  otherwise : Answer
  time : Time
  time_valid : time.IsValid
  block : Cipher.Block
  freshId : String

lemma valid_start : Time.IsValid ⟨0, 0⟩ := ⟨by decide, by decide, by decide⟩

/-- An engine, what conditions mean in it, and what its clients meet, request by request. -/
structure Service where
  engine : Engine
  meaning : Meaning
  occasions : ℕ → Occasion

/-- How far the clients are, and the tables by then. -/
structure Situation (e : Engine) where
  moment : ℕ
  tables : Tables e

/-- The situation one request later, with other tables. -/
abbrev Situation.after {e : Engine} (c : Situation e) (t : Tables e) : Situation e :=
  ⟨c.moment + 1, t⟩

@[simp] lemma Situation.tables_after {e : Engine} (c : Situation e) (t : Tables e) :
    (c.after t).tables = t := rfl

@[simp] lemma Situation.moment_after {e : Engine} (c : Situation e) (t : Tables e) :
    (c.after t).moment = c.moment + 1 := rfl

namespace Service

variable (v : Service)

def reply (st : Statement) (c : Situation v.engine) : Reply × Situation v.engine :=
  let o := v.occasions c.moment
  let (reply, t) := c.tables.reply v.meaning o.otherwise st
  match o.mishap with
  | none => (reply, c.after t)
  | some (f, isDone) => (f.reply, c.after (if isDone then t else c.tables))

def respond (r : Request) : StateM (Situation v.engine) r.Response :=
  match r with
  | .status => fun c => ((v.occasions c.moment).status, c.after c.tables)
  | .send st => fun c => v.reply st c
  | .clock => fun c => ((v.occasions c.moment).time, c.after c.tables)
  | .randomBlock => fun c => ((v.occasions c.moment).block, c.after c.tables)
  | .freshId => fun c => ((v.occasions c.moment).freshId, c.after c.tables)

/-- The result of an operation, and the situation after it. -/
def run {α : Type} (op : Operation α) (c : Situation v.engine) :
    Except Error α × Situation v.engine :=
  op.runIn v.respond c

variable {v} {α β : Type} {c : Situation v.engine}

lemma run_bind (op : Operation α) (f : α → Operation β) (c : Situation v.engine) :
    v.run (op >>= f) c = match v.run op c with
      | (.ok a, c') => v.run (f a) c'
      | (.error e, c') => (.error e, c') := by
  rw [run, runIn_bind]
  rcases hrun : op.runIn v.respond c with ⟨_ | _, _⟩ <;> simp only [run, hrun]

@[simp] lemma run_pure (a : α) (c : Situation v.engine) : v.run (pure a) c = (.ok a, c) := rfl

@[simp] lemma run_throw (e : Error) (c : Situation v.engine) :
    v.run (throw e : Operation α) c = (.error e, c) := rfl

@[simp] lemma run_fromExcept (r : Except Error α) (c : Situation v.engine) :
    v.run (fromExcept r) c = (r, c) := rfl

@[simp] lemma run_clock (c : Situation v.engine) :
    v.run (ask .clock) c = (.ok (v.occasions c.moment).time, c.after c.tables) := rfl

@[simp] lemma run_freshId (c : Situation v.engine) :
    v.run (ask .freshId) c = (.ok (v.occasions c.moment).freshId, c.after c.tables) := rfl

lemma run_map (f : α → β) (op : Operation α) (c : Situation v.engine) :
    v.run (f <$> op) c = (v.run op c).map (.map f) id := by
  rw [map_eq_pure_bind, run_bind]
  rcases v.run op c with ⟨_ | _, _⟩ <;> rfl

lemma run_guarded (body : Operation α) (c : Situation v.engine) :
    v.run (guarded body) c = match (v.occasions c.moment).status with
      | some i => (.error (.interrupted i), c.after c.tables)
      | none => v.run body (c.after c.tables) := by
  have hstatus : v.respond .status c = ((v.occasions c.moment).status, c.after c.tables) := rfl
  rw [run, runIn_guarded, hstatus]
  cases (v.occasions c.moment).status <;> rfl

lemma run_send (st : Statement) (failure : Failure → Error) (c : Situation v.engine) :
    v.run (send st failure) c = match v.reply st c with
      | (.answered a, c') => (.ok a, c')
      | (.failed f, c') => (.error (failure f), c')
      | (.interrupted i, c') => (.error (.interrupted i), c') := by
  have hreply : v.respond (.send st) c = v.reply st c := rfl
  rw [run, runIn_send, hreply]
  rcases v.reply st c with ⟨_ | _ | _, _⟩ <;> rfl

lemma run_attempt (op : Operation α) (c : Situation v.engine) :
    v.run (attempt op) c = (.ok (v.run op c).1, (v.run op c).2) := by
  rw [run, attempt]
  exact congrFun (Program.run_bind v.respond op.run _) c

end Service

end Catalog.Store
