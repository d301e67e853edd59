import Catalog.Proofs.Store.Requests

/-!
Operations at work in a world with a state. Every request is answered from the state that those
before it left behind.
-/

namespace Catalog.Store

lemma Program.run_bind {α β : Type} {m : Type → Type} [Monad m] [LawfulMonad m]
    (answer : (r : Request) → m r.Response) (p : Program α) (f : α → Program β) :
    (p >>= f).run answer = p.run answer >>= fun a => (f a).run answer := by
  induction p with
  | done a => simp [Program.run]
  | ask r next ih => simp [Program.run, ih]

namespace Operation

variable {σ α β : Type} (respond : (r : Request) → StateM σ r.Response)

/-- The result of an operation, and the state after it. -/
def runIn (op : Operation α) (c : σ) : Except Error α × σ := (Program.run respond op.run).run c

lemma runIn_bind (op : Operation α) (f : α → Operation β) (c : σ) :
    (op >>= f).runIn respond c = match op.runIn respond c with
      | (.ok a, c') => (f a).runIn respond c'
      | (.error e, c') => (.error e, c') := by
  rw [runIn, run_bind_eq, Program.run_bind, StateT.run_bind]
  cases hrun : op.runIn respond c with
  | mk r c' =>
    rw [runIn] at hrun
    rw [hrun]
    cases r <;> rfl

lemma runIn_guarded (body : Operation α) (c : σ) :
    (guarded body).runIn respond c = match respond .status c with
      | (some i, c') => (.error (.interrupted i), c')
      | (none, c') => body.runIn respond c' := by
  have hask : (ask .status).runIn respond c
      = (.ok (respond .status c).1, (respond .status c).2) := rfl
  rw [guarded, runIn_bind, hask]
  rcases respond .status c with ⟨_ | _, c'⟩ <;> rfl

lemma runIn_send (st : Statement) (failure : Failure → Error) (c : σ) :
    (send st failure).runIn respond c = match respond (.send st) c with
      | (.answered a, c') => (.ok a, c')
      | (.failed f, c') => (.error (failure f), c')
      | (.interrupted i, c') => (.error (.interrupted i), c') := by
  have hask : (ask (.send st)).runIn respond c
      = (.ok (respond (.send st) c).1, (respond (.send st) c).2) := rfl
  rw [send, runIn_bind, hask]
  rcases respond (.send st) c with ⟨_ | _ | _, c'⟩ <;> rfl

end Operation

end Catalog.Store
