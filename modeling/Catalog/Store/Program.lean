import Catalog.Cipher.Aes
import Catalog.Store.Error
import Catalog.Store.Statement
import Catalog.Time

/-!
Operations of a store as programs that ask the world around them: whether the call is still
wanted, what the database makes of a statement, the time, and fresh random values. A program can
be followed for any answers, so nothing is assumed about what happens between two of them.
-/

namespace Catalog.Store

/-- What a database says. -/
inductive Answer
  | affected (count : Nat)
  | rows (rows : List (List Value))
  deriving DecidableEq, Repr

/-- How a database failed, or the way to it: a code if it gave one, and whatever it says of it. -/
structure Failure where
  code : Option String
  text : String
  deriving DecidableEq, Repr

/-- What comes of a statement. -/
inductive Reply
  | answered (a : Answer)
  | failed (f : Failure)
  /-- The call was given up meanwhile. -/
  | interrupted (i : Context.Interruption)
  deriving DecidableEq, Repr

/-- A failure of which nothing is said. -/
def Reply.ofCode (code : Option String) : Reply := .failed ⟨code, ""⟩

inductive Request
  /-- Is the call given up? -/
  | status
  | send (s : Statement)
  | clock
  | randomBlock
  | freshId
  deriving DecidableEq, Repr

def Request.Response : Request → Type
  | status => Option Context.Interruption
  | send _ => Reply
  | clock => Time
  | randomBlock => Cipher.Block
  | freshId => String

inductive Program (α : Type)
  | done (result : α)
  | ask (r : Request) (next : r.Response → Program α)

namespace Program

variable {α β γ : Type}

def bind : Program α → (α → Program β) → Program β
  | done a, f => f a
  | ask r next, f => ask r fun answer => (next answer).bind f

instance : Monad Program where
  pure := done
  bind := bind

@[simp] theorem bind_done (a : α) (f : α → Program β) : (done a >>= f) = f a := rfl

@[simp] theorem bind_ask (r : Request) (next : r.Response → Program α) (f : α → Program β) :
    (ask r next >>= f) = ask r fun answer => next answer >>= f := rfl

theorem bind_pure (p : Program α) : (p >>= pure) = p := by
  induction p with
  | done => rfl
  | ask r next ih => simp only [bind_ask, ih]

theorem bind_assoc (p : Program α) (f : α → Program β) (g : β → Program γ) :
    (p >>= f >>= g) = (p >>= fun a => f a >>= g) := by
  induction p with
  | done => rfl
  | ask r next ih => simp only [bind_ask, ih]

instance : LawfulMonad Program :=
  LawfulMonad.mk' Program
    (by intros; exact bind_pure _) (by intros; rfl) (by intros; exact bind_assoc _ _ _)

/-- Follows a program in a world that answers its requests. -/
def run {m : Type → Type} [Monad m] (world : (r : Request) → m r.Response) : Program α → m α
  | done a => pure a
  | ask r next => do
    let answer ← world r
    (next answer).run world

end Program

/-- A program that may fail. -/
abbrev Operation : Type → Type := ExceptT Error Program

namespace Operation

variable {α : Type}

def ask (r : Request) : Operation r.Response := ExceptT.mk (.ask r fun a => .done (.ok a))

def fromExcept (r : Except Error α) : Operation α := ExceptT.mk (.done r)

/-- The result of an operation, failed or not. -/
def attempt (op : Operation α) : Operation (Except Error α) :=
  ExceptT.mk (op.run >>= fun r => .done (.ok r))

/-- A piece of work for which the call must still be wanted. -/
def guarded (body : Operation α) : Operation α := do
  match ← ask .status with
  | some i => throw (.interrupted i)
  | none => body

/-- Sends a statement; `failure` says what its failure means. -/
def send (s : Statement) (failure : Failure → Error) : Operation Answer := do
  match ← ask (.send s) with
  | .answered a => return a
  | .failed f => throw (failure f)
  | .interrupted i => throw (.interrupted i)

/-- How many rows a statement touched. -/
def execute (s : Statement) (failure : Failure → Error) : Operation Nat := do
  match ← send s failure with
  | .affected n => return n
  | .rows rows => return rows.length

/-- The rows that a statement finds, each read by `read`; a row that cannot be read is a failure
of the database. -/
def fetch (s : Statement) (stage : Stage) (read : List Value → Option α) : Operation (List α) := do
  match ← send s fun _ => .database stage with
  | .affected _ => return []
  | .rows rows => fromExcept ((rows.mapM read).elim (.error (.database stage)) .ok)

/-- The first row that a statement finds. -/
def fetchFirst (s : Statement) (stage : Stage) (read : List Value → Option α) :
    Operation (Option α) := do
  match ← send s fun _ => .database stage with
  | .rows (row :: _) => fromExcept ((read row).elim (.error (.database stage)) (.ok ∘ some))
  | _ => return none

end Operation

end Catalog.Store
