import Catalog.Store.Program

/-!
A database that does what a script says, one line for each statement, and the call it serves. It
keeps the statements that reach it.
-/

namespace Catalog.Store.Script

/-- What comes of one statement. -/
inductive Line
  | answer (a : Answer)
  | fail (code : String)
  /-- Nothing, until the deadline of the call. -/
  | hang
  /-- The caller cancels. -/
  | cancel
  /-- The connection is lost. -/
  | disconnect
  deriving DecidableEq, Repr

structure World where
  lines : List Line
  /-- The statements that were sent, last first. -/
  sent : List Statement
  /-- Why the call is given up, if it is. -/
  interruption : Option Context.Interruption
  /-- The database takes no more statements. -/
  isClosed : Bool
  now : Time
  block : Cipher.Block
  /-- How many ids were given out. -/
  ids : Nat

/-- The ids that a world gives out. -/
def World.id (number : Nat) : String := "<uuid" ++ toString number ++ ">"

/-- The code of a failure for which the script has no line. -/
def unscripted : String := "XX000"

namespace World

/-- Gives the call up. -/
def interrupt (w : World) (i : Context.Interruption) : Reply × World :=
  (.interrupted i, { w with interruption := some i })

def reply (w : World) (s : Statement) : Reply × World :=
  if w.isClosed then (.ofCode none, w)
  else
    let next := { w with sent := s :: w.sent, lines := w.lines.tail }
    match w.lines.head? with
    | none => (.ofCode (some unscripted), next)
    | some (.answer a) => (.answered a, next)
    | some (.fail code) => (.ofCode (some code), next)
    | some .hang => next.interrupt .deadlineExceeded
    | some .cancel => next.interrupt .cancelled
    | some .disconnect => (.ofCode none, next)

def answer (r : Request) : StateM World r.Response :=
  match r with
  | .status => fun w => (w.interruption, w)
  | .send s => fun w => w.reply s
  | .clock => fun w => (w.now, w)
  | .randomBlock => fun w => (w.block, w)
  | .freshId => fun w => (World.id w.ids, { w with ids := w.ids + 1 })

/-- The result of an operation, and the world after it. -/
def run {α : Type} (w : World) (op : Operation α) : Except Error α × World :=
  (Program.run World.answer op.run).run w

end World

end Catalog.Store.Script
