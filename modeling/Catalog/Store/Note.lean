import Catalog.Record.Note
import Catalog.Store.Project

/-!
Notes in a store. A note is kept under a project and an id; its name says both.
-/

namespace Catalog.Store

open Operation Record

def readPayload? : List Value → Option String
  | .text payload :: _ => some payload
  | _ => none

def noteOfPayload (payload : String) : Except Error Note :=
  (Note.ofPayload? payload).elim (.error (.unreadable .note)) .ok

def missingNote (project id : String) : Error := .missing .note (Name.note project id)

def createNote (project id : String) (n : Note) : Operation Note := do
  let now ← ask .clock
  let n := { n with name := Name.note project id, createTime := some now }
  discard (guarded (execute (.insertNote project id n.payload) (insertFailure .note n.name)))
  return n

/-- The results of those operations that succeed, in order. A failure is passed over, unless the
call was given up. -/
def keepCreated {α : Type} : List (Operation α) → Operation (List α)
  | [] => return []
  | op :: ops => do
    match ← attempt op with
    | .ok v => return v :: (← keepCreated ops)
    | .error e => if e.code.isInterruption then throw e else keepCreated ops

/-- Creates what can be created, in the order of the ids. -/
def createNotes (project : String) (notes : List (String × Note)) : Operation (List Note) :=
  keepCreated ((Json.sortMembers notes).map fun (id, n) => createNote project id n)

def getNote (project id : String) : Operation Note := do
  match ← guarded (fetchFirst (.searchNote project id) (.query .note) readPayload?) with
  | none => throw (missingNote project id)
  | some payload =>
    let n ← fromExcept (noteOfPayload payload)
    return { n with name := Name.note project id }

/-- Replaces a note. -/
def updateNote (project id : String) (n : Note) : Operation Note := do
  let now ← ask .clock
  let n := { n with name := Name.note project id, updateTime := some now }
  let count ← guarded
    (execute (.updateNote project id n.payload) fun _ => .database (.update .note))
  if count = 0 then throw (missingNote project id)
  return n

def deleteNote (project id : String) : Operation Unit := do
  let count ← guarded (execute (.deleteNote project id) fun _ => .database (.delete .note))
  if count = 0 then throw (missingNote project id)

def listNotes (store : Store) (project filter token : String) (size : Int) :
    Operation (List Note × String) := do
  let page ← store.list (.notes project) filter token size
  let notes ← fromExcept (page.rows.mapM noteOfPayload)
  return (notes, page.token)

end Catalog.Store
