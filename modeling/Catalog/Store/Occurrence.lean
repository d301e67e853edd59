import Catalog.Record.Occurrence
import Catalog.Store.Note

/-!
Occurrences in a store. Each refers to a note by name; the parts of that name are kept beside it,
so that the occurrences of a note can be listed.
-/

namespace Catalog.Store

open Operation Record

def occurrenceOfPayload (payload : String) : Except Error Occurrence :=
  (Occurrence.ofPayload? payload).elim (.error (.unreadable .occurrence)) .ok

def missingOccurrence (project id : String) : Error :=
  .missing .occurrence (Name.occurrence project id)

/-- The project and the id of the note that an occurrence is of. -/
def noteReference (o : Occurrence) : Except Error (String × String) :=
  (Name.parseChild .note o.noteName).mapError fun _ => .invalidNoteName

def createOccurrence (project : String) (o : Occurrence) : Operation Occurrence := do
  let (noteProject, noteId) ← fromExcept (noteReference o)
  let id ← ask .freshId
  let now ← ask .clock
  let o := { o with name := Name.occurrence project id, createTime := some now }
  discard (guarded (execute (.insertOccurrence project id noteProject noteId o.payload)
    (insertFailure .occurrence o.name)))
  return o

/-- Creates what can be created, in order. -/
def createOccurrences (project : String) (os : List Occurrence) : Operation (List Occurrence) :=
  keepCreated (os.map (createOccurrence project))

def getOccurrence (project id : String) : Operation Occurrence := do
  match ← guarded
      (fetchFirst (.searchOccurrence project id) (.query .occurrence) readPayload?) with
  | none => throw (missingOccurrence project id)
  | some payload =>
    let o ← fromExcept (occurrenceOfPayload payload)
    return { o with name := Name.occurrence project id }

/-- Replaces an occurrence. -/
def updateOccurrence (project id : String) (o : Occurrence) : Operation Occurrence := do
  let (noteProject, noteId) ← fromExcept (noteReference o)
  let now ← ask .clock
  let o := { o with name := Name.occurrence project id, updateTime := some now }
  let count ← guarded (execute (.updateOccurrence project id noteProject noteId o.payload)
    fun _ => .database (.update .occurrence))
  if count = 0 then throw (missingOccurrence project id)
  return o

def deleteOccurrence (project id : String) : Operation Unit := do
  let count ← guarded
    (execute (.deleteOccurrence project id) fun _ => .database (.delete .occurrence))
  if count = 0 then throw (missingOccurrence project id)

/-- One page of occurrences. -/
def listOccurrencesIn (store : Store) (s : Scope) (filter token : String) (size : Int) :
    Operation (List Occurrence × String) := do
  let page ← store.list s filter token size
  let occurrences ← fromExcept (page.rows.mapM occurrenceOfPayload)
  return (occurrences, page.token)

def listOccurrences (store : Store) (project filter token : String) (size : Int) :
    Operation (List Occurrence × String) :=
  store.listOccurrencesIn (.occurrences project) filter token size

/-- The note that an occurrence is of. -/
def getOccurrenceNote (project id : String) : Operation Note := do
  let o ← getOccurrence project id
  let (noteProject, noteId) ← fromExcept (noteReference o)
  getNote noteProject noteId

/-- The occurrences of a note, which must exist even if it has none. -/
def listNoteOccurrences (store : Store) (project id filter token : String) (size : Int) :
    Operation (List Occurrence × String) := do
  discard (getNote project id)
  store.listOccurrencesIn (.noteOccurrences project id) filter token size

end Catalog.Store
