import Catalog.Record.Project
import Catalog.Store.Listing

/-!
Projects in a store, which keeps nothing of them but their names.
-/

namespace Catalog.Store

open Operation Record

/-- What the failure of an insertion means. -/
def insertFailure (e : Entity) (name : String) (f : Failure) : Error :=
  if f.code = some uniqueViolation then .alreadyExists e name else .database (.insert e)

def createProject (id : String) (p : Project) : Operation Project := do
  let name := Name.project id
  discard (guarded (execute (.insertProject name) (insertFailure .project name)))
  return { p with name := name }

def readExists? : List Value → Option Bool
  | .bool b :: _ => some b
  | _ => none

def getProject (id : String) : Operation Project := do
  let name := Name.project id
  match ← guarded (fetchFirst (.projectExists name) (.query .project) readExists?) with
  | none => throw (.database (.query .project))
  | some false => throw (.missing .project name)
  | some true => return ⟨name⟩

def deleteProject (id : String) : Operation Unit := do
  let name := Name.project id
  let count ← guarded (execute (.deleteProject name) fun _ => .database (.delete .project))
  if count = 0 then throw (.missing .project name)

def listProjects (store : Store) (filter token : String) (size : Int) :
    Operation (List Project × String) := do
  let page ← store.list .projects filter token size
  return (page.rows.map Project.mk, page.token)

end Catalog.Store
