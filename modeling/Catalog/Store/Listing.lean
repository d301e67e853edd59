import Catalog.Store
import Catalog.Store.Program

/-!
Listings, a page at a time. A page holds the rows behind the id in its token. If its last row is
not the last of all rows that match, it comes with a token for the next page.
-/

namespace Catalog.Store

open Operation

/-- What a filter of a scope looks into. -/
def Scope.anchor : Scope → String
  | projects => Filter.projectAnchor
  | _ => Filter.payloadAnchor

structure Page where
  rows : List String
  /-- Empty on the last page. -/
  token : String
  deriving DecidableEq

def readRow? : List Value → Option (Int × String)
  | .int id :: .text row :: _ => some (id, row)
  | _ => none

/-- The greatest id; none counts as zero. -/
def readMax? : List Value → Option Int
  | .int id :: _ => some id
  | .null :: _ => some 0
  | _ => none

def fetchPage (s : Scope) (predicate : Option String) (after limit : Int) :
    Operation (List (Int × String)) :=
  fetch (.page s predicate after limit) .list readRow?

def fetchMax (s : Scope) (predicate : Option String) : Operation Int := do
  match ← fetchFirst (.maxId s predicate) .maxId readMax? with
  | some id => return id
  | none => throw (.database .maxId)

/-- The rows of a page, and the greatest id of all rows that match. An empty page needs no
greatest id. -/
def readPage (s : Scope) (predicate : Option String) (after limit : Int) :
    Operation (List (Int × String) × Int) := do
  let rows ← fetchPage s predicate after limit
  if rows.isEmpty then return (rows, 0)
  else return (rows, ← fetchMax s predicate)

/-- The same, both reads in one state of the tables. A transaction that is not committed is rolled
back by the connection. -/
def readSnapshot (s : Scope) (predicate : Option String) (after limit : Int) :
    Operation (List (Int × String) × Int) := do
  discard (execute .begin fun _ => .database .beginSnapshot)
  discard (execute .snapshot fun _ => .database .beginSnapshot)
  let result ← readPage s predicate after limit
  discard (execute .commit fun _ => .database .endSnapshot)
  return result

/-- The token for the rows behind an id. -/
def nextToken (store : Store) (s : Scope) (id : Int) : Operation String := do
  let now ← ask .clock
  let start ← ask .randomBlock
  match store.cursor.encode start now.unixSeconds id with
  | .ok token => return token
  | .error _ => throw (.pagination s.table)

/-- One page of a scope. -/
def list (store : Store) (s : Scope) (filter token : String) (size : Int) : Operation Page := do
  let predicate ← fromExcept (store.predicate? s.anchor filter)
  let now ← ask .clock
  let after := store.cursor.decode now.unixSeconds 0 token
  let limit := store.options.pageSize size
  let read := if store.options.snapshotListing then readSnapshot else readPage
  let (rows, maxId) ← guarded (read s predicate after limit)
  match rows.getLast? with
  | none => return ⟨[], ""⟩
  | some (lastId, _) =>
    let token ← if lastId < maxId then nextToken store s lastId else pure ""
    return ⟨rows.map (·.2), token⟩

end Catalog.Store
