/-!
The statements that a store sends to its database, with their texts and their arguments.

Payloads cross as text and are kept as JSON, so that a filter can look into them. Listings read
the rows of one scope in the order of their ids, from the one after a given id on.
-/

namespace Catalog.Store

/-- Values that go to a database and come from it. -/
inductive Value
  | null
  | bool (b : Bool)
  | int (i : Int)
  | text (s : String)
  deriving DecidableEq, Repr

/-! ### Tables -/

/-- The statement that makes a table with these columns and keys. -/
def createTable (table : String) (parts : List String) : String :=
  "CREATE TABLE IF NOT EXISTS " ++ table ++ " (\n        "
    ++ ",\n        ".intercalate parts ++ "\n    )"

/-- The statements that make the tables where they are missing. -/
def schema : List String :=
  [createTable "projects" ["id BIGSERIAL PRIMARY KEY", "name TEXT NOT NULL UNIQUE"],
   createTable "notes" ["id BIGSERIAL PRIMARY KEY", "project_id TEXT NOT NULL",
     "note_id TEXT NOT NULL", "data JSONB NOT NULL", "UNIQUE (project_id, note_id)"],
   createTable "occurrences" ["id BIGSERIAL PRIMARY KEY", "project_id TEXT NOT NULL",
     "occurrence_id TEXT NOT NULL", "note_project_id TEXT NOT NULL", "note_id TEXT NOT NULL",
     "data JSONB NOT NULL", "UNIQUE (project_id, occurrence_id)"],
   "CREATE INDEX IF NOT EXISTS occurrences_note_idx ON occurrences "
     ++ "(note_project_id, note_id)"]

/-- How a database names the failure of an insertion whose key is taken. -/
def uniqueViolation : String := "23505"

/-! ### Listings -/

/-- What can be listed, with the texts that bound it. -/
inductive Scope
  | projects
  | notes (project : String)
  | occurrences (project : String)
  /-- The occurrences of a note, of whatever project. -/
  | noteOccurrences (project note : String)
  deriving DecidableEq, Repr

namespace Scope

def table : Scope → String
  | projects => "projects"
  | notes _ => "notes"
  | occurrences _ | noteOccurrences _ _ => "occurrences"

/-- What is read of a row besides its id. -/
def column : Scope → String
  | projects => "name"
  | _ => "data::text"

/-- The columns that bound the scope, and their values. -/
def keys : Scope → List (String × String)
  | projects => []
  | notes p | occurrences p => [("project_id", p)]
  | noteOccurrences p n => [("note_project_id", p), ("note_id", n)]

/-- A column is compared to the argument of a number. -/
def comparison (column operator : String) (number : Nat) : String :=
  column ++ " " ++ operator ++ " $" ++ toString number

/-- The comparisons that bound the scope, for arguments from number `first` on. -/
def conditions (first : Nat) : List (String × String) → List String
  | [] => []
  | (column, _) :: rest => comparison column "=" first :: conditions (first + 1) rest

/-- All conditions of a clause. -/
def conjunction : List String → String
  | [] => ""
  | [c] => c
  | c :: d :: rest => c ++ " AND " ++ conjunction (d :: rest)

/-- The rows of a page: those behind an id, in order, so many at most. -/
def pageText (s : Scope) (predicate : Option String) : String :=
  let n := s.keys.length
  let parts := conditions 1 s.keys ++ comparison "id" ">" (n + 1) :: predicate.toList
  "SELECT id, " ++ s.column ++ " FROM " ++ s.table ++ " WHERE " ++ conjunction parts
    ++ " ORDER BY id ASC LIMIT $" ++ toString (n + 2)

/-- The greatest id of all rows that match. -/
def maxText (s : Scope) (predicate : Option String) : String :=
  let select := "SELECT MAX(id) FROM " ++ s.table
  match conditions 1 s.keys ++ predicate.toList with
  | [] => select
  | parts => select ++ " WHERE " ++ conjunction parts

end Scope

/-! ### Vulnerabilities -/

def summaryHead : String :=
  "SELECT COALESCE(data->'resource'->>'uri', '') AS resource_uri, "
    ++ "COALESCE(data->'vulnerability'->>'severity', 'SEVERITY_UNSPECIFIED') AS severity, "
    ++ "COUNT(*) FILTER (WHERE data->'vulnerability'->'fix_available' = 'true'::jsonb)"
    ++ " AS fixable_count, COUNT(*) AS total_count FROM occurrences WHERE "

/-- What a row must be to be counted. -/
def summaryConditions : List String := ["project_id = $1", "data->>'kind' = 'VULNERABILITY'"]

def summaryText (predicate : Option String) : String :=
  summaryHead ++ Scope.conjunction (summaryConditions ++ predicate.toList)
    ++ " GROUP BY 1, 2 ORDER BY 1, 2"

/-! ### Statements -/

inductive Statement
  | insertProject (name : String)
  | projectExists (name : String)
  | deleteProject (name : String)
  | insertNote (project id payload : String)
  | searchNote (project id : String)
  | updateNote (project id payload : String)
  | deleteNote (project id : String)
  | insertOccurrence (project id noteProject noteId payload : String)
  | searchOccurrence (project id : String)
  | updateOccurrence (project id noteProject noteId payload : String)
  | deleteOccurrence (project id : String)
  | page (s : Scope) (predicate : Option String) (after limit : Int)
  | maxId (s : Scope) (predicate : Option String)
  | summary (project : String) (predicate : Option String)
  | begin
  /-- The transaction reads one state of the tables throughout. -/
  | snapshot
  | commit
  deriving DecidableEq, Repr

namespace Statement

def sql : Statement → String
  | insertProject _ => "INSERT INTO projects (name) VALUES ($1)"
  | projectExists _ => "SELECT EXISTS (SELECT 1 FROM projects WHERE name = $1)"
  | deleteProject _ => "DELETE FROM projects WHERE name = $1"
  | insertNote .. => "INSERT INTO notes (project_id, note_id, data) VALUES ($1, $2, $3::jsonb)"
  | searchNote .. => "SELECT data::text FROM notes WHERE project_id = $1 AND note_id = $2"
  | updateNote .. => "UPDATE notes SET data = $3::jsonb WHERE project_id = $1 AND note_id = $2"
  | deleteNote .. => "DELETE FROM notes WHERE project_id = $1 AND note_id = $2"
  | insertOccurrence .. =>
    "INSERT INTO occurrences (project_id, occurrence_id, note_project_id, note_id, data)"
      ++ " VALUES ($1, $2, $3, $4, $5::jsonb)"
  | searchOccurrence .. =>
    "SELECT data::text FROM occurrences WHERE project_id = $1 AND occurrence_id = $2"
  | updateOccurrence .. =>
    "UPDATE occurrences SET note_project_id = $3, note_id = $4, data = $5::jsonb"
      ++ " WHERE project_id = $1 AND occurrence_id = $2"
  | deleteOccurrence .. => "DELETE FROM occurrences WHERE project_id = $1 AND occurrence_id = $2"
  | page s predicate _ _ => s.pageText predicate
  | maxId s predicate => s.maxText predicate
  | summary _ predicate => summaryText predicate
  | begin => "BEGIN"
  | snapshot => "SET TRANSACTION ISOLATION LEVEL REPEATABLE READ, READ ONLY"
  | commit => "COMMIT"

/-- The arguments, in the order of their numbers. -/
def arguments : Statement → List Value
  | insertProject name | projectExists name | deleteProject name => [.text name]
  | insertNote p i payload | updateNote p i payload => [.text p, .text i, .text payload]
  | searchNote p i | deleteNote p i | searchOccurrence p i | deleteOccurrence p i =>
    [.text p, .text i]
  | insertOccurrence p i q n payload | updateOccurrence p i q n payload =>
    [.text p, .text i, .text q, .text n, .text payload]
  | page s _ after limit => s.keys.map (.text ·.2) ++ [.int after, .int limit]
  | maxId s _ => s.keys.map (.text ·.2)
  | summary p _ => [.text p]
  | begin | snapshot | commit => []

end Statement

end Catalog.Store
