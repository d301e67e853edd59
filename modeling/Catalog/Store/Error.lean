import Catalog.Config
import Catalog.Context
import Catalog.Filter.Error
import Catalog.Paging.Key
import Catalog.Text.Quoted

/-!
What can go wrong with a store, and what its callers are told. The replies of the database never
show in a message.
-/

namespace Catalog.Store

open Catalog.Text

/-- The status that callers act on. -/
inductive Code
  | notFound
  | alreadyExists
  | invalidArgument
  | internal
  | cancelled
  | deadlineExceeded
  deriving DecidableEq, Repr

namespace Code

def all : List Code :=
  [notFound, alreadyExists, invalidArgument, internal, cancelled, deadlineExceeded]

def word : Code → String
  | notFound => "NOT_FOUND"
  | alreadyExists => "ALREADY_EXISTS"
  | invalidArgument => "INVALID_ARGUMENT"
  | internal => "INTERNAL"
  | cancelled => "CANCELLED"
  | deadlineExceeded => "DEADLINE_EXCEEDED"

def ofWord? (s : String) : Option Code := all.find? (·.word == s)

theorem ofWord?_word (c : Code) : ofWord? c.word = some c := by cases c <;> decide

/-- The call was given up; a batch stops there. -/
def isInterruption : Code → Bool
  | cancelled | deadlineExceeded => true
  | _ => false

end Code

/-! ### Failures of operations -/

/-- What a store keeps. -/
inductive Entity
  | project
  | note
  | occurrence
  deriving DecidableEq, Repr

def Entity.word : Entity → String
  | project => "Project"
  | note => "Note"
  | occurrence => "Occurrence"

/-- The part of an operation that a database did not do. -/
inductive Stage
  | insert (e : Entity)
  | query (e : Entity)
  | update (e : Entity)
  | delete (e : Entity)
  | list
  | maxId
  | beginSnapshot
  | endSnapshot
  | summarize
  deriving DecidableEq, Repr

def Stage.message : Stage → String
  | insert e => "Failed to insert " ++ e.word ++ " in database"
  | query e => "Failed to query " ++ e.word ++ " from database"
  | update e => "Failed to update " ++ e.word
  | delete e => "Failed to delete " ++ e.word ++ " from database"
  | list => "Failed to list rows from database"
  | maxId => "Failed to query max id from database"
  | beginSnapshot => "Failed to begin snapshot transaction"
  | endSnapshot => "Failed to end snapshot transaction"
  | summarize => "Failed to summarize vulnerability occurrences"

/-- Why an operation failed. -/
inductive Error
  | missing (e : Entity) (name : String)
  | alreadyExists (e : Entity) (name : String)
  | invalidNoteName
  | invalidFilter (e : Filter.Error)
  | database (s : Stage)
  /-- A stored payload is none of its kind. -/
  | unreadable (e : Entity)
  /-- No token could be made for the next page of a table. -/
  | pagination (table : String)
  | interrupted (i : Context.Interruption)

namespace Error

def code : Error → Code
  | missing .. => .notFound
  | alreadyExists .. => .alreadyExists
  | invalidNoteName | invalidFilter _ => .invalidArgument
  | database _ | unreadable _ | pagination _ => .internal
  | interrupted .cancelled => .cancelled
  | interrupted .deadlineExceeded => .deadlineExceeded

def message : Error → String
  | missing e name => e.word ++ " with name " ++ quote name ++ " does not exist"
  | alreadyExists e name => e.word ++ " with name " ++ quote name ++ " already exists"
  | invalidNoteName => "Invalid note name"
  | invalidFilter e => "Invalid filter: " ++ e.message
  | database s => s.message
  | unreadable e => "Failed to unmarshal " ++ e.word ++ " from database"
  | pagination table => "Failed to paginate " ++ table
  | interrupted i => i.message

end Error

/-! ### Failures of setting up -/

/-- Why there is no store. -/
inductive InitError
  | invalidKey
  | keyGeneration (e : Paging.Error)
  | invalidConfig (f : Config.Fault)
  | connect
  | bootstrap
  deriving DecidableEq

namespace InitError

def ofPaging : Paging.Error → InitError
  | .invalidKey => invalidKey
  | e => keyGeneration e

def message : InitError → String
  | invalidKey => Paging.Error.message .invalidKey
  | keyGeneration e => "failed to generate pagination key: " ++ e.message
  | invalidConfig f => "invalid configuration: " ++ f.message
  | connect => "failed to connect to the database server"
  | bootstrap => "failed to create tables"

end InitError

end Catalog.Store
