import Catalog.Text.Quoted
import Catalog.Text.Split

/-!
Names of resources: `projects/p`, `projects/p/notes/n` and `projects/p/occurrences/o`.
-/

namespace Catalog.Name

open Catalog.Text

/-- The resources that belong to a project. -/
inductive Child
  | note
  | occurrence
  deriving DecidableEq, Repr

inductive Kind
  | project
  | child (c : Child)
  deriving DecidableEq, Repr

def Child.collection : Child → String
  | note => "notes"
  | occurrence => "occurrences"

def Kind.word : Kind → String
  | project => "project"
  | child .note => "note"
  | child .occurrence => "occurrence"

/-- A text that is no name of its kind. -/
structure Invalid where
  kind : Kind
  name : String
  deriving DecidableEq

def Invalid.message (e : Invalid) : String :=
  "invalid " ++ e.kind.word ++ " name " ++ quote e.name

def project (id : String) : String := "projects/" ++ id

def child (c : Child) (projectId id : String) : String :=
  "projects/" ++ projectId ++ "/" ++ c.collection ++ "/" ++ id

def note : String → String → String := child .note

def occurrence : String → String → String := child .occurrence

/-- The parts between the slashes, none of them empty. -/
def segments? (name : String) : Option (List String) :=
  let parts := splitAt '/' name
  if parts.contains "" then none else some parts

/-- The id in the name of a project. -/
def parseProject (name : String) : Except Invalid String :=
  match segments? name with
  | some ["projects", p] => .ok p
  | _ => .error ⟨.project, name⟩

/-- The project id and the id in the name of a note or an occurrence. -/
def parseChild (c : Child) (name : String) : Except Invalid (String × String) :=
  match segments? name with
  | some ["projects", p, collection, id] =>
    if collection = c.collection then .ok (p, id) else .error ⟨.child c, name⟩
  | _ => .error ⟨.child c, name⟩

end Catalog.Name
