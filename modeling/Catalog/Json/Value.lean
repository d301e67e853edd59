import Catalog.Json.Numeral

/-!
JSON values. An object's members stand in the order in which they are written; in a value that is
read from a text that is the order of the names, each name once.
-/

namespace Catalog

open Number

inductive Json
  | null
  | bool (b : Bool)
  | int (i : Int)
  | double (d : Double)
  | string (s : String)
  | array (items : List Json)
  | object (members : List (String × Json))

namespace Json

def ofQuantity : Quantity → Json
  | .int i => .int i
  | .double d => .double d

/-- Members with one put in at its place; a member of the same name is replaced. -/
def insert {α : Type} (name : String) (value : α) : List (String × α) → List (String × α)
  | [] => [(name, value)]
  | (k, v) :: rest =>
    if name < k then (name, value) :: (k, v) :: rest
    else if name = k then (name, value) :: rest
    else (k, v) :: insert name value rest

/-- Members in the order of their names; of members of one name the last stays. -/
def sortMembers {α : Type} (ms : List (String × α)) : List (String × α) :=
  ms.foldl (fun acc m => insert m.1 m.2 acc) []

end Json

end Catalog
