import Catalog.Json.Decode
import Catalog.Name

/-!
Projects, which are nothing but their names, and the masks that an update may come with.
-/

namespace Catalog.Record

open Catalog.Json

structure Project where
  name : String
  deriving DecidableEq

namespace Project

/-- The project of an id. -/
def ofId (id : String) : Project := ⟨Name.project id⟩

def read? (v : Shape) : Option Project := do
  match ← v.fields? ["name"] with
  | [name] => return ⟨← Shape.required Shape.text? name⟩
  | _ => none

def toJson (p : Project) : Json := .object [("name", .string p.name)]

end Project

/-- The fields that an update is meant for. Updates replace the whole record all the same. -/
structure FieldMask where
  paths : List String
  deriving DecidableEq

namespace FieldMask

def read? (v : Shape) : Option FieldMask := do
  match ← v.fields? ["paths"] with
  | [paths] => return ⟨← Shape.withDefault [] (Shape.list? Shape.text?) paths⟩
  | _ => none

def toJson (m : FieldMask) : Json := .object [("paths", .array (m.paths.map .string))]

end FieldMask

end Catalog.Record
