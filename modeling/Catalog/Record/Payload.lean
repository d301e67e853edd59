import Catalog.Json.Printer
import Catalog.Record.Field

/-!
Records that are stored as JSON texts. What a record holds besides its declared fields, such as the
section of its kind, is kept as it is.
-/

namespace Catalog.Record

open Catalog.Json

class Payload (α : Type) where
  /-- The names of the declared fields in their order. -/
  fieldNames : List String
  /-- The record of its declared fields and its details, if each field has a value. -/
  make? : List (Option Shape) → List (String × Json) → Option α
  /-- The members that are written of the declared fields. -/
  declared : α → List (String × Json)
  /-- All other members, in the order of their names. -/
  details : α → List (String × Json)

namespace Payload

variable {α : Type} [Payload α]

def read? (v : Shape) : Option α := do
  let (fields, details) ← v.flatten? (fieldNames α)
  make? fields details

def toJson (a : α) : Json := .object (declared a ++ details a)

/-- The text that is stored. -/
def text (a : α) : String := (toJson a).compact

def ofText? (text : String) : Option α := (Json.read? text).bind read?

end Payload

end Catalog.Record
