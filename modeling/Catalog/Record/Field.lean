import Catalog.Json.Decode
import Catalog.Time.Text

/-!
Fields of records that are left out when they are empty.
-/

namespace Catalog.Record

open Catalog.Json

def readTime? (v : Shape) : Option Time := v.text?.bind Time.read?

/-- A time that may be missing or null. -/
def optionalTime? : Option Shape → Option (Option Time) :=
  Shape.withDefault none (Shape.nullable? readTime?)

/-- A text that may be missing. -/
def text? : Option Shape → Option String := Shape.withDefault "" Shape.text?

/-! ### Writing -/

def textMember (name s : String) : List (String × Json) :=
  if s = "" then [] else [(name, .string s)]

def timeMember (name : String) (t : Option Time) : List (String × Json) :=
  t.toList.map fun t => (name, .string t.render)

def listMember {α : Type} (name : String) (write : α → Json) (vs : List α) :
    List (String × Json) :=
  if vs.isEmpty then [] else [(name, .array (vs.map write))]

end Catalog.Record
