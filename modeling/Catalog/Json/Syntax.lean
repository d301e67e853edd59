import Catalog.Json.Token

/-!
The shape of a JSON text before its values are worked out: numbers by their digits, members in
the order of the text, names as often as they occur.

The reader keeps a stack of the arrays and objects that are still open, so no nesting is too deep
for it. A limit on depth belongs to the values.
-/

namespace Catalog.Json

inductive Shape
  | null
  | bool (b : Bool)
  | number (n : Numeral)
  | string (s : Option String)
  | array (items : List Shape)
  | object (members : List (Option String × Shape))

/-- An open array or object with what it holds so far, last first. -/
inductive Frame
  | array (items : List Shape)
  | object (members : List (Option String × Shape)) (name : Option String)

/-- What the next token may be. -/
inductive Place
  /-- A value, or the end of an empty array. -/
  | firstItem
  | value
  /-- A name, or the end of an empty object. -/
  | firstName (members : List (Option String × Shape))
  | name (members : List (Option String × Shape))
  | colon
  | after (v : Shape)

structure Reader where
  place : Place
  stack : List Frame

namespace Reader

def start : Reader := ⟨.value, []⟩

def scalar? : Token → Option Shape
  | .null => some .null
  | .bool b => some (.bool b)
  | .number n => some (.number n)
  | .string s => some (.string s)
  | _ => none

def stepValue (r : Reader) (t : Token) : Option Reader :=
  match t with
  | .opening .square => some ⟨.firstItem, .array [] :: r.stack⟩
  | .opening .curly => some ⟨.firstName [], r.stack⟩
  | t => (scalar? t).map fun v => ⟨.after v, r.stack⟩

def stepName (r : Reader) (members : List (Option String × Shape)) : Token → Option Reader
  | .string s => some ⟨.colon, .object members s :: r.stack⟩
  | _ => none

def stepAfter (r : Reader) (v : Shape) (t : Token) : Option Reader :=
  match t, r.stack with
  | .comma, .array items :: stack => some ⟨.value, .array (v :: items) :: stack⟩
  | .comma, .object members name :: stack => some ⟨.name ((name, v) :: members), stack⟩
  | .closing .square, .array items :: stack =>
    some ⟨.after (.array (v :: items).reverse), stack⟩
  | .closing .curly, .object members name :: stack =>
    some ⟨.after (.object ((name, v) :: members).reverse), stack⟩
  | _, _ => none

def step (r : Reader) (t : Token) : Option Reader :=
  match r.place, t, r.stack with
  | .firstItem, .closing .square, _ :: stack => some ⟨.after (.array []), stack⟩
  | .firstItem, t, _ => r.stepValue t
  | .value, t, _ => r.stepValue t
  | .firstName _, .closing .curly, _ => some ⟨.after (.object []), r.stack⟩
  | .firstName members, t, _ => r.stepName members t
  | .name members, t, _ => r.stepName members t
  | .colon, .colon, _ => some ⟨.value, r.stack⟩
  | .colon, _, _ => none
  | .after v, t, _ => r.stepAfter v t

def run (r : Reader) : List Token → Option Shape
  | [] =>
    match r with
    | ⟨.after v, []⟩ => some v
    | _ => none
  | t :: ts => (r.step t).bind fun r => r.run ts

end Reader

/-- The shape of a text that holds one value. -/
def read? (text : String) : Option Shape := (tokens? text.toList).bind Reader.start.run

end Catalog.Json
