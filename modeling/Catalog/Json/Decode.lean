import Catalog.Json.Values

/-!
Typed values read from the shape of a JSON text.

A record is an object, or an array of its fields in their declared order. In an object a declared
field may stand once, and members that are not declared are passed over; an array may be short
but not long.
-/

namespace Catalog.Json.Shape

open Catalog.Json

def text? : Shape → Option String
  | string s => s
  | _ => none

def bool? : Shape → Option Bool
  | bool b => some b
  | _ => none

/-- An integer between `min` and `max`. -/
def int? (min max : Int) : Shape → Option Int
  | number n =>
    match n.value? with
    | some (.int i) => if min ≤ i ∧ i ≤ max then some i else none
    | _ => none
  | _ => none

def nat? (max : Nat) (v : Shape) : Option Nat := (v.int? 0 max).map Int.toNat

/-- Every item of an array, each read by `item`. -/
def list? {α : Type} (item : Shape → Option α) : Shape → Option (List α)
  | array vs => vs.mapM item
  | _ => none

/-- Nothing for null. -/
def nullable? {α : Type} (inner : Shape → Option α) : Shape → Option (Option α)
  | null => some none
  | v => (inner v).map some

/-- The members of an object, if each name is a text. -/
def named? (members : List (Option String × Shape)) : Option (List (String × Shape)) :=
  members.mapM fun (name, v) => name.map (·, v)

/-- The only member of a name, `none` if there is none; two are one too many. -/
def single? (name : String) (members : List (String × Shape)) : Option (Option Shape) :=
  match members.filter (·.1 == name) with
  | [] => some none
  | [m] => some (some m.2)
  | _ => none

/-- A record's fields in their declared order, each with its value if the record gives one. -/
def fields? (names : List String) : Shape → Option (List (Option Shape))
  | object members => do
    let ms ← named? members
    names.mapM fun name => single? name ms
  | array items =>
    if items.length ≤ names.length then
      some (items.map some ++ List.replicate (names.length - items.length) none)
    else none
  | _ => none

/-- The declared fields of an object and all its other members, as values. -/
def flatten? (names : List String) : Shape → Option (List (Option Shape) × List (String × Json))
  | object members => do
    let ms ← named? members
    let fields ← names.mapM fun name => single? name ms
    let others ← (ms.filter (·.1 ∉ names)).mapM fun (k, v) =>
      (v.value? (maxDepth - 1)).map (k, ·)
    return (fields, sortMembers others)
  | _ => none

/-- A field that must be given. -/
def required {α : Type} (read : Shape → Option α) (field : Option Shape) : Option α :=
  field.bind read

/-- A field with a value of its own where it is not given. -/
def withDefault {α : Type} (default : α) (read : Shape → Option α) : Option Shape → Option α
  | none => some default
  | some v => read v

end Catalog.Json.Shape
