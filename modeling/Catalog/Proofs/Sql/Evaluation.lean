import Catalog.Proofs.Sql.Document
import Catalog.Proofs.Sql.Expression
import Catalog.Proofs.Sql.Pattern

/-!
The meaning of expressions over one row of a table. Whether operands fit an operator is decided
before any row is looked at; what a row may still do is to fail a cast. Operators have no value
where an operand has none, except for AND and OR, which then ask whether the other one decides.
-/

namespace Catalog.Sql

/-- What the standard leaves to a database: how texts are ordered, and the texts of arrays and
objects. -/
structure Engine where
  collation : LinearOrder String
  shown : Document → String

inductive Datum
  | bool (b : Bool)
  | text (s : String)
  | integer (i : ℤ)
  | number (q : ℚ)
  | json (d : Document)

inductive SqlType
  | bool
  | text
  /-- A literal, whose type depends on what stands beside it. -/
  | unknown
  | integer
  | bigint
  | numeric
  | json
  deriving DecidableEq

def Datum.type : Datum → SqlType
  | bool _ => .bool
  | text _ => .text
  | integer _ => .integer
  | number _ => .numeric
  | json _ => .json

/-- The columns of a row, none of them null. -/
abbrev Row := List Char → Option Datum

/-! ### Types -/

def SqlType.isText : SqlType → Bool
  | text | unknown => true
  | _ => false

def SqlType.isNumeric : SqlType → Bool
  | integer | bigint | numeric => true
  | _ => false

/-- The number fits in so many bits, two's complement. -/
def FitsIn (bits : ℕ) (i : ℤ) : Prop := -2 ^ (bits - 1) ≤ i ∧ i < 2 ^ (bits - 1)

instance (bits : ℕ) (i : ℤ) : Decidable (FitsIn bits i) := inferInstanceAs (Decidable (_ ∧ _))

def integerType (i : ℤ) : SqlType :=
  if FitsIn 32 i then .integer else if FitsIn 64 i then .bigint else .numeric

/-- The type of an operator's result, if there is such an operator. -/
def BinaryOp.type? (op : BinaryOp) (l r : SqlType) : Option SqlType :=
  match op with
  | json => if l = .json ∧ (r.isText ∨ r = .integer) then some .json else none
  | text => if l = .json ∧ (r.isText ∨ r = .integer) then some .text else none
  | like => if l.isText ∧ r.isText then some .bool else none
  | compare _ =>
    if (l.isText ∧ r.isText) ∨ (l.isNumeric ∧ r.isNumeric) then some .bool else none
  | connect _ => if l = .bool ∧ r = .bool then some .bool else none

/-- The type of an expression, if all of its operators and functions exist. -/
def Expression.type? (row : Row) : Expression → Option SqlType
  | column name => (row name).map Datum.type
  | integer i => some (integerType i)
  | literal _ => some .unknown
  | binary op l r => do op.type? (← l.type? row) (← r.type? row)
  | cast e type => do
    let t ← e.type? row
    if type = "numeric".toList ∧ (t.isText ∨ t.isNumeric) then some .numeric else none
  | call f x => do
    if f = "jsonb_typeof".toList ∧ (← x.type? row) = .json then some .text else none
  | callPair f x y => do
    let _ ← y.type? row
    if f = "jsonb_build_object".toList ∧ (← x.type? row).isText then some .json else none
  | case c r => do
    if (← c.type? row) = .bool then r.type? row else none

/-! ### Values -/

inductive Fault
  /-- A text that is cast to a number, but is none. -/
  | notNumeric (s : String)
  /-- A pattern that ends in its escape. -/
  | openEscape
  /-- An operand of another type. -/
  | illTyped

/-- A value, or null, or a failure of the whole statement. -/
abbrev Outcome := Except Fault (Option Datum)

/-- The two values are related as the comparison says. -/
def Comparison.Relates {α : Type} (order : LinearOrder α) (c : Comparison) (a b : α) : Prop :=
  match c with
  | eq => a = b
  | ne => a ≠ b
  | gt => a > b
  | ge => a ≥ b
  | lt => a < b
  | le => a ≤ b

instance {α : Type} (order : LinearOrder α) (c : Comparison) (a b : α) :
    Decidable (c.Relates order a b) := by
  cases c <;> unfold Comparison.Relates <;> infer_instance

def Datum.number? : Datum → Option ℚ
  | integer i => some i
  | number q => some q
  | _ => none

/-- What an accessor finds. -/
def access? (d : Document) : Datum → Except Fault (Option Document)
  | .text name => .ok (d.member? name)
  | .integer i => .ok (d.element? i)
  | _ => .error .illTyped

/-- The conjunction or disjunction of truth values, of which some may be missing. -/
def Connective.combine : Connective → Option Bool → Option Bool → Option Bool
  | and, some false, _ | and, _, some false => some false
  | and, some true, some true => some true
  | or, some true, _ | or, _, some true => some true
  | or, some false, some false => some false
  | _, _, _ => none

/-- Relates two values. -/
def compareData (engine : Engine) (c : Comparison) : Datum → Datum → Outcome
  | .text a, .text b => .ok (some (.bool (decide (c.Relates engine.collation a b))))
  | a, b =>
    match a.number?, b.number? with
    | some a, some b => .ok (some (.bool (decide (c.Relates inferInstance a b))))
    | _, _ => .error .illTyped

/-- An operator on two values. -/
def BinaryOp.apply (engine : Engine) (op : BinaryOp) (a b : Datum) : Outcome :=
  match op, a, b with
  | .json, .json d, b => (access? d b).map (Option.map .json)
  | .text, .json d, b => (access? d b).map fun v => (v.bind (·.text? engine.shown)).map .text
  | .like, .text s, .text pattern =>
    match wildcards? pattern.toList with
    | some ws => .ok (some (.bool (matchesPattern ws s.toList)))
    | none => .error .openEscape
  | .compare c, a, b => compareData engine c a b
  | _, _, _ => .error .illTyped

/-- An operation without a value where an operand has none. -/
def strict (f : Datum → Datum → Outcome) : Option Datum → Option Datum → Outcome
  | some a, some b => f a b
  | _, _ => .ok none

/-- A cast to numbers. -/
def Datum.toNumeric : Datum → Outcome
  | .text s =>
    match readNumeric? s.toList with
    | some q => .ok (some (.number q))
    | none => .error (.notNumeric s)
  | d =>
    match d.number? with
    | some q => .ok (some (.number q))
    | none => .error .illTyped

/-- The truth value of what is null or a truth value. -/
def truth? : Option Datum → Except Fault (Option Bool)
  | none => .ok none
  | some (.bool b) => .ok (some b)
  | _ => .error .illTyped

/-- An object with one member. -/
def singleMember : Datum → Option Datum → Outcome
  | .text name, none => .ok (some (.json (.object [(name, .null)])))
  | .text name, some (.text s) => .ok (some (.json (.object [(name, .string s)])))
  | .text name, some (.json d) => .ok (some (.json (.object [(name, d)])))
  | _, _ => .error .illTyped

def Expression.eval (engine : Engine) (row : Row) : Expression → Outcome
  | column name =>
    match row name with
    | some d => .ok (some d)
    | none => .error .illTyped
  | integer i => .ok (some (.integer i))
  | literal s => .ok (some (.text (String.ofList s)))
  | binary (.connect k) l r => do
    let a ← truth? (← l.eval engine row)
    let b ← truth? (← r.eval engine row)
    return (k.combine a b).map .bool
  | binary op l r => do strict (op.apply engine) (← l.eval engine row) (← r.eval engine row)
  | cast e _ => do
    match ← e.eval engine row with
    | some d => d.toNumeric
    | none => return none
  | call _ x => do
    match ← x.eval engine row with
    | some (.json d) => return some (.text d.kind)
    | some _ => .error .illTyped
    | none => return none
  | callPair _ x y => do
    match ← x.eval engine row with
    | some name => singleMember name (← y.eval engine row)
    | none => .error .illTyped
  | case c r => do
    match ← c.eval engine row with
    | some (.bool true) => r.eval engine row
    | _ => return none

end Catalog.Sql
