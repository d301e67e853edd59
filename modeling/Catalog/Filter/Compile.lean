import Catalog.Filter.Parser
import Catalog.Sql.Term

/-!
From a filter tree to the SQL condition it stands for.

Names address members of a JSON document, and a name compared with a number addresses it as a
number. The root of a tree, and both sides of AND and OR, must be conditions.
-/

namespace Catalog.Filter

open Catalog.Number Catalog.Sql

/-! ### Walks -/

/-- What walks down a tree are written in. They may fail. -/
class Descent (m : Type → Type) extends Monad m, MonadExceptOf Error m where
  /-- The walk goes on at a part. -/
  down {α : Type} : m α → m α

open Descent (down)

/-- Walks whose levels nobody counts. -/
instance : Descent (Except Error) where
  down x := x

variable {m : Type → Type} [Descent m]

/-! ### Paths -/

/-- The step that an index stands for. -/
def Expr.step? : Expr → Except Error Step
  | const (.int64 i) => .ok (.position i)
  | const (.uint64 u) =>
    if u.toNat < Nat.pow 2 63 then .ok (.position u.toInt64) else .error (.indexOutOfRange u)
  | const (.string k) => .ok (.key k)
  | e => .error (.unsupportedIndex e)

/-- A path, one step further. -/
def extendPath (parent : m Path) (step : Except Error Step) : m Path := do
  let p ← parent
  let s ← MonadExcept.ofExcept step
  return .child p s

mutual

/-- The walk to the path of an expression. -/
def Expr.pathIn (m : Type → Type) [Descent m] : Expr → m Path
  | .ident name => return .root (.key name)
  | .select e field => do return .child (← down (e.pathIn m)) (.key field)
  | .call f args =>
    match Operator.ofFunction? f, args, pathAllIn m args with
    | some .index, [_, i], [p, _] => extendPath (down p) i.step?
    | _, _, _ => throw (.notAPath (.call f args))
  | .const c => throw (.notAPath (.const c))

def pathAllIn (m : Type → Type) [Descent m] : List Expr → List (m Path)
  | [] => []
  | e :: es => e.pathIn m :: pathAllIn m es

end

/-- The path that an expression spells, rooted at a name. -/
def Expr.path? (e : Expr) : Except Error Path := e.pathIn (Except Error)

/-! ### Constants -/

/-- A text without the character that no stored text may hold. -/
def checkText (s : String) : Except Error String :=
  if s.toList.contains '\x00' then .error .containsNul else .ok s

def Constant.term? : Constant → Except Error Term
  | int64 i => .ok (.integer i.toInt)
  | uint64 u => .ok (.integer u.toNat)
  | double d => if d.isFinite then .ok (.decimal d) else .error (.notFinite d)
  | string s => (checkText s).map .literal
  | bool b => .ok (.literal (boolText b))

/-- The text that a containment test looks for. -/
def Constant.needle? : Constant → Except Error String
  | int64 i => .ok (toString i.toInt)
  | uint64 u => .ok (toString u.toNat)
  | double d => if d.isFinite then .ok (d.fixed 6) else .error (.notFinite d)
  | string s => checkText s
  | bool b => .ok (boolText b)

/-! ### Terms -/

/-- One side of a comparison: a path beside a number is read as a number. -/
def operandTerm (e other : Expr) (t : m Term) : m Term :=
  match other with
  | .const c =>
    if c.isNumeric then
      tryCatch (do return .number (← down (e.pathIn m))) fun _ => t
    else t
  | _ => t

/-- The term of a call on `l` and `r`, whose own terms are `tl` and `tr`. -/
def Operator.term? (op : Operator) (l r : Expr) (tl tr : m Term) : m Term :=
  match op with
  | .index =>
    tryCatch (do return .text (← extendPath (down (l.pathIn m)) r.step?)) fun _ => do
      return .subscript (← tl) (← tr)
  | .has =>
    match r with
    | .const c => do return .contains (← tl) (← MonadExcept.ofExcept c.needle?)
    | e => throw (.literalRequired e)
  | .compare c => do return .compare c (← operandTerm l r tl) (← operandTerm r l tr)
  | .connect k => do return .connect k (← tl) (← tr)

mutual

/-- The walk to the term of an expression. -/
def Expr.termIn (m : Type → Type) [Descent m] : Expr → m Term
  | .call f args =>
    match Operator.ofFunction? f with
    | none => throw (.unsupportedFunction f)
    | some op =>
      match args, termAllIn m args with
      | [l, r], [tl, tr] => op.term? l r (down tl) (down tr)
      | _, _ => throw (.wrongArity f args.length)
  | .select e field => do return .text (← Expr.pathIn m (.select e field))
  | .ident name => return .text (.root (.key name))
  | .const c => MonadExcept.ofExcept c.term?

def termAllIn (m : Type → Type) [Descent m] : List Expr → List (m Term)
  | [] => []
  | e :: es => e.termIn m :: termAllIn m es

end

def Expr.term? (e : Expr) : Except Error Term := e.termIn (Except Error)

/-! ### Conditions -/

mutual

/-- The walk over those parts that have to be conditions. -/
def Expr.checkIn (m : Type → Type) [Descent m] : Expr → m Unit
  | .call f args =>
    match Operator.ofFunction? f with
    | none => throw (.unsupportedFunction f)
    | some op =>
      if !op.isPredicate then throw (.notAPredicate (.call f args))
      else if op.isLogical then checkAllIn m args
      else return ()
  | e => throw (.notAPredicate e)

def checkAllIn (m : Type → Type) [Descent m] : List Expr → m Unit
  | [] => return ()
  | e :: es => do down (e.checkIn m); checkAllIn m es

end

/-- Refuses an expression whose value is neither true nor false. -/
def Expr.checkPredicate (e : Expr) : Except Error Unit := e.checkIn (Except Error)

/-- The condition that a tree stands for. -/
def Expr.condition? (e : Expr) : Except Error Term := do
  e.checkPredicate
  e.term?

/-- The column that holds the payload of notes and occurrences. -/
def payloadAnchor : String := "data"

/-- A document built from the row of a project, which has no payload. -/
def projectAnchor : String := "jsonb_build_object('name', name)"

def Expr.compile (anchor : String) (e : Expr) : Except Error String :=
  e.condition?.map (Term.render anchor)

/-- The condition that a filter text stands for. -/
def condition? (text : String) : Except Error Term := do
  (← parse text).condition?

/-- The SQL text of a filter. -/
def compile (anchor text : String) : Except Error String :=
  (condition? text).map (Term.render anchor)

end Catalog.Filter
