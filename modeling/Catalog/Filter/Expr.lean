import Catalog.Number.Notation
import Catalog.Text.Quoted
import Catalog.Text.Split
import Catalog.Sql.Operator

/-!
Filter expressions: operators, constants and trees, and the text that shows a tree.

A call names its function by text and may hold any number of arguments, so a tree can be built
that no filter text denotes.
-/

namespace Catalog.Filter

open Catalog.Number Catalog.Text
open Catalog.Sql (Comparison Connective)

inductive Operator
  | compare (c : Comparison)
  | connect (k : Connective)
  | index
  | has
  deriving DecidableEq, Repr

namespace Operator

def all : List Operator :=
  [compare .eq, compare .ne, compare .gt, compare .ge, compare .lt, compare .le,
   connect .and, connect .or, index, has]

/-- The function name that a call of this operator carries. -/
def function : Operator → String
  | compare .eq => "_==_"
  | compare .ne => "_!=_"
  | compare .gt => "_>_"
  | compare .ge => "_>=_"
  | compare .lt => "_<_"
  | compare .le => "_<=_"
  | connect .and => "_&&_"
  | connect .or => "_||_"
  | index => "_[_]"
  | has => "_:_"

def ofFunction? (name : String) : Option Operator := all.find? (·.function == name)

/-- The operator's spelling in SQL. -/
def sql : Operator → String
  | compare c => c.sql
  | connect k => k.sql
  | index => "["
  | has => "LIKE"

def isComparison : Operator → Bool
  | compare _ => true
  | _ => false

def isLogical : Operator → Bool
  | connect _ => true
  | _ => false

/-- The operator's result is true or false. -/
def isPredicate : Operator → Bool
  | index => false
  | _ => true

theorem ofFunction?_function (op : Operator) : ofFunction? op.function = some op := by
  rcases op with c | k | _ | _
  · cases c <;> decide
  · cases k <;> decide
  · decide
  · decide

theorem function_of_ofFunction? {name : String} {op : Operator}
    (h : ofFunction? name = some op) : op.function = name := by
  simpa using List.find?_some h

end Operator

inductive Constant
  | int64 (value : Int64)
  | uint64 (value : UInt64)
  | double (value : Double)
  | string (value : String)
  | bool (value : Bool)
  deriving DecidableEq, Inhabited

namespace Constant

def isNumeric : Constant → Bool
  | int64 _ | uint64 _ | double _ => true
  | _ => false

def boolText (b : Bool) : String := if b then "true" else "false"

def display : Constant → String
  | int64 i => toString i.toInt
  | uint64 u => toString u.toNat ++ "u"
  | double d => d.render .plain
  | string s => quote s
  | bool b => boolText b

end Constant

inductive Expr
  | call (function : String) (args : List Expr)
  | select (operand : Expr) (field : String)
  | ident (name : String)
  | const (value : Constant)
  deriving Inhabited

namespace Expr

def binary (op : Operator) (l r : Expr) : Expr := call op.function [l, r]

/-- The field path that a dotted text stands for. -/
def path (dotted : String) : Expr :=
  match splitAt '.' dotted with
  | [] => ident ""
  | root :: fields => fields.foldl select (ident root)

mutual

def display : Expr → String
  | call f args => f ++ "(" ++ ", ".intercalate (displayAll args) ++ ")"
  | select e field => display e ++ "." ++ field
  | ident name => name
  | const c => c.display

def displayAll : List Expr → List String
  | [] => []
  | e :: es => display e :: displayAll es

end

end Expr

end Catalog.Filter
