import Catalog.Filter.Expr

/-!
The tokens of a filter text.
-/

namespace Catalog.Filter

open Catalog.Number Catalog.Text
open Catalog.Sql (Comparison Connective)

inductive Bracket
  | paren
  | square
  deriving DecidableEq, Repr

inductive Lexeme
  | ident (name : String)
  | const (value : Constant)
  | connect (k : Connective)
  | compare (c : Comparison)
  | colon
  | dot
  | opening (bracket : Bracket)
  | closing (bracket : Bracket)
  deriving DecidableEq

namespace Lexeme

/-- The operator of a comparison or a containment test. -/
def relation? : Lexeme → Option Operator
  | compare c => some (.compare c)
  | colon => some .has
  | _ => none

/-- The lexeme counts as an operator. -/
def isOperator : Lexeme → Bool
  | connect _ | compare _ | colon | dot | opening .square => true
  | _ => false

/-- The lexeme's kind, with its value where it has one. -/
def describe : Lexeme → String
  | ident name => "Ident(" ++ quote name ++ ")"
  | const (.string s) => "Str(" ++ quote s ++ ")"
  | const (.int64 i) => "Int(" ++ toString i.toInt ++ ")"
  | const (.uint64 u) => "Uint(" ++ toString u.toNat ++ ")"
  | const (.double d) => "Double(" ++ d.render .tagged ++ ")"
  | const (.bool true) => "True"
  | const (.bool false) => "False"
  | connect .and => "And"
  | connect .or => "Or"
  | compare .eq => "Eq"
  | compare .ne => "Ne"
  | compare .lt => "Lt"
  | compare .le => "Le"
  | compare .gt => "Gt"
  | compare .ge => "Ge"
  | colon => "Colon"
  | dot => "Dot"
  | opening .square => "LBracket"
  | closing .square => "RBracket"
  | opening .paren => "LParen"
  | closing .paren => "RParen"

end Lexeme

structure Token where
  lexeme : Lexeme
  /-- The byte offset of its first character. -/
  offset : Nat
  deriving DecidableEq

end Catalog.Filter
