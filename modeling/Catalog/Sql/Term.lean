import Catalog.Number.Notation
import Catalog.Sql.Literal
import Catalog.Sql.Operator

/-!
Conditions on one JSON document, and their SQL text.

A document is addressed through an anchor, which is left open: a term is written as a list of
pieces, and any text can be put in for the anchor. Every operation stands in parentheses of its
own, so no text depends on the precedence of operators.
-/

namespace Catalog.Sql

open Catalog.Number

/-- One step into a document: to a member or to a place in an array. -/
inductive Step
  | key (name : String)
  | position (i : Int64)
  deriving DecidableEq

/-- The way from the anchor to a value inside the document. -/
inductive Path
  | root (s : Step)
  | child (parent : Path) (s : Step)
  deriving DecidableEq

inductive Term
  /-- The text of the value at a path. -/
  | text (p : Path)
  /-- The value at a path where it is a number. -/
  | number (p : Path)
  | integer (i : Int)
  /-- A finite number, to six decimal places. -/
  | decimal (d : Double)
  | literal (s : String)
  | compare (c : Comparison) (l r : Term)
  | connect (k : Connective) (l r : Term)
  /-- The left side contains a text. -/
  | contains (l : Term) (s : String)
  | subscript (l index : Term)
  deriving DecidableEq

/-! ### Text -/

inductive Piece
  | anchor
  | code (s : String)
  | literal (s : String)
  deriving DecidableEq

def Piece.render (anchor : String) : Piece → String
  | .anchor => anchor
  | code s => s
  | literal s => quoteLiteral s

def Step.piece : Step → Piece
  | key name => .literal name
  | position i => .code (toString i.toInt)

/-- The value at a path, as JSON. -/
def Path.json : Path → List Piece
  | root s => [.anchor, .code "->", s.piece]
  | child p s => p.json ++ [.code "->", s.piece]

/-- The value at a path, as text. -/
def Path.text : Path → List Piece
  | root s => [.anchor, .code "->>", s.piece]
  | child p s => p.json ++ [.code "->>", s.piece]

/-- Two terms with an operator between them, in parentheses. -/
def between (op : String) (l r : List Piece) : List Piece :=
  .code "(" :: l ++ .code (" " ++ op ++ " ") :: r ++ [.code ")"]

def Term.pieces : Term → List Piece
  | text p => p.text
  | number p =>
    .code "CASE WHEN jsonb_typeof(" :: p.json ++ [.code ") = ", .literal "number", .code " THEN ("]
      ++ p.text ++ [.code ")::numeric END"]
  | integer i => [.code (toString i)]
  | decimal d => [.code (d.fixed 6)]
  | literal s => [.literal s]
  | compare c l r => between c.sql l.pieces r.pieces
  | connect k l r => between k.sql l.pieces r.pieces
  | contains l s => between "LIKE" l.pieces [.literal (containsPattern s)]
  | subscript l i => l.pieces ++ .code "[" :: i.pieces ++ [.code "]"]

/-- The SQL text of a term over the document that `anchor` names. -/
def Term.render (anchor : String) (t : Term) : String :=
  String.join (t.pieces.map (Piece.render anchor))

end Catalog.Sql
