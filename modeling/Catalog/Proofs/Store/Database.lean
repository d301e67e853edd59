import Mathlib.Algebra.Group.Int.Defs
import Mathlib.Data.List.Sort
import Catalog.Proofs.Sql.Select
import Catalog.Store.Program

/-!
What queries mean. A query is read from its text and answered from one table: it finds the rows
that meet all of its conditions. Comparisons of a column with an argument mean what they say; what
other conditions mean is left open.
-/

namespace Catalog.Store

open Catalog.Sql

/-! ### Tables -/

structure Row where
  id : Int
  /-- The texts in the other columns. -/
  column : String → String

/-- Rows with ids of their own, as a `BIGSERIAL` column gives them out. -/
structure Table where
  rows : List Row
  nodup : (rows.map Row.id).Nodup
  id_pos : ∀ row ∈ rows, 0 < row.id
  id_lt : ∀ row ∈ rows, row.id < 2 ^ 63

/-- The tables of a database, by their names. -/
abbrev Database : Type := String → Table

def Row.value (row : Row) (name : List Char) : Value :=
  if name = "id".toList then .int row.id else .text (row.column (String.ofList name))

/-! ### Conditions -/

/-- What every condition means that does not compare a column with an argument. -/
abbrev Meaning : Type := List Item → Row → Bool

/-- The argument that a placeholder stands for. -/
def argument? (args : List Value) : Item → Option Value
  | .word ('$' :: ds) =>
    match Nat.ofDigitChars 10 ds 0 with
    | 0 => none
    | k + 1 => args[k]?
  | _ => none

/-- The row meets a condition. -/
def Row.meets (row : Row) (meaning : Meaning) (args : List Value) (condition : List Item) : Bool :=
  match condition with
  | [.word name, .mark op, operand] =>
    match op, row.value name, argument? args operand with
    | '=', v, some w => v = w
    | '>', .int a, some (.int b) => b < a
    | _, _, _ => meaning condition row
  | _ => meaning condition row

/-! ### Queries -/

/-- The value of an output column: a column as it is, or its text. -/
def Row.output? (row : Row) : List Item → Option Value
  | [.word name] => some (row.value name)
  | [.word name, .mark ':', .mark ':', .word t] =>
    if t = "text".toList then some (.text (row.column (String.ofList name))) else none
  | _ => none

/-- The columns of a query for the greatest id. -/
def greatestId : List (List Item) := [[.word "MAX".toList, .group '(' ("id".toList.map .char)]]

/-- The clause that orders rows by their ids. -/
def ascendingIds : List Item := [.word "BY".toList, .word "id".toList, .word "ASC".toList]

/-- The rows of a table in the order of their ids. -/
def sortById (rows : List Row) : List Row := rows.mergeSort fun a b => a.id ≤ b.id

def greatest (rows : List Row) : Value := ((rows.map Row.id).max?.map Value.int).getD .null

/-- How many rows a query wants at most. -/
def limit? (args : List Value) : Option (List Item) → Option ℕ
  | some [operand] =>
    match argument? args operand with
    | some (.int n) => if 0 ≤ n then some n.toNat else none
    | _ => none
  | _ => none

/-- The rows that meet all conditions of a query. -/
def found (meaning : Meaning) (args : List Value) (q : Select) (t : Table) : List Row :=
  t.rows.filter fun row => q.conditions.all (row.meets meaning args)

/-- The answer to a query, if it is one of the two kinds: the greatest of the ids that are found,
or the first rows that are found in the order of their ids. -/
def answer? (meaning : Meaning) (args : List Value) (q : Select) (t : Table) :
    Option (List (List Value)) :=
  if q.columns = greatestId then some [[greatest (found meaning args q t)]]
  else if q.order = some ascendingIds then do
    let limit ← limit? args q.limit
    ((sortById (found meaning args q t)).take limit).mapM fun row => q.columns.mapM row.output?
  else none

/-- The answer of a database to a statement, as far as it has a meaning here. -/
def Database.answer? (db : Database) (meaning : Meaning) (s : Statement) :
    Option (List (List Value)) := do
  let q ← select? (← outline? (← glyphs? s.sql))
  Store.answer? meaning s.arguments q (db (String.ofList q.table))

/-! ### Order -/

lemma perm_sortById (rows : List Row) : (sortById rows).Perm rows := List.mergeSort_perm _ _

lemma mem_sortById {rows : List Row} {row : Row} : row ∈ sortById rows ↔ row ∈ rows :=
  (perm_sortById rows).mem_iff

lemma pairwise_sortById (rows : List Row) : (sortById rows).Pairwise fun a b => a.id ≤ b.id := by
  have hle (a b : Row) : decide (a.id ≤ b.id) = true ↔ a.id ≤ b.id := decide_eq_true_iff
  refine (List.pairwise_mergeSort ?_ ?_ rows).imp fun h => (hle _ _).mp h
  · simp only [hle]
    exact fun a b c => le_trans
  · simp only [Bool.or_eq_true, hle]
    exact fun a b => le_total _ _

/-- Rows with ids of their own are sorted strictly. -/
lemma pairwise_lt_sortById {rows : List Row} (h : (rows.map Row.id).Nodup) :
    (sortById rows).Pairwise fun a b => a.id < b.id := by
  have hne : (sortById rows).Pairwise fun a b => a.id ≠ b.id := by
    have := ((perm_sortById rows).map Row.id).nodup_iff.mpr h
    exact List.pairwise_map.mp this
  exact ((pairwise_sortById rows).and hne).imp fun ⟨hle, hne⟩ => lt_of_le_of_ne hle hne

end Catalog.Store
