import Mathlib.Tactic.Common
import Catalog.Proofs.Sql.Outline

/-!
What the outline of a statement says: its clauses, each from one keyword to the next, the
conditions of its WHERE clause, and the arguments that its placeholders stand for.
-/

namespace Catalog.Sql

/-! ### Clauses -/

/-- Keywords are read without regard to case. -/
def Item.isKeyword (keyword : String) : Item → Bool
  | .word cs => cs.map Char.toUpper = keyword.toList
  | _ => false

/-- The keywords that start a clause. -/
def clauseKeywords : List String :=
  ["SELECT", "INSERT", "UPDATE", "DELETE", "SET", "VALUES", "FROM", "WHERE", "GROUP", "HAVING",
   "WINDOW", "UNION", "INTERSECT", "EXCEPT", "ORDER", "LIMIT", "OFFSET", "FETCH", "FOR",
   "RETURNING"]

def Item.clause? (i : Item) : Option String := clauseKeywords.find? i.isKeyword

/-- What stands before the first clause, and the clauses without their keywords. -/
def clauses : List Item → List Item × List (String × List Item)
  | [] => ([], [])
  | i :: is =>
    match i.clause? with
    | some keyword => ([], (keyword, (clauses is).1) :: (clauses is).2)
    | none => (i :: (clauses is).1, (clauses is).2)

/-- The conditions of a statement: what AND separates in its WHERE clause. -/
def conditions (is : List Item) : List (List Item) :=
  ((clauses is).2.filter (·.1 = "WHERE")).flatMap (·.2.splitOnP (Item.isKeyword "AND"))

/-- A query of one table. -/
structure Select where
  columns : List (List Item)
  table : List Char
  conditions : List (List Item)
  order : Option (List Item)
  limit : Option (List Item)
  deriving DecidableEq

/-- The query that an outline spells. -/
def select? (is : List Item) : Option Select :=
  match clauses is with
  | ([], ("SELECT", columns) :: ("FROM", [.word table]) :: rest) =>
    some ⟨columns.splitOnP (· = .mark ','), table, conditions is, rest.lookup "ORDER",
      rest.lookup "LIMIT"⟩
  | _ => none

/-- The item neither starts a clause nor connects conditions. -/
def Item.isPlain (i : Item) : Bool :=
  i.clause?.isNone && !i.isKeyword "AND" && !i.isKeyword "OR"

lemma Item.isPlain_group (o : Char) (inner : List Glyph) : (Item.group o inner).isPlain = true := by
  simp [Item.isPlain, Item.clause?, Item.isKeyword]

lemma clauses_append {is : List Item} (h : ∀ i ∈ is, i.clause? = none) (js : List Item) :
    clauses (is ++ js) = (is ++ (clauses js).1, (clauses js).2) := by
  induction is with
  | nil => rfl
  | cons i is ih =>
    have hi : i.clause? = none := h i List.mem_cons_self
    simp [clauses, hi, ih fun j hj => h j (List.mem_cons_of_mem _ hj)]

/-- Where a clause starts, what stands before it does not matter. -/
lemma clauses_clause (is : List Item) {js : List Item} (h : (clauses js).1 = []) :
    clauses (is ++ js) = ((clauses is).1, (clauses is).2 ++ (clauses js).2) := by
  induction is with
  | nil => exact Prod.ext h rfl
  | cons i is ih =>
    simp only [List.cons_append, clauses, ih]
    split <;> rfl

/-! ### Placeholders -/

def digits (gs : List Glyph) : List Char :=
  match gs with
  | .char c :: gs => if c.isDigit then c :: digits gs else []
  | _ => []

/-- The numbers of the arguments, in the order in which they are asked for. -/
def placeholders : List Glyph → List ℕ
  | [] => []
  | .char '$' :: gs => Nat.ofDigitChars 10 (digits gs) 0 :: placeholders gs
  | _ :: gs => placeholders gs

lemma digits_append {g : Glyph} (hg : ∀ c, g = .char c → c.isDigit = false)
    (gs hs : List Glyph) : digits (gs ++ g :: hs) = digits gs := by
  induction gs with
  | nil =>
    cases g with
    | char c => simp [digits, hg c rfl]
    | literal => rfl
  | cons d gs ih =>
    cases d with
    | char c => simp [digits, ih]
    | literal => rfl

/-- A blank ends the number of an argument. -/
lemma placeholders_blank (gs hs : List Glyph) :
    placeholders (gs ++ .char ' ' :: hs) = placeholders gs ++ placeholders hs := by
  induction gs using placeholders.induct with
  | case1 => rfl
  | case2 gs ih =>
    have hd : digits (gs ++ .char ' ' :: hs) = digits gs :=
      digits_append (by rintro _ ⟨⟩; rfl) gs hs
    simp [placeholders, hd, ih]
  | case3 g gs hg ih =>
    rw [List.cons_append, placeholders, placeholders, ih]
    · exact hg
    · exact hg

lemma placeholders_of_notMem {gs : List Glyph} (h : .char '$' ∉ gs) : placeholders gs = [] := by
  induction gs with
  | nil => rfl
  | cons g gs ih =>
    rw [List.mem_cons, not_or] at h
    rw [placeholders, ih h.2]
    exact fun hg => h.1 hg.symm

end Catalog.Sql
