import Catalog.Proofs.Store.Wording
import Catalog.Store.Listing

/-!
What a database says to the two statements of a listing: the rows of the scope that match the
filter, behind an id, in order and so many at most; and the greatest id of all that match.
-/

namespace Catalog.Store

open Catalog.Sql

/-! ### Rows of a scope -/

/-- The row is in the scope. -/
def Scope.contains (s : Scope) (row : Row) : Bool :=
  s.keys.all fun key => row.column key.1 = key.2

/-- What a listing shows of a row. -/
def Scope.shown : Scope → Row → String
  | projects, row => row.column "name"
  | _, row => row.column "data"

/-- A predicate as a condition. -/
def conditionOf (predicate : String) : List Item := ((glyphs? predicate).bind outline?).getD []

/-- The row is in the scope, and meets the predicate if there is one. -/
def Scope.matches (s : Scope) (meaning : Meaning) (predicate : Option String) (row : Row) : Bool :=
  s.contains row && predicate.all fun p => meaning (conditionOf p) row

/-! ### Conditions -/

lemma argument?_toDigits (args : List Value) (k : ℕ) :
    argument? args (.word ('$' :: Nat.toDigits 10 (k + 1))) = args[k]? := by
  rw [argument?, Nat.ofDigitChars_toDigits (by decide) (by decide)]

lemma meets_equality {row : Row} {meaning : Meaning} {args : List Value} {column value : String}
    {k : ℕ} (hk : args[k]? = some (.text value)) (hc : column ≠ "id") :
    row.meets meaning args (comparisonItems column '=' (k + 1))
      = decide (row.column column = value) := by
  have hvalue : row.value column.toList = .text (row.column column) := by
    rw [Row.value, if_neg fun h => hc (String.toList_injective h), String.ofList_toList]
  simp [comparisonItems, Row.meets, argument?_toDigits, hk, hvalue]

lemma meets_behind {row : Row} {meaning : Meaning} {args : List Value} {after : Int} {k : ℕ}
    (hk : args[k]? = some (.int after)) :
    row.meets meaning args (comparisonItems "id" '>' (k + 1)) = decide (after < row.id) := by
  simp [comparisonItems, Row.meets, argument?_toDigits, hk, Row.value]

/-- Groups mean what they mean, whatever the arguments are. -/
lemma meets_filter {row : Row} {meaning : Meaning} {args : List Value} {filter : Option Fragment}
    (h : ∀ f ∈ filter, IsClause f) :
    (Statement.groups (Statement.inner filter)).all (row.meets meaning args)
      = (filter.map sqlOf).all fun p => meaning (conditionOf p) row := by
  cases filter with
  | none => rfl
  | some f =>
    obtain ⟨inner, hitems, hglyphs, -⟩ := h f rfl
    have hcond : conditionOf (sqlOf f) = [.group '(' inner] := by
      have hg : glyphs? (sqlOf f) = some f.glyphs := Fragment.glyphs?_eq (by simp [sqlOf])
      simp [conditionOf, hg, f.outline, hitems]
    simp [Statement.groups, Statement.inner, hglyphs, hcond, Row.meets]

/-- Equalities that are numbered behind the arguments `before`. -/
lemma meets_equalities {keys : List (String × String)} (h : ∀ key ∈ keys, key.1 ≠ "id")
    (row : Row) (meaning : Meaning) (before rest : List Value) :
    ((keys.zipIdx (before.length + 1)).map fun (key, number) =>
        comparisonItems key.1 '=' number).all
        (row.meets meaning (before ++ (keys.map (.text ·.2) ++ rest)))
      = keys.all fun key => row.column key.1 = key.2 := by
  induction keys generalizing before with
  | nil => rfl
  | cons key keys ih =>
    have hfirst : row.meets meaning (before ++ (.text key.2 :: (keys.map (.text ·.2) ++ rest)))
        (comparisonItems key.1 '=' (before.length + 1)) = decide (row.column key.1 = key.2) :=
      meets_equality (by simp) (h key List.mem_cons_self)
    have hrest := ih (fun k hk => h k (List.mem_cons_of_mem _ hk)) (before ++ [.text key.2])
    simp only [List.length_append, List.length_singleton, List.append_assoc,
      List.singleton_append] at hrest
    simp only [List.zipIdx_cons, List.map_cons, List.all_cons, List.cons_append, hrest]
    simp [hfirst]

lemma column_ne_id (s : Scope) : ∀ key ∈ s.keys, key.1 ≠ "id" := by
  cases s <;> simp [Scope.keys]

/-- The bounds of a statement say that the row is in the scope. -/
lemma meets_bounds (s : Scope) (row : Row) (meaning : Meaning) (rest : List Value) :
    (equalities s.keys).all (row.meets meaning (s.keys.map (.text ·.2) ++ rest))
      = s.contains row :=
  meets_equalities (column_ne_id s) row meaning [] rest

/-! ### Answers -/

/-- The rows of a database that a listing is about. -/
def Scope.matching (s : Scope) (meaning : Meaning) (predicate : Option String) (db : Database) :
    List Row :=
  (db s.table).rows.filter (s.matches meaning predicate)

/-- Of a query that reads one table, the columns and the table are in its head. -/
lemma select?_eq {is : List Item} {columns : List Item} {table : List Char}
    {rest : List (String × List Item)}
    (h : clauses is = ([], ("SELECT", columns) :: ("FROM", [.word table]) :: rest)) :
    select? is = some ⟨columns.splitOnP (· = .mark ','), table, conditions is,
      rest.lookup "ORDER", rest.lookup "LIMIT"⟩ := by
  rw [select?, h]
  rfl

lemma lookup_whereClause (fs : List Fragment) (rest : List (String × List Item)) {keyword : String}
    (h : keyword ≠ "WHERE") :
    (Fragment.whereClause fs ++ rest).lookup keyword = rest.lookup keyword := by
  cases fs with
  | nil => rfl
  | cons f fs =>
    have : (keyword == "WHERE") = false := by simpa using h
    simp [Fragment.whereClause, List.lookup_cons, this]

lemma clauses_maxHead (s : Scope) : clauses s.maxHead.items
    = ([], [("SELECT", [.word "MAX".toList, .group '(' ("id".toList.map .char)]),
      ("FROM", [.word s.table.toList])]) := by
  cases s <;> simp only [Scope.maxHead, Scope.table] <;> decide

lemma select?_max (s : Scope) {filter : Option Fragment} (h : ∀ f ∈ filter, IsClause f) :
    select? (s.max filter).items
      = some ⟨greatestId, s.table.toList, conditions (s.max filter).items, none, none⟩ := by
  have hclauses := Fragment.clauses_restrict s.maxHead (Statement.isPlain_parts s h).1
  rw [clauses_maxHead] at hclauses
  have hnone : ∀ keyword, keyword ≠ "WHERE" →
      (Fragment.whereClause (s.bounds ++ filter.toList)).lookup keyword = none := by
    intro keyword hk
    simpa using lookup_whereClause (s.bounds ++ filter.toList) [] hk
  rw [Scope.max, select?_eq hclauses]
  simp only [List.append_eq, List.nil_append, hnone _ (show "ORDER" ≠ "WHERE" by decide),
    hnone _ (show "LIMIT" ≠ "WHERE" by decide)]
  rfl

/-- The greatest id is that of the rows that match. -/
theorem answer?_maxId (db : Database) (meaning : Meaning) (s : Scope) {filter : Option Fragment}
    (h : ∀ f ∈ filter, IsClause f) :
    db.answer? meaning (.maxId s (filter.map sqlOf))
      = some [[greatest (s.matching meaning (filter.map sqlOf) db)]] := by
  have hb := Statement.bounded_maxId s h
  have hfound : ∀ row, (conditions (s.max filter).items).all
      (row.meets meaning (Statement.maxId s (filter.map sqlOf)).arguments)
        = s.matches meaning (filter.map sqlOf) row := by
    intro row
    have hargs : (Statement.maxId s (filter.map sqlOf)).arguments
        = s.keys.map (.text ·.2) ++ [] := by simp [Statement.arguments]
    rw [hb.conditions, hargs]
    simp only [Statement.keys, Statement.tests, List.all_append, List.all_nil, meets_filter h,
      meets_bounds, Scope.matches, Bool.and_true]
  rw [Database.answer?, hb.glyphs, Option.bind_eq_bind, Option.bind_some, hb.outline,
    Option.bind_eq_bind, Option.bind_some, select?_max s h, Option.bind_eq_bind,
    Option.bind_some]
  simp only [answer?, found, hfound, String.ofList_toList]
  rfl

/-- The second column of a page. -/
def Scope.shownItems : Scope → List Item
  | projects => [.word "name".toList]
  | _ => [.word "data".toList, .mark ':', .mark ':', .word "text".toList]

lemma output?_shownItems (s : Scope) (row : Row) :
    row.output? s.shownItems = some (.text (s.shown row)) := by
  cases s <;> simp [Scope.shownItems, Row.output?, Row.value, Scope.shown]

lemma clauses_pageHead (s : Scope) : clauses s.pageHead.items
    = ([], [("SELECT", .word "id".toList :: .mark ',' :: s.shownItems),
      ("FROM", [.word s.table.toList])]) := by
  cases s <;> simp only [Scope.pageHead, Scope.table, Scope.shownItems] <;> decide

lemma columns_page (s : Scope) :
    (.word "id".toList :: .mark ',' :: s.shownItems : List Item).splitOnP (· = .mark ',')
      = [[.word "id".toList], s.shownItems] := by
  cases s <;> rfl

lemma clauses_pageTail (s : Scope) : clauses s.pageTail.items
    = ([], [("ORDER", ascendingIds),
      ("LIMIT", [.word ('$' :: Nat.toDigits 10 (s.keys.length + 2))])]) := by
  cases s <;> simp only [Scope.pageTail, Scope.keys, List.length_cons, List.length_nil] <;> decide

lemma select?_page (s : Scope) {filter : Option Fragment} (h : ∀ f ∈ filter, IsClause f) :
    select? (s.page filter).items
      = some ⟨[[.word "id".toList], s.shownItems], s.table.toList,
          conditions (s.page filter).items, some ascendingIds,
          some [.word ('$' :: Nat.toDigits 10 (s.keys.length + 2))]⟩ := by
  have htail : (clauses s.pageTail.items).1 = [] := by rw [clauses_pageTail]
  have hclauses := clauses_clause
    (s.pageHead.restrict (s.bounds ++ s.behind :: filter.toList)).items htail
  rw [Fragment.clauses_restrict s.pageHead (Statement.isPlain_parts s h).2, clauses_pageHead,
    clauses_pageTail] at hclauses
  rw [Scope.page, Fragment.items_beside, select?_eq hclauses, columns_page]
  simp only [List.append_eq, List.nil_append,
    lookup_whereClause _ _ (show "ORDER" ≠ "WHERE" by decide),
    lookup_whereClause _ _ (show "LIMIT" ≠ "WHERE" by decide)]
  rfl

/-- The rows that match behind an id, in the order of their ids, so many at most. -/
def Scope.pageRows (s : Scope) (meaning : Meaning) (predicate : Option String) (db : Database)
    (after limit : Int) : List Row :=
  (sortById ((s.matching meaning predicate db).filter (after < ·.id))).take limit.toNat

lemma mapM_output? (s : Scope) (rows : List Row) :
    (rows.mapM fun row => [[.word "id".toList], s.shownItems].mapM row.output?)
      = some (rows.map fun row => [.int row.id, .text (s.shown row)]) := by
  have hrow : ∀ row : Row, [[.word "id".toList], s.shownItems].mapM row.output?
      = some [.int row.id, .text (s.shown row)] := by
    intro row
    have hid : row.output? [.word "id".toList] = some (.int row.id) := rfl
    rw [List.mapM_cons, hid, List.mapM_cons, output?_shownItems, List.mapM_nil]
    rfl
  induction rows with
  | nil => rfl
  | cons row rows ih =>
    rw [List.mapM_cons, hrow, ih]
    rfl

/-- A page holds the first rows that match behind an id. -/
theorem answer?_page (db : Database) (meaning : Meaning) (s : Scope) {filter : Option Fragment}
    (h : ∀ f ∈ filter, IsClause f) {after limit : Int} (hlimit : 0 ≤ limit) :
    db.answer? meaning (.page s (filter.map sqlOf) after limit)
      = some ((s.pageRows meaning (filter.map sqlOf) db after limit).map fun row =>
          [.int row.id, .text (s.shown row)]) := by
  have hb := Statement.bounded_page s h after limit
  have hargs : (Statement.page s (filter.map sqlOf) after limit).arguments
      = s.keys.map (.text ·.2) ++ [.int after, .int limit] := rfl
  have hfound : ∀ row, (conditions (s.page filter).items).all
      (row.meets meaning (s.keys.map (.text ·.2) ++ [.int after, .int limit]))
        = (decide (after < row.id) && s.matches meaning (filter.map sqlOf) row) := by
    intro row
    have hbehind : row.meets meaning (s.keys.map (.text ·.2) ++ [.int after, .int limit])
        (comparisonItems "id" '>' (s.keys.length + 1)) = decide (after < row.id) :=
      meets_behind (by simp)
    rw [hb.conditions]
    simp only [Statement.keys, Statement.tests, List.all_append, List.all_cons, List.all_nil,
      meets_filter h, meets_bounds, hbehind, Scope.matches]
    cases decide (after < row.id) <;> simp
  have hlim : limit? (s.keys.map (.text ·.2) ++ [.int after, .int limit])
      (some [.word ('$' :: Nat.toDigits 10 (s.keys.length + 2))]) = some limit.toNat := by
    simp [limit?, argument?_toDigits _ (s.keys.length + 1), hlimit]
  have hcols : [[.word "id".toList], s.shownItems] ≠ greatestId := by simp [greatestId]
  rw [Database.answer?, hb.glyphs, Option.bind_eq_bind, Option.bind_some, hb.outline,
    Option.bind_eq_bind, Option.bind_some, select?_page s h, Option.bind_eq_bind,
    Option.bind_some, hargs, answer?, if_neg hcols, if_pos rfl, hlim, Option.bind_eq_bind,
    Option.bind_some, mapM_output?]
  simp only [found, hfound, String.ofList_toList, Scope.pageRows, Scope.matching,
    List.filter_filter]

/-! ### Reading the answers -/

/-- The greatest id of rows, zero if there are none. -/
def maxOf (rows : List Row) : Int := (rows.map Row.id).max?.getD 0

lemma readMax?_greatest (rows : List Row) : readMax? [greatest rows] = some (maxOf rows) := by
  rw [greatest, maxOf]
  cases (rows.map Row.id).max? <;> rfl

lemma mapM_readRow? (s : Scope) (rows : List Row) :
    (rows.map fun row => [Value.int row.id, .text (s.shown row)]).mapM readRow?
      = some (rows.map fun row => (row.id, s.shown row)) := by
  induction rows with
  | nil => rfl
  | cons row rows ih =>
    rw [List.map_cons, List.mapM_cons, ih]
    rfl

end Catalog.Store
