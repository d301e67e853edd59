import Catalog.Proofs.Filter.Clause
import Catalog.Proofs.Sql.Fragment
import Catalog.Proofs.Store.Database

/-!
The texts of the statements that listings send, as fragments. Outside of literals and brackets
they say the same for every filter: only one condition more or less.
-/

namespace Catalog.Store

open Catalog.Sql

/-! ### Filters -/

/-- The fragment is one group that asks for no argument. -/
def IsClause (f : Fragment) : Prop :=
  ∃ inner, f.items = [.group '(' inner] ∧ f.glyphs = .char '(' :: (inner ++ [.char ')'])
    ∧ Balanced inner ∧ f.numbers = []

lemma IsClause.isPlain {f : Fragment} (h : IsClause f) : f.IsPlain := by
  obtain ⟨inner, hitems, -⟩ := h
  intro i hi
  obtain rfl : i = .group '(' inner := by simpa [hitems] using hi
  exact Item.isPlain_group _ _

/-- A compiled filter is a clause. -/
lemma exists_clause {anchor sql : String} (ha : Filter.IsAnchor anchor) {e : Filter.Expr}
    (h : e.compile anchor = .ok sql) : ∃ f : Fragment, f.text = sql.toList ∧ IsClause f := by
  obtain ⟨ag, hag⟩ := ha.anchored
  obtain ⟨t, -, hreads, hgroup⟩ := Filter.clause_reads hag h
  have hharm := t.harmless hag
  obtain ⟨inner, hglyphs, houtline⟩ := outline?_group hgroup
  have hinner : Balanced inner := by
    obtain ⟨inner', hglyphs', hb⟩ := hgroup
    have : inner ++ [.char ')'] = inner' ++ [.char ')'] := by
      rw [hglyphs] at hglyphs'
      exact List.tail_eq_of_cons_eq hglyphs'
    exact List.append_cancel_right this ▸ hb
  exact ⟨⟨_, _, _, [], hreads.glyphs?, houtline, placeholders_of_notMem hharm.argument,
      hharm.toQuiet⟩,
    rfl, inner, rfl, hglyphs, hinner, rfl⟩

/-! ### Texts -/

/-- The text of a fragment, as the statements have it. -/
def sqlOf (f : Fragment) : String := String.ofList f.text

lemma text_conjunction (f : Fragment) (fs : List Fragment) :
    (f.conjunction fs).text = (Scope.conjunction ((f :: fs).map sqlOf)).toList := by
  induction fs generalizing f with
  | nil => simp [Fragment.conjunction, Scope.conjunction, sqlOf]
  | cons g fs ih =>
    have hand : Fragment.andWord.text = ['A', 'N', 'D'] := rfl
    simp [Fragment.conjunction, Scope.conjunction, ih, hand, sqlOf]

lemma text_restrict (head f : Fragment) (fs : List Fragment) :
    (head.restrict (f :: fs)).text
      = head.text ++ (" WHERE " ++ Scope.conjunction ((f :: fs).map sqlOf)).toList := by
  have hword : Fragment.whereWord.text = ['W', 'H', 'E', 'R', 'E'] := rfl
  simp [Fragment.restrict, text_conjunction, hword]

namespace Scope

/-- The conditions that bound a scope. -/
def bounds : Scope → List Fragment
  | projects => []
  | notes _ | occurrences _ => [.ofText "project_id = $1" (by decide)]
  | noteOccurrences _ _ =>
    [.ofText "note_project_id = $1" (by decide), .ofText "note_id = $2" (by decide)]

/-- The condition that a page starts behind an id. -/
def behind : Scope → Fragment
  | projects => .ofText "id > $1" (by decide)
  | notes _ | occurrences _ => .ofText "id > $2" (by decide)
  | noteOccurrences _ _ => .ofText "id > $3" (by decide)

def pageHead : Scope → Fragment
  | projects => .ofText "SELECT id, name FROM projects" (by decide)
  | notes _ => .ofText "SELECT id, data::text FROM notes" (by decide)
  | occurrences _ | noteOccurrences _ _ =>
    .ofText "SELECT id, data::text FROM occurrences" (by decide)

def pageTail : Scope → Fragment
  | projects => .ofText "ORDER BY id ASC LIMIT $2" (by decide)
  | notes _ | occurrences _ => .ofText "ORDER BY id ASC LIMIT $3" (by decide)
  | noteOccurrences _ _ => .ofText "ORDER BY id ASC LIMIT $4" (by decide)

def maxHead : Scope → Fragment
  | projects => .ofText "SELECT MAX(id) FROM projects" (by decide)
  | notes _ => .ofText "SELECT MAX(id) FROM notes" (by decide)
  | occurrences _ | noteOccurrences _ _ => .ofText "SELECT MAX(id) FROM occurrences" (by decide)

def page (s : Scope) (filter : Option Fragment) : Fragment :=
  (s.pageHead.restrict (s.bounds ++ s.behind :: filter.toList)).beside s.pageTail

def max (s : Scope) (filter : Option Fragment) : Fragment :=
  s.maxHead.restrict (s.bounds ++ filter.toList)

lemma map_bounds (s : Scope) : s.bounds.map sqlOf = conditions 1 s.keys := by
  cases s <;> rfl

lemma sqlOf_behind (s : Scope) : sqlOf s.behind = comparison "id" ">" (s.keys.length + 1) := by
  cases s <;> simp only [keys, List.length_cons, List.length_nil] <;> rfl

/-- The page statement has the text of its fragment. -/
lemma text_page (s : Scope) (filter : Option Fragment) :
    (s.page filter).text = (s.pageText (filter.map sqlOf)).toList := by
  have hparts : (s.bounds ++ s.behind :: filter.toList).map sqlOf
      = conditions 1 s.keys ++ comparison "id" ">" (s.keys.length + 1)
        :: (filter.map sqlOf).toList := by
    cases filter <;> simp [map_bounds, sqlOf_behind]
  have hhead : s.pageHead.text
      = ("SELECT id, " ++ s.column ++ " FROM " ++ s.table).toList := by
    cases s <;> rfl
  have htail : ' ' :: s.pageTail.text
      = (" ORDER BY id ASC LIMIT $" ++ toString (s.keys.length + 2)).toList := by
    cases s <;> simp only [keys, List.length_cons, List.length_nil] <;> rfl
  have hne : s.bounds ++ s.behind :: filter.toList ≠ [] := by simp
  unfold page pageText
  generalize s.bounds ++ s.behind :: filter.toList = parts at hparts hne
  rcases parts with _ | ⟨f, fs⟩
  · exact absurd rfl hne
  · rw [Fragment.text_beside, text_restrict, hhead, htail, hparts]
    simp only [String.toList_append, List.append_assoc]

lemma text_max (s : Scope) (filter : Option Fragment) :
    (s.max filter).text = (s.maxText (filter.map sqlOf)).toList := by
  have hparts : (s.bounds ++ filter.toList).map sqlOf
      = conditions 1 s.keys ++ (filter.map sqlOf).toList := by
    cases filter <;> simp [map_bounds]
  have hhead : s.maxHead.text = ("SELECT MAX(id) FROM " ++ s.table).toList := by
    cases s <;> rfl
  cases hfs : s.bounds ++ filter.toList with
  | nil => simp [max, maxText, ← hparts, hfs, Fragment.restrict, hhead]
  | cons f fs =>
    rw [max, hfs, text_restrict, hhead, maxText, ← hparts, hfs]
    simp

end Scope

/-! ### What every filter leaves as it is -/

/-- A column is compared to the argument of a number. -/
def comparisonItems (column : String) (op : Char) (number : ℕ) : List Item :=
  [.word column.toList, .mark op, .word ('$' :: Nat.toDigits 10 number)]

/-- The first columns equal the first arguments. -/
def equalities (keys : List (String × String)) : List (List Item) :=
  (keys.zipIdx 1).map fun (key, number) => comparisonItems key.1 '=' number

/-- The kind of an occurrence that is counted. -/
def kindTest : List Item :=
  [.word "data".toList, .mark '-', .mark '>', .mark '>', .literal "kind".toList, .mark '=',
   .literal "VULNERABILITY".toList]

namespace Statement

/-- The columns that bound a statement, and their values. -/
def keys : Statement → List (String × String)
  | page s _ _ _ | maxId s _ => s.keys
  | summary p _ => [("project_id", p)]
  | searchNote p i => [("project_id", p), ("note_id", i)]
  | _ => []

/-- What a statement asks of a row besides its bounds. -/
def tests : Statement → List (List Item)
  | page s _ _ _ => [comparisonItems "id" '>' (s.keys.length + 1)]
  | summary _ _ => [kindTest]
  | _ => []

/-- Conditions that are one group each. -/
def groups (inners : List (List Glyph)) : List (List Item) :=
  inners.map fun inner => [.group '(' inner]

/-- What is read from a statement in which clauses of a filter stand: its conditions are its
bounds, its tests and these clauses, and it asks for its arguments one by one. -/
structure Bounded (st : Statement) (gs : List Glyph) (is : List Item)
    (inners : List (List Glyph)) : Prop where
  glyphs : glyphs? st.sql = some gs
  outline : outline? gs = some is
  closed : Closed gs
  noOr : ∀ i ∈ is, i.isKeyword "OR" = false
  conditions : conditions is = equalities st.keys ++ st.tests ++ groups inners
  placeholders : placeholders gs = List.range' 1 st.arguments.length

variable {st : Statement} {inners : List (List Glyph)}

lemma bounded_of_fragment {f : Fragment} (text : f.text = st.sql.toList)
    (noOr : ∀ i ∈ f.items, i.isKeyword "OR" = false)
    (conditions : Sql.conditions f.items = equalities st.keys ++ st.tests ++ groups inners)
    (numbers : f.numbers = List.range' 1 st.arguments.length) :
    st.Bounded f.glyphs f.items inners where
  glyphs := Fragment.glyphs?_eq text
  outline := f.outline
  closed := f.quiet.closed
  noOr := noOr
  conditions := conditions
  placeholders := f.placed.trans numbers

/-- What is inside of the parentheses of a filter. -/
def inner (filter : Option Fragment) : List (List Glyph) :=
  filter.toList.map fun f => f.glyphs.tail.dropLast

lemma items_filter {filter : Option Fragment} (h : ∀ f ∈ filter, IsClause f) :
    filter.toList.map Fragment.items = groups (inner filter) := by
  cases filter with
  | none => rfl
  | some f =>
    obtain ⟨inside, hitems, hglyphs, -⟩ := h f rfl
    simp [inner, groups, hitems, hglyphs]

lemma numbers_filter {filter : Option Fragment} (h : ∀ f ∈ filter, IsClause f) :
    filter.toList.flatMap Fragment.numbers = [] := by
  cases filter with
  | none => rfl
  | some f =>
    obtain ⟨-, -, -, -, hnumbers⟩ := h f rfl
    simp [hnumbers]

lemma isPlain_parts (s : Scope) {filter : Option Fragment} (h : ∀ f ∈ filter, IsClause f) :
    (∀ g ∈ s.bounds ++ filter.toList, g.IsPlain)
      ∧ ∀ g ∈ s.bounds ++ s.behind :: filter.toList, g.IsPlain := by
  have hbounds : ∀ g ∈ s.bounds, g.IsPlain := by
    cases s <;> simp only [Scope.bounds] <;> decide
  have hbehind : s.behind.IsPlain := by cases s <;> simp only [Scope.behind] <;> decide
  have hfilter : ∀ g ∈ filter.toList, g.IsPlain := fun g hg => (h g (by simpa using hg)).isPlain
  refine ⟨?_, ?_⟩
  · intro g hg
    exact (List.mem_append.mp hg).elim (hbounds g) (hfilter g)
  · intro g hg
    rcases List.mem_append.mp hg with hg | hg
    · exact hbounds g hg
    · rcases List.mem_cons.mp hg with rfl | hg
      · exact hbehind
      · exact hfilter g hg

lemma items_bounds (s : Scope) : s.bounds.map Fragment.items = equalities s.keys := by
  cases s <;> simp only [Scope.bounds, equalities, Scope.keys, List.zipIdx_cons, List.zipIdx_nil,
    List.map_cons, List.map_nil, comparisonItems] <;> rfl

lemma items_behind (s : Scope) :
    s.behind.items = comparisonItems "id" '>' (s.keys.length + 1) := by
  cases s <;> simp only [Scope.behind, Scope.keys, List.length_cons, List.length_nil] <;> rfl

lemma isFrame_pageHead (s : Scope) : s.pageHead.IsFrame := by
  cases s <;> simp only [Scope.pageHead] <;> decide

lemma isFrame_pageTail (s : Scope) : s.pageTail.IsFrame ∧ (clauses s.pageTail.items).1 = [] := by
  cases s <;> simp only [Scope.pageTail] <;> decide

lemma isFrame_maxHead (s : Scope) : s.maxHead.IsFrame := by
  cases s <;> simp only [Scope.maxHead] <;> decide

lemma bounded_page (s : Scope) {filter : Option Fragment} (h : ∀ f ∈ filter, IsClause f)
    (after limit : Int) :
    (page s (filter.map sqlOf) after limit).Bounded (s.page filter).glyphs (s.page filter).items
      (inner filter) := by
  have hplain := (isPlain_parts s h).2
  have htail := isFrame_pageTail s
  refine bounded_of_fragment (s.text_page filter) ?_ ?_ ?_
  · intro i hi
    exact (List.mem_append.mp hi).elim (Fragment.noOr_restrict (isFrame_pageHead s) hplain i)
      (htail.1.2 i)
  · rw [Scope.page, Fragment.items_beside,
      Fragment.conditions_restrict (isFrame_pageHead s) ⟨htail.2, htail.1.1⟩ hplain,
      List.map_append, List.map_cons, items_filter h, items_bounds, items_behind]
    simp [keys, tests]
  · rw [Scope.page, Fragment.numbers_beside, Fragment.numbers_restrict, List.flatMap_append,
      List.flatMap_cons, numbers_filter h]
    cases s <;> rfl

lemma bounded_maxId (s : Scope) {filter : Option Fragment} (h : ∀ f ∈ filter, IsClause f) :
    (maxId s (filter.map sqlOf)).Bounded (s.max filter).glyphs (s.max filter).items
      (inner filter) := by
  have hplain := (isPlain_parts s h).1
  refine bounded_of_fragment (s.text_max filter) ?_ ?_ ?_
  · exact Fragment.noOr_restrict (isFrame_maxHead s) hplain
  · have hc : Sql.conditions ((s.maxHead.restrict (s.bounds ++ filter.toList)).items ++ [])
        = (s.bounds ++ filter.toList).map Fragment.items :=
      Fragment.conditions_restrict (isFrame_maxHead s) (by decide) hplain
    rw [List.append_nil] at hc
    rw [Scope.max, hc, List.map_append, items_filter h, items_bounds]
    simp [keys, tests]
  · rw [Scope.max, Fragment.numbers_restrict, List.flatMap_append, numbers_filter h]
    cases s <;> rfl

/-! ### Other statements -/

def uriColumn : String := "SELECT COALESCE(data->'resource'->>'uri', '') AS resource_uri,"

def severityColumn : String :=
  "COALESCE(data->'vulnerability'->>'severity', 'SEVERITY_UNSPECIFIED') AS severity,"

def fixableColumn : String :=
  "COUNT(*) FILTER (WHERE data->'vulnerability'->'fix_available' = 'true'::jsonb)"

def totalColumn : String := "AS fixable_count, COUNT(*) AS total_count FROM occurrences"

/-- What is counted, and where. -/
def summaryFrom : Fragment :=
  (Fragment.ofText uriColumn (by decide +kernel)).beside
    ((Fragment.ofText severityColumn (by decide +kernel)).beside
      ((Fragment.ofText fixableColumn (by decide +kernel)).beside
        (Fragment.ofText totalColumn (by decide +kernel))))

lemma summaryHead_eq : summaryHead = uriColumn ++ " " ++ severityColumn ++ " " ++ fixableColumn
    ++ " " ++ totalColumn ++ " WHERE " := by decide +kernel

lemma text_summaryFrom :
    summaryFrom.text ++ " WHERE ".toList = summaryHead.toList := by
  rw [summaryHead_eq]
  simp [summaryFrom, Fragment.ofText]

def projectBound : Fragment := .ofText "project_id = $1" (by decide)

def kindBound : Fragment := .ofText "data->>'kind' = 'VULNERABILITY'" (by decide)

def summaryTail : Fragment := .ofText "GROUP BY 1, 2 ORDER BY 1, 2" (by decide)

def summaryFragment (filter : Option Fragment) : Fragment :=
  (summaryFrom.restrict (projectBound :: kindBound :: filter.toList)).beside summaryTail

lemma items_projectBound : projectBound.items = comparisonItems "project_id" '=' 1 := rfl

lemma items_kindBound : kindBound.items = kindTest := rfl

lemma text_summary (filter : Option Fragment) :
    (summaryFragment filter).text = (summaryText (filter.map sqlOf)).toList := by
  have hparts : (projectBound :: kindBound :: filter.toList).map sqlOf
      = summaryConditions ++ (filter.map sqlOf).toList := by
    cases filter <;> rfl
  have htail : ' ' :: summaryTail.text = " GROUP BY 1, 2 ORDER BY 1, 2".toList := rfl
  rw [summaryFragment, Fragment.text_beside, text_restrict, hparts, htail, summaryText]
  simp only [String.toList_append, List.append_assoc, ← text_summaryFrom]

lemma bounded_summary (project : String) {filter : Option Fragment}
    (h : ∀ f ∈ filter, IsClause f) :
    (summary project (filter.map sqlOf)).Bounded (summaryFragment filter).glyphs
      (summaryFragment filter).items (inner filter) := by
  have hframe : summaryFrom.IsFrame ∧ summaryTail.IsFrame ∧ (clauses summaryTail.items).1 = [] := by
    decide +kernel
  have hplain : ∀ g ∈ projectBound :: kindBound :: filter.toList, g.IsPlain := by
    intro g hg
    simp only [List.mem_cons, Option.mem_toList] at hg
    rcases hg with rfl | rfl | hg
    · decide
    · decide
    · exact (h g hg).isPlain
  refine bounded_of_fragment (text_summary filter) ?_ ?_ ?_
  · intro i hi
    exact (List.mem_append.mp hi).elim (Fragment.noOr_restrict hframe.1 hplain i)
      (hframe.2.1.2 i)
  · rw [summaryFragment, Fragment.items_beside,
      Fragment.conditions_restrict hframe.1 ⟨hframe.2.2, hframe.2.1.1⟩ hplain,
      List.map_cons, List.map_cons, items_filter h, items_projectBound, items_kindBound]
    rfl
  · rw [summaryFragment, Fragment.numbers_beside, Fragment.numbers_restrict, List.flatMap_cons,
      List.flatMap_cons, numbers_filter h]
    simp only [arguments, List.length_cons, List.length_nil]
    decide +kernel

def searchFragment : Fragment :=
  .ofText "SELECT data::text FROM notes WHERE project_id = $1 AND note_id = $2" (by decide +kernel)

lemma bounded_searchNote (project id : String) :
    (searchNote project id).Bounded searchFragment.glyphs searchFragment.items [] :=
  bounded_of_fragment rfl (by decide +kernel)
    (by simp only [keys, tests, equalities, List.zipIdx_cons, List.zipIdx_nil, List.map_cons,
      List.map_nil]; decide +kernel)
    (by simp only [arguments, List.length_cons, List.length_nil]; decide +kernel)

/-- What begins, shapes or ends a transaction has no conditions. -/
lemma bounded_transaction {st : Statement} (h : st ∈ [begin, snapshot, commit]) :
    ∃ gs is, st.Bounded gs is [] := by
  simp only [List.mem_cons, List.not_mem_nil, or_false] at h
  rcases h with rfl | rfl | rfl
  · exact ⟨_, _, bounded_of_fragment (f := .ofText "BEGIN" (by decide)) rfl (by decide)
      (by decide) (by decide)⟩
  · exact ⟨_, _, bounded_of_fragment
      (f := .ofText "SET TRANSACTION ISOLATION LEVEL REPEATABLE READ, READ ONLY"
        (by decide +kernel)) rfl (by decide +kernel) (by decide +kernel) (by decide +kernel)⟩
  · exact ⟨_, _, bounded_of_fragment (f := .ofText "COMMIT" (by decide)) rfl (by decide)
      (by decide) (by decide)⟩

end Statement

end Catalog.Store
