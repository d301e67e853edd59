import Catalog.Proofs.Store.Command

/-!
The tables as they are declared: the types of their columns, and their unique keys. Both are read
from the texts that make the tables.
-/

namespace Catalog.Store

open Catalog.Sql

/-- The columns of a table with their types, and the columns of each of its unique keys. -/
structure Layout where
  columns : List (String × String)
  keys : List (List String)
  deriving DecidableEq

namespace Layout

/-- The layout with what one part of a declaration adds: a key, or a column, which may be a key by
itself. -/
def declare (l : Layout) : List Item → Option Layout
  | [unique, .group '(' columns] =>
    if unique.isKeyword "UNIQUE" then
      (bracketed? name? columns).map fun key => { l with keys := l.keys ++ [key] }
    else none
  | .word name :: .word type :: constraints =>
    let name := String.ofList name
    let isKey := constraints.any fun i => i.isKeyword "UNIQUE" || i.isKeyword "PRIMARY"
    some ⟨l.columns ++ [(name, String.ofList type)], if isKey then l.keys ++ [[name]] else l.keys⟩
  | _ => none

/-- The name of a table and its layout. -/
def read? : List Item → Option (String × Layout)
  | [create, table, i, n, e, .word name, .group '(' parts] =>
    if create.isKeyword "CREATE" ∧ table.isKeyword "TABLE" ∧ i.isKeyword "IF" ∧ n.isKeyword "NOT"
        ∧ e.isKeyword "EXISTS" then do
      let parts := (← outline? parts).splitOnP (· = .mark ',')
      return (String.ofList name, ← parts.foldlM declare ⟨[], []⟩)
    else none
  | _ => none

/-- What a statement declares, if it makes a table. -/
def ofText? (sql : String) : Option (String × Layout) := (outlineOf? sql).bind read?

end Layout

/-- The tables that the schema declares. -/
def layouts : List (String × Layout) := schema.filterMap Layout.ofText?

/-! ### What the schema says -/

/-- The statement that makes a table has the characters of its parts. -/
lemma ofText?_createTable (table : List Char) (parts : List (List Char)) :
    Layout.ofText? (createTable (String.ofList table) (parts.map String.ofList))
      = ((glyphsFrom none ("CREATE TABLE IF NOT EXISTS ".toList ++ table ++ " (\n        ".toList
        ++ ",\n        ".toList.intercalate parts ++ "\n    )".toList)).bind outline?).bind
          Layout.read? := by
  have hlist : ∀ a b c separator : String, (a ++ String.ofList table ++ b
      ++ separator.intercalate (parts.map String.ofList) ++ c).toList
        = a.toList ++ table ++ b.toList ++ separator.toList.intercalate parts ++ c.toList := by
    intro a b c separator
    simp [String.toList_intercalate, Function.comp_def]
  exact congrArg (fun cs => ((glyphsFrom none cs).bind outline?).bind Layout.read?)
    (hlist _ _ _ _)

lemma ofText?_projects : Layout.ofText? (createTable "projects"
      ["id BIGSERIAL PRIMARY KEY", "name TEXT NOT NULL UNIQUE"])
    = some ("projects", ⟨[("id", "BIGSERIAL"), ("name", "TEXT")], [["id"], ["name"]]⟩) :=
  (ofText?_createTable _ [_, _]).trans (by decide +kernel)

lemma ofText?_notes : Layout.ofText? (createTable "notes" ["id BIGSERIAL PRIMARY KEY",
      "project_id TEXT NOT NULL", "note_id TEXT NOT NULL", "data JSONB NOT NULL",
      "UNIQUE (project_id, note_id)"])
    = some ("notes", ⟨[("id", "BIGSERIAL"), ("project_id", "TEXT"), ("note_id", "TEXT"),
      ("data", "JSONB")], [["id"], ["project_id", "note_id"]]⟩) :=
  (ofText?_createTable _ [_, _, _, _, _]).trans (by decide +kernel)

lemma ofText?_occurrences : Layout.ofText? (createTable "occurrences" ["id BIGSERIAL PRIMARY KEY",
      "project_id TEXT NOT NULL", "occurrence_id TEXT NOT NULL", "note_project_id TEXT NOT NULL",
      "note_id TEXT NOT NULL", "data JSONB NOT NULL",
      "UNIQUE (project_id, occurrence_id)"])
    = some ("occurrences", ⟨[("id", "BIGSERIAL"), ("project_id", "TEXT"), ("occurrence_id", "TEXT"),
      ("note_project_id", "TEXT"), ("note_id", "TEXT"), ("data", "JSONB")],
      [["id"], ["project_id", "occurrence_id"]]⟩) :=
  (ofText?_createTable _ [_, _, _, _, _, _, _]).trans (by decide +kernel)

lemma ofText?_index : Layout.ofText?
    ("CREATE INDEX IF NOT EXISTS occurrences_note_idx ON occurrences "
      ++ "(note_project_id, note_id)") = none := by
  rw [Layout.ofText?, append_eq_ofList rfl rfl, outlineOf?_ofList]
  decide +kernel

lemma layouts_eq : layouts
    = [("projects", ⟨[("id", "BIGSERIAL"), ("name", "TEXT")], [["id"], ["name"]]⟩),
       ("notes", ⟨[("id", "BIGSERIAL"), ("project_id", "TEXT"), ("note_id", "TEXT"),
          ("data", "JSONB")], [["id"], ["project_id", "note_id"]]⟩),
       ("occurrences", ⟨[("id", "BIGSERIAL"), ("project_id", "TEXT"), ("occurrence_id", "TEXT"),
          ("note_project_id", "TEXT"), ("note_id", "TEXT"), ("data", "JSONB")],
          [["id"], ["project_id", "occurrence_id"]]⟩)] := by
  rw [layouts, schema, List.filterMap_cons_some ofText?_projects,
    List.filterMap_cons_some ofText?_notes, List.filterMap_cons_some ofText?_occurrences,
    List.filterMap_cons_none ofText?_index, List.filterMap_nil]

end Catalog.Store
