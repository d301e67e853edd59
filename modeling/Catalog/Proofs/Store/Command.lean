import Mathlib.Tactic.Common
import Catalog.Proofs.Store.Database
import Catalog.Text.Integer

/-!
What the statements about single rows say: what is put into which columns of which table, and
which rows they are about. A statement is read from its text, and then its arguments are put in
the places of the placeholders. A text of another form is not read at all.
-/

namespace Catalog.Store

open Catalog.Sql

/-- What a statement does, with values of one type in its columns and of another in its conditions.
The rows that it is about have those in certain columns. -/
inductive Command (α β : Type)
  | insert (table : String) (cells : List (String × α))
  | update (table : String) (cells : List (String × α)) (keys : List (String × β))
  | delete (table : String) (keys : List (String × β))
  /-- The texts in a column. -/
  | search (table column : String) (keys : List (String × β))
  | exists (table : String) (keys : List (String × β))
  deriving DecidableEq

/-- The argument of a number, which may be cast to JSON. -/
structure Operand where
  number : ℕ
  isJson : Bool
  deriving DecidableEq

/-! ### Reading -/

/-- The number of the argument that a placeholder stands for. -/
def placeholder? : Item → Option ℕ
  | .word ('$' :: ds) => Text.readDigits? ds
  | _ => none

def name? : List Item → Option String
  | [.word name] => some (String.ofList name)
  | _ => none

def operand? : List Item → Option Operand
  | [i] => (placeholder? i).map (⟨·, false⟩)
  | [i, .mark ':', .mark ':', .word t] =>
    if t = "jsonb".toList then (placeholder? i).map (⟨·, true⟩) else none
  | _ => none

/-- What a column is set to. -/
def change? : List Item → Option (String × Operand)
  | .word name :: .mark '=' :: value => (operand? value).map (String.ofList name, ·)
  | _ => none

/-- What a column is compared with. -/
def key? : List Item → Option (String × ℕ)
  | [.word name, .mark '=', i] => (placeholder? i).map (String.ofList name, ·)
  | _ => none

/-- What commas separate in brackets, each part read by `read`. -/
def bracketed? {α : Type} (read : List Item → Option α) (gs : List Glyph) : Option (List α) := do
  ((← outline? gs).splitOnP (· = .mark ',')).mapM read

/-- The query of a single column as text. -/
def search? (q : Select) : Option (Command Operand ℕ) :=
  match q with
  | ⟨[[.word column, .mark ':', .mark ':', .word t]], table, conditions, none, none⟩ =>
    if t = "text".toList then
      (conditions.mapM key?).map (.search (String.ofList table) (String.ofList column))
    else none
  | _ => none

/-- What an outline says. -/
def command? (is : List Item) : Option (Command Operand ℕ) :=
  match clauses is with
  | ([], [("INSERT", [into, .word table, .group '(' columns]), ("VALUES", [.group '(' values])]) =>
    do
    let names ← bracketed? name? columns
    let operands ← bracketed? operand? values
    if into.isKeyword "INTO" ∧ names.length = operands.length then
      return .insert (String.ofList table) (names.zip operands)
    else none
  | ([], [("UPDATE", [.word table]), ("SET", changes), ("WHERE", _)]) => do
    let operands ← (changes.splitOnP (· = .mark ',')).mapM change?
    let keys ← (conditions is).mapM key?
    return .update (String.ofList table) operands keys
  | ([], [("DELETE", []), ("FROM", [.word table]), ("WHERE", _)]) =>
    ((conditions is).mapM key?).map (.delete (String.ofList table))
  | ([], [("SELECT", [test, .group '(' inner])]) => do
    let q ← select? (← outline? inner)
    let keys ← q.conditions.mapM key?
    if test.isKeyword "EXISTS" ∧ q.order = none ∧ q.limit = none then
      return .exists (String.ofList q.table) keys
    else none
  | _ => (select? is).bind search?

/-! ### Arguments -/

/-- What is put in a column: a text, or the JSON value that a text denotes. -/
inductive Cell
  | text (s : String)
  | json (s : String)
  deriving DecidableEq

/-- The text that an argument is; arguments are counted from one. -/
def textArgument? (args : List Value) (number : ℕ) : Option String :=
  match number with
  | 0 => none
  | k + 1 =>
    match args[k]? with
    | some (.text s) => some s
    | _ => none

def Operand.fill (args : List Value) (o : Operand) : Option Cell :=
  (textArgument? args o.number).map (if o.isJson then .json else .text)

/-- Every second part filled in. -/
def fillAll {α β : Type} (fill : α → Option β) (parts : List (String × α)) :
    Option (List (String × β)) :=
  parts.mapM fun (name, a) => (fill a).map (name, ·)

/-- The command with its arguments in their places. -/
def Command.fill (args : List Value) : Command Operand ℕ → Option (Command Cell String)
  | .insert table operands => (fillAll (·.fill args) operands).map (.insert table)
  | .update table operands keys => do
    return .update table (← fillAll (·.fill args) operands) (← fillAll (textArgument? args) keys)
  | .delete table keys => (fillAll (textArgument? args) keys).map (.delete table)
  | .search table column keys => (fillAll (textArgument? args) keys).map (.search table column)
  | .exists table keys => (fillAll (textArgument? args) keys).map (.exists table)

/-- The outline of a text. -/
def outlineOf? (sql : String) : Option (List Item) := (glyphs? sql).bind outline?

/-- What a statement does, if it is one about single rows. -/
def Statement.command? (st : Statement) : Option (Command Cell String) :=
  ((outlineOf? st.sql).bind Store.command?).bind (·.fill st.arguments)

/-! ### The statements -/

/-- The characters of a text are best given: to find them in the text takes long. -/
lemma outlineOf?_ofList (cs : List Char) :
    outlineOf? (String.ofList cs) = (glyphsFrom none cs).bind outline? := by
  rw [outlineOf?, glyphs?, String.toList_ofList]

lemma append_eq_ofList {s t : String} {cs ds : List Char} (hs : s = String.ofList cs)
    (ht : t = String.ofList ds) : s ++ t = String.ofList (cs ++ ds) := by
  rw [hs, ht, String.ofList_append]

namespace Statement

/-- What a statement about single rows is meant to say. -/
def form? : Statement → Option (Command Operand ℕ)
  | insertProject _ => some (.insert "projects" [("name", ⟨1, false⟩)])
  | projectExists _ => some (.exists "projects" [("name", 1)])
  | deleteProject _ => some (.delete "projects" [("name", 1)])
  | insertNote .. => some (.insert "notes"
      [("project_id", ⟨1, false⟩), ("note_id", ⟨2, false⟩), ("data", ⟨3, true⟩)])
  | searchNote .. => some (.search "notes" "data" [("project_id", 1), ("note_id", 2)])
  | updateNote .. =>
    some (.update "notes" [("data", ⟨3, true⟩)] [("project_id", 1), ("note_id", 2)])
  | deleteNote .. => some (.delete "notes" [("project_id", 1), ("note_id", 2)])
  | insertOccurrence .. => some (.insert "occurrences"
      [("project_id", ⟨1, false⟩), ("occurrence_id", ⟨2, false⟩), ("note_project_id", ⟨3, false⟩),
        ("note_id", ⟨4, false⟩), ("data", ⟨5, true⟩)])
  | searchOccurrence .. =>
    some (.search "occurrences" "data" [("project_id", 1), ("occurrence_id", 2)])
  | updateOccurrence .. => some (.update "occurrences"
      [("note_project_id", ⟨3, false⟩), ("note_id", ⟨4, false⟩), ("data", ⟨5, true⟩)]
      [("project_id", 1), ("occurrence_id", 2)])
  | deleteOccurrence .. => some (.delete "occurrences" [("project_id", 1), ("occurrence_id", 2)])
  | _ => none

lemma command?_of_text {st : Statement} {cs : List Char} (htext : st.sql = String.ofList cs)
    {form : Command Operand ℕ}
    (hform : ((glyphsFrom none cs).bind outline?).bind Store.command? = some form) :
    st.command? = form.fill st.arguments := by
  rw [command?, htext, outlineOf?_ofList, hform, Option.bind_some]

/-- The texts say what they are meant to. -/
theorem command?_eq (st : Statement) {form : Command Operand ℕ} (h : st.form? = some form) :
    st.command? = form.fill st.arguments := by
  cases st with
  | page | maxId | summary | begin | snapshot | commit => cases h
  | insertOccurrence p i q n payload =>
    obtain rfl := Option.some.inj h
    have htext : (insertOccurrence p i q n payload).sql = _ ++ _ := rfl
    exact command?_of_text (htext.trans (append_eq_ofList rfl rfl)) (by decide +kernel)
  | updateOccurrence p i q n payload =>
    obtain rfl := Option.some.inj h
    have htext : (updateOccurrence p i q n payload).sql = _ ++ _ := rfl
    exact command?_of_text (htext.trans (append_eq_ofList rfl rfl)) (by decide +kernel)
  | insertProject | projectExists | deleteProject | insertNote | searchNote | updateNote
  | deleteNote | searchOccurrence | deleteOccurrence =>
    obtain rfl := Option.some.inj h
    exact command?_of_text rfl (by decide +kernel)

lemma command?_insertProject (name : String) :
    (insertProject name).command? = some (.insert "projects" [("name", .text name)]) :=
  command?_eq (insertProject name) rfl

lemma command?_projectExists (name : String) :
    (projectExists name).command? = some (.exists "projects" [("name", name)]) :=
  command?_eq (projectExists name) rfl

lemma command?_deleteProject (name : String) :
    (deleteProject name).command? = some (.delete "projects" [("name", name)]) :=
  command?_eq (deleteProject name) rfl

lemma command?_insertNote (p i payload : String) : (insertNote p i payload).command?
    = some (.insert "notes"
        [("project_id", .text p), ("note_id", .text i), ("data", .json payload)]) :=
  command?_eq (insertNote p i payload) rfl

lemma command?_searchNote (p i : String) : (searchNote p i).command?
    = some (.search "notes" "data" [("project_id", p), ("note_id", i)]) :=
  command?_eq (searchNote p i) rfl

lemma command?_updateNote (p i payload : String) : (updateNote p i payload).command?
    = some (.update "notes" [("data", .json payload)] [("project_id", p), ("note_id", i)]) :=
  command?_eq (updateNote p i payload) rfl

lemma command?_deleteNote (p i : String) : (deleteNote p i).command?
    = some (.delete "notes" [("project_id", p), ("note_id", i)]) :=
  command?_eq (deleteNote p i) rfl

lemma command?_insertOccurrence (p i q n payload : String) :
    (insertOccurrence p i q n payload).command?
      = some (.insert "occurrences" [("project_id", .text p), ("occurrence_id", .text i),
          ("note_project_id", .text q), ("note_id", .text n), ("data", .json payload)]) :=
  command?_eq (insertOccurrence p i q n payload) rfl

lemma command?_searchOccurrence (p i : String) : (searchOccurrence p i).command?
    = some (.search "occurrences" "data" [("project_id", p), ("occurrence_id", i)]) :=
  command?_eq (searchOccurrence p i) rfl

lemma command?_updateOccurrence (p i q n payload : String) :
    (updateOccurrence p i q n payload).command?
      = some (.update "occurrences"
          [("note_project_id", .text q), ("note_id", .text n), ("data", .json payload)]
          [("project_id", p), ("occurrence_id", i)]) :=
  command?_eq (updateOccurrence p i q n payload) rfl

lemma command?_deleteOccurrence (p i : String) : (deleteOccurrence p i).command?
    = some (.delete "occurrences" [("project_id", p), ("occurrence_id", i)]) :=
  command?_eq (deleteOccurrence p i) rfl

end Statement

end Catalog.Store
