import Mathlib.Logic.Function.Basic
import Catalog.Proofs.Json.Denotation
import Catalog.Proofs.Store.Layout

/-!
A database at work on the tables of the schema. It keeps their unique keys, gives every row an id
that no other row of the table ever had, and gives JSON back with the members of objects in an
order of its own.
-/

namespace Catalog.Store

open Catalog.Json

/-- What a database makes of the values that it is given. -/
structure Engine where
  /-- The texts that it takes as arguments. -/
  takes : String → Bool
  /-- What is given back of a text that is stored as JSON, if it is taken for JSON. -/
  jsonb : String → Option String
  /-- The ids that a `BIGSERIAL` column gives out, one after the other, as long as there are any. -/
  serial : ℕ → Option Int
  denotes_jsonb : ∀ {text kept : String} {v : Json},
    jsonb text = some kept → Denotes text v → Denotes kept v
  serial_bounds : ∀ {n : ℕ} {id : Int}, serial n = some id → 0 < id ∧ id < 2 ^ 63
  serial_inj : ∀ {m n : ℕ} {id : Int}, serial m = some id → serial n = some id → m = n

/-- An engine that takes all texts, and gives JSON back in some form. -/
def Engine.keeping (form : String → String)
    (h : ∀ {text v}, Denotes text v → Denotes (form text) v) : Engine where
  takes _ := true
  jsonb text := some (form text)
  serial n := if (n : Int) + 1 < 2 ^ 63 then some (n + 1) else none
  denotes_jsonb hkept hdenotes := Option.some.inj hkept ▸ h hdenotes
  serial_bounds h := by
    split at h
    · obtain rfl := Option.some.inj h
      omega
    · cases h
  serial_inj hm hn := by
    split at hm
    · split at hn
      · have := (Option.some.inj hm).trans (Option.some.inj hn).symm
        omega
      · cases hn
    · cases hm

/-- Arguments that are no texts are always taken. -/
def Engine.takesValue (e : Engine) : Value → Bool
  | .text s => e.takes s
  | _ => true

/-! ### Rows -/

namespace Row

/-- The row has the values in the columns. -/
def has (row : Row) (keys : List (String × String)) : Bool :=
  keys.all fun key => row.column key.1 = key.2

/-- The row with other values in some columns. -/
def set (row : Row) (values : List (String × String)) : Row :=
  ⟨row.id, fun name => (values.lookup name).getD (row.column name)⟩

/-- A row with the values in its columns. -/
def ofValues (id : Int) (values : List (String × String)) : Row :=
  set ⟨id, fun _ => ""⟩ values

/-- The values that a key is made of. -/
def keyed (row : Row) (key : List String) : List Value :=
  key.map fun column => row.value column.toList

@[simp] lemma id_set (row : Row) (values : List (String × String)) :
    (row.set values).id = row.id := rfl

@[simp] lemma id_ofValues (id : Int) (values : List (String × String)) :
    (ofValues id values).id = id := rfl

lemma has_iff {row : Row} {keys : List (String × String)} :
    row.has keys = true ↔ ∀ key ∈ keys, row.column key.1 = key.2 := by
  simp [has]

end Row

/-! ### One table -/

/-- The rows differ from each other in every unique key. -/
def Layout.Permits (l : Layout) (rows : List Row) : Prop :=
  ∀ key ∈ l.keys, (rows.map fun row => row.keyed key).Nodup

instance (l : Layout) (rows : List Row) : Decidable (l.Permits rows) :=
  inferInstanceAs (Decidable (∀ _ ∈ _, _))

/-- The layout of a table. -/
def layoutOf (table : String) : Layout := (layouts.lookup table).getD ⟨[], [["id"]]⟩

/-- A table as an engine holds it. -/
structure Stock (e : Engine) (l : Layout) where
  rows : List Row
  /-- How many ids it has given out. -/
  drawn : ℕ
  permitted : l.Permits rows
  issued : ∀ row ∈ rows, ∃ k < drawn, e.serial k = some row.id

namespace Stock

variable {e : Engine} {l : Layout}

def empty : Stock e l := ⟨[], 0, by simp [Layout.Permits], by simp⟩

/-- The table with one more id given out. -/
def draw (s : Stock e l) : Stock e l where
  rows := s.rows
  drawn := s.drawn + 1
  permitted := s.permitted
  issued row hrow := by
    obtain ⟨k, hk, hid⟩ := s.issued row hrow
    exact ⟨k, Nat.lt_succ_of_lt hk, hid⟩

lemma issued_append (s : Stock e l) {row : Row} (h : e.serial s.drawn = some row.id) :
    ∀ r ∈ s.rows ++ [row], ∃ k < s.drawn + 1, e.serial k = some r.id := by
  intro r hr
  rcases List.mem_append.mp hr with hr | hr
  · exact s.draw.issued r hr
  · exact ⟨s.drawn, Nat.lt_succ_self _, List.mem_singleton.mp hr ▸ h⟩

/-- Puts in a row. Its id is spent even if the row is refused. -/
def insert (s : Stock e l) (values : List (String × String)) : Reply × Stock e l :=
  match hid : e.serial s.drawn with
  | none => (.ofCode none, s)
  | some id =>
    if h : l.Permits (s.rows ++ [.ofValues id values]) then
      (.answered (.affected 1), ⟨_, s.drawn + 1, h, s.issued_append hid⟩)
    else (.ofCode (some uniqueViolation), s.draw)

lemma issued_map (s : Stock e l) {f : Row → Row} (hf : ∀ row, (f row).id = row.id) :
    ∀ r ∈ s.rows.map f, ∃ k < s.drawn, e.serial k = some r.id := by
  intro r hr
  obtain ⟨row, hrow, rfl⟩ := List.mem_map.mp hr
  rw [hf]
  exact s.issued row hrow

/-- The row as an update leaves it. -/
def updated (values keys : List (String × String)) (row : Row) : Row :=
  if row.has keys then row.set values else row

@[simp] lemma id_updated (values keys : List (String × String)) (row : Row) :
    (updated values keys row).id = row.id := by
  unfold updated
  split <;> rfl

/-- Sets columns of the rows that have the keys. -/
def update (s : Stock e l) (values keys : List (String × String)) : Reply × Stock e l :=
  if h : l.Permits (s.rows.map (updated values keys)) then
    (.answered (.affected (s.rows.countP (·.has keys))),
      ⟨_, s.drawn, h, s.issued_map (id_updated values keys)⟩)
  else (.ofCode (some uniqueViolation), s)

/-- Removes the rows that have the keys. -/
def delete (s : Stock e l) (keys : List (String × String)) : Reply × Stock e l :=
  (.answered (.affected (s.rows.countP (·.has keys))),
    { rows := s.rows.filter fun row => !row.has keys
      drawn := s.drawn
      permitted := fun key hkey => (s.permitted key hkey).sublist (List.filter_sublist.map _)
      issued := fun row hrow => s.issued row (List.mem_of_mem_filter hrow) })

end Stock

/-! ### All tables -/

/-- The tables of an engine, by their names. -/
abbrev Tables (e : Engine) : Type := (table : String) → Stock e (layoutOf table)

namespace Tables

variable {e : Engine}

def empty : Tables e := fun _ => .empty

/-- Changes one table. -/
def write (t : Tables e) (table : String)
    (change : Stock e (layoutOf table) → Reply × Stock e (layoutOf table)) : Reply × Tables e :=
  ((change (t table)).1, Function.update t table (change (t table)).2)

end Tables

/-- What is stored of a cell, if it suits its column. -/
def Engine.value? (e : Engine) (l : Layout) (column : String) : Cell → Option String
  | .text s => if l.columns.lookup column = some "TEXT" then some s else none
  | .json s => if l.columns.lookup column = some "JSONB" then e.jsonb s else none

def Engine.values? (e : Engine) (l : Layout) (cells : List (String × Cell)) :
    Option (List (String × String)) :=
  cells.mapM fun (column, c) => (e.value? l column c).map (column, ·)

/-- All columns have values but those that give out ids. -/
def Layout.IsFilled (l : Layout) (columns : List String) : Prop :=
  ∀ column ∈ l.columns, column.2 = "BIGSERIAL" ∨ column.1 ∈ columns

instance (l : Layout) (columns : List String) : Decidable (l.IsFilled columns) :=
  inferInstanceAs (Decidable (∀ _ ∈ _, _))

namespace Tables

variable {e : Engine}

/-- Carries out a command. -/
def carryOut (t : Tables e) : Command Cell String → Reply × Tables e
  | .insert table cells =>
    match e.values? (layoutOf table) cells with
    | some values =>
      if (layoutOf table).IsFilled (cells.map Prod.fst) then t.write table (·.insert values)
      else (.ofCode none, t)
    | none => (.ofCode none, t)
  | .update table cells keys =>
    match e.values? (layoutOf table) cells with
    | some values => t.write table (·.update values keys)
    | none => (.ofCode none, t)
  | .delete table keys => t.write table (·.delete keys)
  | .search table column keys =>
    (.answered (.rows (((t table).rows.filter (·.has keys)).map fun row =>
      [.text (row.column column)])), t)
  | .exists table keys => (.answered (.rows [[.bool ((t table).rows.any (·.has keys))]]), t)

lemma id_mem_keys (table : String) : ["id"] ∈ (layoutOf table).keys := by
  have hall : ∀ l ∈ layouts.map Prod.snd, ["id"] ∈ l.keys := by
    rw [layouts_eq]
    decide
  rw [layoutOf]
  cases h : layouts.lookup table with
  | none => simp
  | some l =>
    obtain ⟨before, rest, hl, -⟩ := List.lookup_eq_some_iff.mp h
    exact hall l (List.mem_map.mpr ⟨(table, l), by simp [hl], rfl⟩)

lemma nodup_ids (t : Tables e) (table : String) : ((t table).rows.map Row.id).Nodup := by
  have h : ((t table).rows.map fun row => [Value.int row.id]).Nodup :=
    (t table).permitted _ (id_mem_keys table)
  exact List.Nodup.of_map (fun id => [Value.int id]) (by rwa [List.map_map])

/-- What listings read of the tables. -/
def database (t : Tables e) : Database := fun table =>
  { rows := (t table).rows
    nodup := t.nodup_ids table
    id_pos := fun row hrow => by
      obtain ⟨k, -, hid⟩ := (t table).issued row hrow
      exact (e.serial_bounds hid).1
    id_lt := fun row hrow => by
      obtain ⟨k, -, hid⟩ := (t table).issued row hrow
      exact (e.serial_bounds hid).2 }

/-- What is said to a statement, and the tables after it. -/
def reply (t : Tables e) (meaning : Meaning) (otherwise : Answer) (st : Statement) :
    Reply × Tables e :=
  if st.arguments.all e.takesValue then
    match st.command? with
    | some c => t.carryOut c
    | none => (.answered (((t.database.answer? meaning st).map .rows).getD otherwise), t)
  else (.ofCode none, t)

end Tables

end Catalog.Store
