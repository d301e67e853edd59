import Catalog.Proofs.Store.Engine

/-!
What commands do to the rows of a table, and to the row that has certain keys.
-/

namespace Catalog.Store

/-! ### Rows and keys -/

namespace Row

variable {row r : Row} {keys : List (String × String)}

lemma keyed_eq (h : "id" ∉ keys.map Prod.fst) (row : Row) :
    row.keyed (keys.map Prod.fst) = keys.map fun key => .text (row.column key.1) := by
  rw [keyed, List.map_map]
  refine List.map_congr_left fun key hkey => ?_
  have hne : key.1.toList ≠ "id".toList := fun heq =>
    h (String.toList_injective heq ▸ List.mem_map_of_mem hkey)
  rw [Function.comp_apply, value, if_neg hne, String.ofList_toList]

/-- Rows agree with one that has the keys if they have them as well. -/
lemma keyed_eq_keyed_iff (h : "id" ∉ keys.map Prod.fst) (hrow : row.has keys) :
    r.keyed (keys.map Prod.fst) = row.keyed (keys.map Prod.fst) ↔ r.has keys := by
  rw [keyed_eq h, keyed_eq h, List.map_inj_left, has_iff]
  refine forall₂_congr fun key hkey => ?_
  rw [Value.text.injEq, has_iff.mp hrow key hkey]

/-- A row has at most one value in each column. -/
lemma has_eq_false {keys' : List (String × String)}
    (hcolumns : keys'.map Prod.fst = keys.map Prod.fst)
    (hne : keys' ≠ keys) (h : row.has keys) : row.has keys' = false := by
  refine Bool.eq_false_iff.mpr fun h' => hne ?_
  rw [has_iff] at h h'
  have hvalues {ks : List (String × String)} (hks : ∀ key ∈ ks, row.column key.1 = key.2) :
      ks = (ks.map Prod.fst).map fun column => (column, row.column column) := by
    rw [List.map_map]
    exact (List.map_id ks).symm.trans
      (List.map_congr_left fun key hkey => Prod.ext rfl (hks key hkey).symm)
  rw [hvalues h, hvalues h', hcolumns]

/-- Columns that are not set keep their values. -/
lemma column_set {values : List (String × String)} {column : String}
    (h : column ∉ values.map Prod.fst) (row : Row) :
    (row.set values).column column = row.column column := by
  have hlookup : values.lookup column = none := by
    rw [List.lookup_eq_none_iff]
    intro value hvalue
    simpa using fun heq : column = value.1 => h (heq ▸ List.mem_map_of_mem hvalue)
  simp only [set, hlookup, Option.getD_none]

end Row

/-! ### One table -/

namespace Stock

variable {e : Engine} {l : Layout} {s : Stock e l} {values keys : List (String × String)} {id : Int}

/-- The row that has the keys. -/
def find? (s : Stock e l) (keys : List (String × String)) : Option Row := s.rows.find? (·.has keys)

lemma has_of_find? {row : Row} (h : s.find? keys = some row) : row.has keys = true :=
  List.find?_some (p := fun r : Row => r.has keys) h

lemma insert_eq_of_permits (hid : e.serial s.drawn = some id)
    (h : l.Permits (s.rows ++ [.ofValues id values])) :
    ∃ s', s.insert values = (.answered (.affected 1), s')
      ∧ s'.rows = s.rows ++ [.ofValues id values] ∧ s'.drawn = s.drawn + 1 := by
  unfold insert
  split
  · rename_i hnone
    rw [hid] at hnone
    cases hnone
  · rename_i id' hid'
    obtain rfl : id = id' := Option.some.inj (hid.symm.trans hid')
    rw [dif_pos h]
    exact ⟨_, rfl, rfl, rfl⟩

lemma insert_eq_of_not_permits (hid : e.serial s.drawn = some id)
    (h : ¬l.Permits (s.rows ++ [.ofValues id values])) :
    s.insert values = (.ofCode (some uniqueViolation), s.draw) := by
  unfold insert
  split
  · rename_i hnone
    rw [hid] at hnone
    cases hnone
  · rename_i id' hid'
    obtain rfl : id = id' := Option.some.inj (hid.symm.trans hid')
    rw [dif_neg h]

/-- An id that is given out was not given out before. -/
lemma id_not_mem (hid : e.serial s.drawn = some id) : ∀ row ∈ s.rows, row.id ≠ id := by
  rintro row hrow rfl
  obtain ⟨k, hk, hk'⟩ := s.issued row hrow
  exact hk.ne (e.serial_inj hk' hid)

/-- In a table with one key besides its ids, there is room for a row unless its key is taken. -/
lemma permits_append_iff (hl : l.keys = [["id"], keys.map Prod.fst])
    (hne : "id" ∉ keys.map Prod.fst) {row : Row} (hid : e.serial s.drawn = some row.id)
    (hrow : row.has keys) : l.Permits (s.rows ++ [row]) ↔ s.find? keys = none := by
  have hold := s.permitted
  simp only [Layout.Permits, hl, List.forall_mem_cons, List.map_append, List.map_cons,
    List.map_nil, List.nodup_append, List.nodup_singleton, List.mem_singleton, List.mem_map,
    forall_eq, forall_exists_index, and_imp, forall_apply_eq_imp_iff₂, true_and] at hold ⊢
  rw [find?, List.find?_eq_none]
  constructor
  · rintro ⟨-, -, hkeys⟩ r hr hhas
    exact hkeys r hr ((Row.keyed_eq_keyed_iff hne hrow).mpr hhas)
  · intro hfree
    refine ⟨⟨hold.1, fun r hr heq => id_not_mem hid r hr ?_⟩, hold.2, fun r hr heq =>
      hfree r hr ((Row.keyed_eq_keyed_iff hne hrow).mp heq)⟩
    exact Value.int.inj (List.head_eq_of_cons_eq heq)

/-- A row that is put in is found, behind those that were there. -/
lemma find?_append {s' : Stock e l} {row : Row} (h : s'.rows = s.rows ++ [row])
    (keys : List (String × String)) :
    s'.find? keys = (s.find? keys).or (if row.has keys then some row else none) := by
  rw [find?, h, List.find?_append, List.find?_singleton, find?]

lemma has_updated {keys' : List (String × String)}
    (h : ∀ column ∈ keys'.map Prod.fst, column ∉ values.map Prod.fst) (row : Row) :
    (updated values keys row).has keys' = row.has keys' := by
  unfold updated
  split
  · rw [Bool.eq_iff_iff, Row.has_iff, Row.has_iff]
    refine forall₂_congr fun key hkey => ?_
    rw [Row.column_set (h _ (List.mem_map_of_mem hkey))]
  · rfl

/-- An update that leaves the keys alone succeeds. -/
lemma update_eq (s : Stock e l) (keys : List (String × String))
    (h : ∀ key ∈ l.keys, ∀ column ∈ key, column ∉ values.map Prod.fst) :
    ∃ s', s.update values keys = (.answered (.affected (s.rows.countP (·.has keys))), s')
      ∧ s'.rows = s.rows.map (updated values keys) ∧ s'.drawn = s.drawn := by
  have hpermits : l.Permits (s.rows.map (updated values keys)) := by
    intro key hkey
    have hkeyed : ∀ row, (updated values keys row).keyed key = row.keyed key := by
      intro row
      refine List.map_congr_left fun column hcolumn => ?_
      unfold updated
      split
      · simp only [Row.value, String.ofList_toList, Row.column_set (h key hkey column hcolumn),
          Row.id_set]
      · rfl
    rw [List.map_map, Function.comp_def]
    simpa only [hkeyed] using s.permitted key hkey
  rw [update, dif_pos hpermits]
  exact ⟨_, rfl, rfl, rfl⟩

lemma find?_update {s' : Stock e l} (h : s'.rows = s.rows.map (updated values keys))
    {keys' : List (String × String)}
    (hcolumns : ∀ column ∈ keys'.map Prod.fst, column ∉ values.map Prod.fst) :
    s'.find? keys' = (s.find? keys').map (updated values keys) := by
  rw [find?, h, List.find?_map, find?]
  simp only [Function.comp_def, has_updated hcolumns]

lemma find?_delete_self : (s.delete keys).2.find? keys = none := by
  rw [find?, List.find?_eq_none]
  intro row hrow
  simpa using (List.mem_filter.mp hrow).2

lemma find?_delete_of_ne {keys' : List (String × String)}
    (hcolumns : keys'.map Prod.fst = keys.map Prod.fst) (hne : keys' ≠ keys) :
    (s.delete keys).2.find? keys' = s.find? keys' := by
  rw [find?, delete, List.find?_filter, find?]
  congr 1
  funext row
  cases hhas : row.has keys with
  | false => simp
  | true => simp [Row.has_eq_false hcolumns hne hhas]

/-- How many rows have the keys says whether there is one. -/
lemma countP_eq_zero (s : Stock e l) (keys : List (String × String)) :
    s.rows.countP (·.has keys) = 0 ↔ s.find? keys = none := by
  rw [List.countP_eq_zero, find?, List.find?_eq_none]

end Stock

/-! ### All tables -/

namespace Tables

variable {e : Engine} {t t' : Tables e} {table : String} {keys values : List (String × String)}

/-- The payload of the row that has the keys. -/
def payload? (t : Tables e) (table : String) (keys : List (String × String)) : Option String :=
  ((t table).find? keys).map (·.column "data")

/-- All keys of the columns but these have the payloads that they had; for these now `found` is the
payload. -/
structure Puts (t : Tables e) (table : String) (keys : List (String × String))
    (found : Option String) (t' : Tables e) : Prop where
  self : t'.payload? table keys = found
  other : ∀ keys', keys'.map Prod.fst = keys.map Prod.fst → keys' ≠ keys →
    t'.payload? table keys' = t.payload? table keys'
  elsewhere : ∀ table' ≠ table, ∀ keys', t'.payload? table' keys' = t.payload? table' keys'
  drawn_le : ∀ table', (t' table').drawn ≤ (t table').drawn + 1

lemma puts_refl (t : Tables e) (table : String) (keys : List (String × String)) :
    t.Puts table keys (t.payload? table keys) t :=
  ⟨rfl, fun _ _ _ => rfl, fun _ _ _ => rfl, fun _ => Nat.le_succ _⟩

/-- It is enough to look at the table that is changed. -/
lemma puts_write (change : Stock e (layoutOf table) → Reply × Stock e (layoutOf table))
    {r : Reply} {s' : Stock e (layoutOf table)} {found : Option String}
    (h : change (t table) = (r, s')) (hself : (s'.find? keys).map (·.column "data") = found)
    (hother : ∀ keys', keys'.map Prod.fst = keys.map Prod.fst → keys' ≠ keys →
      (s'.find? keys').map (·.column "data") = t.payload? table keys')
    (hdrawn : s'.drawn ≤ (t table).drawn + 1) :
    ∃ t', t.write table change = (r, t') ∧ t.Puts table keys found t' := by
  refine ⟨Function.update t table s', by rw [write, h], ?_, ?_, ?_, ?_⟩
  · rwa [payload?, Function.update_self]
  · intro keys' hcolumns hne
    rw [payload?, Function.update_self]
    exact hother keys' hcolumns hne
  · intro table' hne keys'
    rw [payload?, Function.update_of_ne hne, payload?]
  · intro table'
    by_cases heq : table' = table
    · subst heq
      rwa [Function.update_self]
    · rw [Function.update_of_ne heq]
      exact Nat.le_succ _

/-- The columns of the keys make one unique key, and the ids another. -/
structure IsKey (table : String) (keys : List (String × String)) : Prop where
  keys_eq : (layoutOf table).keys = [["id"], keys.map Prod.fst]
  id_not_mem : "id" ∉ keys.map Prod.fst

variable {cells : List (String × Cell)} {id : Int}

/-- A row is put in if its key is free. -/
lemma carryOut_insert_of_free (hkey : IsKey table keys)
    (hvalues : e.values? (layoutOf table) cells = some values)
    (hfilled : (layoutOf table).IsFilled (cells.map Prod.fst))
    (hhas : ∀ id, (Row.ofValues id values).has keys = true)
    (hid : (e.serial (t table).drawn).isSome) (hfree : t.payload? table keys = none) :
    ∃ t', t.carryOut (.insert table cells) = (.answered (.affected 1), t')
      ∧ t.Puts table keys (some ((values.lookup "data").getD "")) t' := by
  obtain ⟨id, hid⟩ := Option.isSome_iff_exists.mp hid
  have hnone : (t table).find? keys = none := Option.map_eq_none_iff.mp hfree
  obtain ⟨s', hinsert, hrows, hdrawn⟩ := Stock.insert_eq_of_permits hid
    ((Stock.permits_append_iff hkey.keys_eq hkey.id_not_mem hid (hhas id)).mpr hnone)
  rw [carryOut, hvalues]
  simp only [if_pos hfilled]
  refine puts_write (·.insert values) hinsert ?_ (fun keys' hcolumns hne => ?_) hdrawn.le
  · rw [Stock.find?_append hrows, hnone, if_pos (hhas id)]
    rfl
  · rw [Stock.find?_append hrows, Row.has_eq_false hcolumns hne (hhas id), if_neg (by simp),
      Option.or_none, payload?]

/-- No row is put in if its key is taken. -/
lemma carryOut_insert_of_taken (hkey : IsKey table keys)
    (hvalues : e.values? (layoutOf table) cells = some values)
    (hfilled : (layoutOf table).IsFilled (cells.map Prod.fst))
    (hhas : ∀ id, (Row.ofValues id values).has keys = true)
    (hid : (e.serial (t table).drawn).isSome) (htaken : t.payload? table keys ≠ none) :
    ∃ t', t.carryOut (.insert table cells) = (.ofCode (some uniqueViolation), t')
      ∧ t.Puts table keys (t.payload? table keys) t' := by
  obtain ⟨id, hid⟩ := Option.isSome_iff_exists.mp hid
  have hinsert : (t table).insert values = (.ofCode (some uniqueViolation), (t table).draw) := by
    refine Stock.insert_eq_of_not_permits hid fun hpermits => htaken ?_
    rw [payload?, (Stock.permits_append_iff hkey.keys_eq hkey.id_not_mem hid (hhas id)).mp hpermits]
    rfl
  rw [carryOut, hvalues]
  simp only [if_pos hfilled]
  exact puts_write (·.insert values) hinsert rfl (fun _ _ _ => rfl) le_rfl

/-- The number of rows that a statement was about: none if the key is free. -/
lemma carryOut_update (hvalues : e.values? (layoutOf table) cells = some values)
    (hkeep : ∀ key ∈ (layoutOf table).keys, ∀ column ∈ key, column ∉ values.map Prod.fst)
    (hcolumns : ∀ column ∈ keys.map Prod.fst, column ∉ values.map Prod.fst)
    {payload : String} (hpayload : values.lookup "data" = some payload) :
    ∃ count t', t.carryOut (.update table cells keys) = (.answered (.affected count), t')
      ∧ (count = 0 ↔ t.payload? table keys = none)
      ∧ t.Puts table keys ((t.payload? table keys).map fun _ => payload) t' := by
  obtain ⟨s', hupdate, hrows, hdrawn⟩ :=
    Stock.update_eq (t table) keys hkeep
  have hcount := (t table).countP_eq_zero keys
  obtain ⟨t', hwrite, hputs⟩ : ∃ t', t.write table (·.update values keys) = (.answered _, t')
      ∧ t.Puts table keys ((t.payload? table keys).map fun _ => payload) t' := by
    refine puts_write _ hupdate ?_ (fun keys' hcolumns' hne => ?_)
      (hdrawn.trans_le (Nat.le_succ _))
    · rw [Stock.find?_update hrows hcolumns, payload?, Option.map_map, Option.map_map]
      refine Option.map_congr fun row hrow => ?_
      have hhas : row.has keys = true := Stock.has_of_find? hrow
      simp [Stock.updated, hhas, Row.set, hpayload]
    · rw [Stock.find?_update hrows (hcolumns' ▸ hcolumns), payload?, Option.map_map]
      refine Option.map_congr fun row hrow => ?_
      have hhas : row.has keys = false :=
        Row.has_eq_false hcolumns'.symm hne.symm (Stock.has_of_find? hrow)
      simp [Stock.updated, hhas]
  refine ⟨_, t', ?_, hcount.trans Option.map_eq_none_iff.symm, hputs⟩
  rw [carryOut, hvalues]
  exact hwrite

lemma carryOut_delete (t : Tables e) (table : String) (keys : List (String × String)) :
    ∃ count t', t.carryOut (.delete table keys) = (.answered (.affected count), t')
      ∧ (count = 0 ↔ t.payload? table keys = none) ∧ t.Puts table keys none t' := by
  have hcount := (t table).countP_eq_zero keys
  have hdelete : (t table).delete keys
    = (.answered (.affected ((t table).rows.countP (·.has keys))), ((t table).delete keys).2) := rfl
  obtain ⟨t', hwrite, hputs⟩ : ∃ t', t.write table (·.delete keys) = (.answered _, t')
      ∧ t.Puts table keys none t' := by
    refine puts_write _ hdelete ?_ (fun keys' hcolumns hne => ?_) (Nat.le_succ _)
    · rw [Stock.find?_delete_self]
      rfl
    · rw [Stock.find?_delete_of_ne hcolumns hne, payload?]
  exact ⟨_, t', hwrite, hcount.trans Option.map_eq_none_iff.symm, hputs⟩

end Tables

end Catalog.Store
