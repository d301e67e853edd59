import Catalog.Proofs.Store.Turn

/-!
No filter widens what a call sees. Whatever a filter says, and whatever the world answers, every
statement of a call keeps its own conditions and adds at most one group to them; so the rows of a
listing are rows of its scope.
-/

namespace Catalog.Store

open Catalog.Sql

/-! ### Filters of a store -/

lemma Scope.isAnchor (s : Scope) : Filter.IsAnchor s.anchor := by
  cases s
  · exact .inr rfl
  · exact .inl rfl
  · exact .inl rfl
  · exact .inl rfl

lemma Call.isAnchor (call : Call) : Filter.IsAnchor call.anchor := by
  cases call
  · exact .inr rfl
  · exact .inl rfl
  · exact .inl rfl
  · exact .inl rfl
  · exact .inl rfl

/-- A filter text that compiles denotes an expression that does. -/
lemma compile_text {anchor text sql : String} (h : Filter.compile anchor text = .ok sql) :
    ∃ e : Filter.Expr, e.compile anchor = .ok sql := by
  rw [Filter.compile, map_eq_ok] at h
  obtain ⟨t, ht, rfl⟩ := h
  obtain ⟨e, -, ht⟩ := bind_eq_ok.mp ht
  exact ⟨e, by rw [Filter.Expr.compile, ht]; rfl⟩

/-- The predicate of a store is none, or the clause of its filter. -/
lemma exists_filter {store : Store} {anchor text : String} {predicate : Option String}
    (ha : Filter.IsAnchor anchor) (h : store.predicate? anchor text = .ok predicate) :
    ∃ filter : Option Fragment, predicate = filter.map sqlOf ∧ (∀ f ∈ filter, IsClause f)
      ∧ ∀ f ∈ filter, Filter.compile anchor text = .ok (sqlOf f) := by
  unfold predicate? at h
  split at h
  · obtain rfl := Except.ok.inj h
    exact ⟨none, rfl, by simp, by simp⟩
  · split at h
    · rename_i sql hsql
      obtain rfl := Except.ok.inj h
      obtain ⟨e, he⟩ := compile_text hsql
      obtain ⟨f, hf, hclause⟩ := exists_clause ha he
      have hsqlOf : sqlOf f = sql := by rw [sqlOf, hf, String.ofList_toList]
      exact ⟨some f, by simp [hsqlOf], by simpa using hclause, by simpa [hsqlOf] using hsql⟩
    · split at h
      · simp at h
      · obtain rfl := Except.ok.inj h
        exact ⟨none, rfl, by simp, by simp⟩

/-! ### Statements of a call -/

/-- What a call may ask the database for: its own scope, with the values of the scope in order and,
for a page, the id it starts behind and its size. -/
def Call.Asks (store : Store) (token : String) (size : Int) (call : Call) : Statement → Prop
  | .page s predicate after limit => call.scope? = some s
    ∧ (∃ now : Time, after = store.cursor.decode now.unixSeconds 0 token)
    ∧ limit = store.options.pageSize size
    ∧ (Statement.page s predicate after limit).arguments
      = call.values.map .text ++ [.int after, .int limit]
  | .maxId s predicate => call.scope? = some s
    ∧ (Statement.maxId s predicate).arguments = call.values.map .text
  | .summary p predicate => call = .summary p
    ∧ (Statement.summary p predicate).arguments = call.values.map .text
  | .searchNote p i => call = .noteOccurrences p i
    ∧ (Statement.searchNote p i).arguments = call.values.map .text
  | .begin | .snapshot | .commit => True
  | _ => False

/-- The clauses that stand in a statement are none, or the compiled filter. -/
def IsFiltered (anchor text : String) (inners : List (List Glyph)) : Prop :=
  inners = [] ∨ ∃ inner sql, inners = [inner] ∧ Filter.compile anchor text = .ok sql
    ∧ glyphs? sql = some (.char '(' :: (inner ++ [.char ')'])) ∧ Balanced inner

lemma isFiltered_inner {anchor text : String} {filter : Option Fragment}
    (h : ∀ f ∈ filter, IsClause f)
    (hsql : ∀ f ∈ filter, Filter.compile anchor text = .ok (sqlOf f)) :
    IsFiltered anchor text (Statement.inner filter) := by
  cases filter with
  | none => exact .inl rfl
  | some f =>
    obtain ⟨inner, -, hglyphs, hb, -⟩ := h f rfl
    refine .inr ⟨inner, sqlOf f, by simp [Statement.inner, hglyphs], hsql f rfl, ?_, hb⟩
    rw [← hglyphs]
    exact Fragment.glyphs?_eq (by simp [sqlOf])

/-- Rows that meet the conditions of a statement meet its bounds. -/
lemma Statement.Bounded.keys_eq {st : Statement} {gs : List Glyph} {is : List Item}
    {inners : List (List Glyph)} (h : st.Bounded gs is inners)
    (hkeys : ∀ key ∈ st.keys, key.1 ≠ "id")
    (hargs : ∃ rest, st.arguments = st.keys.map (.text ·.2) ++ rest) {meaning : Meaning} {row : Row}
    (hrow : (Sql.conditions is).all (row.meets meaning st.arguments)) :
    ∀ key ∈ st.keys, row.column key.1 = key.2 := by
  obtain ⟨rest, hargs⟩ := hargs
  rw [h.conditions, hargs, List.all_append, List.all_append] at hrow
  simp only [Bool.and_eq_true] at hrow
  have hall : st.keys.all (fun key => row.column key.1 = key.2) = true :=
    (meets_equalities hkeys row meaning [] rest).symm.trans hrow.1.1
  intro key hkey
  simpa using List.all_eq_true.mp hall key hkey

lemma Call.asks_keys {store : Store} {token : String} {size : Int} {call : Call} {st : Statement}
    (h : call.Asks store token size st) :
    (∀ key ∈ st.keys, key.1 ≠ "id")
      ∧ ∃ rest, st.arguments = st.keys.map (.text ·.2) ++ rest := by
  cases st with
  | page s predicate after limit => exact ⟨column_ne_id s, _, rfl⟩
  | maxId s predicate => exact ⟨column_ne_id s, [], by simp [Statement.arguments, Statement.keys]⟩
  | summary p predicate => exact ⟨by simp [Statement.keys], [], rfl⟩
  | searchNote p i => exact ⟨by simp [Statement.keys], [], rfl⟩
  | begin | snapshot | commit => exact ⟨by simp [Statement.keys], [], rfl⟩
  | _ => exact h.elim

/-- What a call sends is bounded, with its filter and nothing else in it. -/
lemma Call.bounded_of_sends {store : Store} {text token : String} {size : Int} {call : Call}
    {st : Statement} (h : call.Sends store text token size st) :
    call.Asks store token size st
      ∧ ∃ gs is inners, st.Bounded gs is inners ∧ IsFiltered call.anchor text inners := by
  rcases Call.sends_cases h with ⟨s, hs, hsends⟩ | ⟨p, i, rfl, rfl⟩ | ⟨p, predicate, rfl, hp, rfl⟩
  · obtain ⟨hanchor, hvalues⟩ := Call.anchor_of_scope? hs
    obtain ⟨predicate, hp, hcases⟩ := sends_list hsends
    rw [hanchor] at hp
    obtain ⟨filter, rfl, hclause, hsql⟩ := exists_filter call.isAnchor hp
    have hargs : s.keys.map (fun key => Value.text key.2) = call.values.map .text := by
      rw [← hvalues, List.map_map]
      rfl
    rcases hcases with ⟨now, rfl⟩ | rfl | htransaction
    · exact ⟨⟨hs, ⟨now, rfl⟩, rfl, by rw [← hargs]; rfl⟩, _, _, _,
        Statement.bounded_page s hclause _ _, isFiltered_inner hclause hsql⟩
    · exact ⟨⟨hs, by rw [← hargs]; rfl⟩, _, _, _, Statement.bounded_maxId s hclause,
        isFiltered_inner hclause hsql⟩
    · obtain ⟨gs, is, hb⟩ := Statement.bounded_transaction htransaction
      refine ⟨?_, gs, is, [], hb, .inl rfl⟩
      simp only [List.mem_cons, List.not_mem_nil, or_false] at htransaction
      rcases htransaction with rfl | rfl | rfl <;> trivial
  · exact ⟨⟨rfl, rfl⟩, _, _, [], Statement.bounded_searchNote p i, .inl rfl⟩
  · obtain ⟨filter, rfl, hclause, hsql⟩ := exists_filter (Call.isAnchor _) hp
    exact ⟨⟨rfl, rfl⟩, _, _, _, Statement.bounded_summary p hclause,
      isFiltered_inner hclause hsql⟩

/-- The rows of a listing are rows of its scope, as its table held them at one moment. -/
lemma list_rows {w : World} {c c' : Session} {store : Store} {s : Scope} {text token : String}
    {size : Int} {page : Page} (hview : c.view = .current)
    (h : w.run (store.list s text token size) c = (.ok page, c')) :
    ∃ (rows : List Row) (p : ℕ), page.rows = rows.map s.shown
      ∧ ∀ row ∈ rows, row ∈ ((w.moments p).database s.table).rows ∧ s.contains row := by
  cases hp : store.predicate? s.anchor text with
  | error e =>
    rw [list, hp, Operation.fromExcept_error_bind, World.run_throw] at h
    simp at h
  | ok predicate =>
    obtain ⟨filter, rfl, hclause, -⟩ := exists_filter s.isAnchor hp
    obtain ⟨rows, p, m, -, hturn⟩ := World.list_eq_ok hview hclause hp h
    refine ⟨rows, p, hturn.shown, fun row hrow => ?_⟩
    have hmem := hturn.rows_eq ▸ hrow
    have hmatch := List.mem_filter.mp (Scope.mem_pageRows hmem).1
    simp only [Scope.matches, Bool.and_eq_true] at hmatch
    exact ⟨hmatch.1, hmatch.2.1⟩

/-- **Isolation**: in every statement of a call, outside of literals and brackets, the conditions
are its own ones and at most one group that is the filter; no OR, semicolon or comment stands
there, and the placeholders are the arguments, bound as the call asks. Rows that meet the
conditions are in the scope, and so are the rows of every listing. -/
theorem call_stays_in_scope (store : Store) (call : Call) (text token : String) (size : Int) :
    (∀ st, call.Sends store text token size st →
      call.Asks store token size st
        ∧ ∃ gs is inners, st.Bounded gs is inners ∧ IsFiltered call.anchor text inners
          ∧ ∀ (meaning : Meaning) (row : Row),
            (conditions is).all (row.meets meaning st.arguments) →
              ∀ key ∈ st.keys, row.column key.1 = key.2)
      ∧ ∀ s, call.scope? = some s → ∀ (w : World) (c c' : Session) (page : Page),
        c.view = .current → w.run (store.list s text token size) c = (.ok page, c') →
          ∃ (rows : List Row) (p : ℕ), page.rows = rows.map s.shown
            ∧ ∀ row ∈ rows, row ∈ ((w.moments p).database s.table).rows ∧ s.contains row := by
  refine ⟨fun st hst => ?_, fun s _ w c c' page hview hrun => list_rows hview hrun⟩
  obtain ⟨hasks, gs, is, inners, hb, hfiltered⟩ := Call.bounded_of_sends hst
  obtain ⟨hkeys, hargs⟩ := Call.asks_keys hasks
  exact ⟨hasks, gs, is, inners, hb, hfiltered, fun _ _ hrow => hb.keys_eq hkeys hargs hrow⟩

/-- A store that refuses filters it cannot compile. -/
def strictStore : Store where
  cursor := ⟨⟨.replicate 16 1, .replicate 16 2⟩, []⟩
  options := ⟨true, false, 20, 1000, false⟩

/-- A filter whose text tries to close its literal. -/
def forgedFilter : String := "kind = \"x') OR ('1'='1\""

lemma predicate?_forgedFilter : strictStore.predicate? Filter.payloadAnchor forgedFilter
    = .ok (some "(data->>'kind' = 'x'') OR (''1''=''1')") := by
  have hblank : Text.isBlankText forgedFilter = false := by decide +kernel
  have hsql : (Filter.compile Filter.payloadAnchor forgedFilter).toOption
      = some "(data->>'kind' = 'x'') OR (''1''=''1')" := by decide +kernel
  rw [predicate?, hblank]
  cases hc : Filter.compile Filter.payloadAnchor forgedFilter with
  | error e => simp [hc, Except.toOption] at hsql
  | ok sql =>
    obtain rfl : sql = _ := by simpa [hc, Except.toOption] using hsql
    rfl

/-- The forged filter stays one group beside the bounds of its page. -/
theorem call_stays_in_scope_forged :
    ∃ after gs is inners,
      (Statement.page (.notes "a") (some "(data->>'kind' = 'x'') OR (''1''=''1')") after 5).Bounded
        gs is inners ∧ IsFiltered Filter.payloadAnchor forgedFilter inners := by
  have hsends : (Call.notes "a").Sends strictStore forgedFilter "" 5
      (.page (.notes "a") (some "(data->>'kind' = 'x'') OR (''1''=''1')")
        (strictStore.cursor.decode 0 0 "") 5) := by
    show (strictStore.listNotes "a" forgedFilter "" 5).Sends _
    rw [listNotes, list, show Scope.anchor (.notes "a") = Filter.payloadAnchor from rfl,
      predicate?_forgedFilter, Operation.fromExcept_ok_bind]
    exact .later (⟨0, 0⟩ : Time) (.later none (.here _))
  obtain ⟨-, gs, is, inners, hb, hfiltered, -⟩ :=
    (call_stays_in_scope strictStore (.notes "a") forgedFilter "" 5).1 _ hsends
  exact ⟨_, gs, is, inners, hb, hfiltered⟩

end Catalog.Store
