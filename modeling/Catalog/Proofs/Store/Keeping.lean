import Catalog.Proofs.Store.Effect
import Catalog.Proofs.Store.Requests
import Catalog.Proofs.Store.Service

/-!
What operations keep of the tables, whatever they meet and however they end. An operation keeps
what all of its statements keep.
-/

namespace Catalog.Store

open Operation

/-! ### Rows -/

namespace Stock

variable {e : Engine} {l : Layout} {s : Stock e l} {values keys : List (String × String)}
  {P : Row → Prop}

lemma forall_insert (h : ∀ row ∈ s.rows, P row) (hnew : ∀ id, P (.ofValues id values)) :
    ∀ row ∈ (s.insert values).2.rows, P row := by
  unfold insert
  split
  · exact h
  · split
    · intro row hrow
      rcases List.mem_append.mp hrow with hrow | hrow
      · exact h row hrow
      · rw [List.mem_singleton.mp hrow]
        exact hnew _
    · exact h

lemma forall_update (h : ∀ row ∈ s.rows, P row)
    (hset : ∀ row, P row → row.has keys → P (row.set values)) :
    ∀ row ∈ (s.update values keys).2.rows, P row := by
  unfold update
  split
  · refine List.forall_mem_map.mpr fun row hrow => ?_
    unfold updated
    split
    · rename_i hhas
      exact hset row (h row hrow) hhas
    · exact h row hrow
  · exact h

lemma forall_delete (h : ∀ row ∈ s.rows, P row) : ∀ row ∈ (s.delete keys).2.rows, P row :=
  fun row hrow => h row (List.mem_of_mem_filter hrow)

end Stock

/-! ### Commands -/

namespace Tables

variable {e : Engine} {t : Tables e} {P : String → Row → Prop} {table : String}
  {cells : List (String × Cell)} {keys : List (String × String)}

/-- Every row of every table is such. -/
def All (P : String → Row → Prop) (t : Tables e) : Prop :=
  ∀ table, ∀ row ∈ (t table).rows, P table row

lemma All.write (h : t.All P)
    {change : Stock e (layoutOf table) → Reply × Stock e (layoutOf table)}
    (hchange : ∀ row ∈ (change (t table)).2.rows, P table row) :
    (t.write table change).2.All P := by
  intro table'
  by_cases heq : table' = table
  · subst heq
    simpa only [Tables.write, Function.update_self] using hchange
  · simpa only [Tables.write, Function.update_of_ne heq] using h table'

lemma All.insert (h : t.All P) (hnew : ∀ values id,
      e.values? (layoutOf table) cells = some values → P table (.ofValues id values)) :
    (t.carryOut (.insert table cells)).2.All P := by
  rw [carryOut]
  split
  · rename_i values hvalues
    split
    · exact h.write (Stock.forall_insert (h table) fun id => hnew values id hvalues)
    · exact h
  · exact h

lemma All.update (h : t.All P) (hset : ∀ values row,
      e.values? (layoutOf table) cells = some values → P table row → row.has keys →
        P table (row.set values)) :
    (t.carryOut (.update table cells keys)).2.All P := by
  rw [carryOut]
  split
  · rename_i values hvalues
    exact h.write (Stock.forall_update (h table) fun row => hset values row hvalues)
  · exact h

lemma All.delete (h : t.All P) : (t.carryOut (.delete table keys)).2.All P :=
  h.write (Stock.forall_delete (h table))

end Tables

/-! ### Statements and operations -/

namespace Service

variable {v : Service} {I : Tables v.engine → Prop} {α β : Type} {st : Statement}

/-- Where the tables are such, they are such after the statement. -/
def Respects (v : Service) (I : Tables v.engine → Prop) (st : Statement) : Prop :=
  ∀ t otherwise, I t → I (t.reply v.meaning otherwise st).2

/-- Where the tables are such, they are such after the operation. -/
def Keeps (v : Service) (I : Tables v.engine → Prop) (op : Operation α) : Prop :=
  ∀ c, I c.tables → I (v.run op c).2.tables

/-- Only what a statement does if it is carried out matters. -/
lemma respects_of_command (h : ∀ t, I t → st.arguments.all v.engine.takesValue → ∀ command,
    st.command? = some command → I (t.carryOut command).2) : v.Respects I st := by
  intro t otherwise ht
  unfold Tables.reply
  split
  · rename_i htakes
    split
    · rename_i command hcommand
      exact h t ht htakes command hcommand
    · exact ht
  · exact ht

/-! #### What a statement says -/

section

variable {P : String → Row → Prop} {table column : String} {cells : List (String × Cell)}
  {keys : List (String × String)}

lemma respects_insert (h : st.command? = some (.insert table cells))
    (hnew : st.arguments.all v.engine.takesValue → ∀ values id,
      v.engine.values? (layoutOf table) cells = some values → P table (.ofValues id values)) :
    v.Respects (Tables.All P) st :=
  respects_of_command fun _ ht htakes command hcommand => by
    obtain rfl := Option.some.inj (h.symm.trans hcommand)
    exact ht.insert (hnew htakes)

lemma respects_update (h : st.command? = some (.update table cells keys))
    (hset : ∀ values row, v.engine.values? (layoutOf table) cells = some values → P table row →
      row.has keys → P table (row.set values)) : v.Respects (Tables.All P) st :=
  respects_of_command fun _ ht _ command hcommand => by
    obtain rfl := Option.some.inj (h.symm.trans hcommand)
    exact ht.update hset

lemma respects_delete (h : st.command? = some (.delete table keys)) :
    v.Respects (Tables.All P) st :=
  respects_of_command fun _ ht _ command hcommand => by
    obtain rfl := Option.some.inj (h.symm.trans hcommand)
    exact ht.delete

lemma respects_search (h : st.command? = some (.search table column keys)) : v.Respects I st :=
  respects_of_command fun _ ht _ command hcommand => by
    obtain rfl := Option.some.inj (h.symm.trans hcommand)
    exact ht

lemma respects_exists (h : st.command? = some (.exists table keys)) : v.Respects I st :=
  respects_of_command fun _ ht _ command hcommand => by
    obtain rfl := Option.some.inj (h.symm.trans hcommand)
    exact ht

/-- Statements of listings write nothing. -/
lemma respects_of_command_eq_none (h : st.command? = none) : v.Respects I st :=
  respects_of_command fun _ _ _ command hcommand => by
    rw [h] at hcommand
    cases hcommand

end

/-! #### Operations -/

lemma respects_respond (r : Request) (h : ∀ st, r = .send st → v.Respects I st)
    (c : Situation v.engine) (hc : I c.tables) : I (v.respond r c).2.tables := by
  cases r with
  | send st =>
    change I (v.reply st c).2.tables
    have hreply := h st rfl c.tables (v.occasions c.moment).otherwise hc
    unfold reply
    dsimp only
    rcases (v.occasions c.moment).mishap with _ | ⟨f, _ | _⟩
    · exact hreply
    · exact hc
    · exact hreply
  | status | clock | randomBlock | freshId => exact hc

/-- An operation keeps what its statements respect. -/
lemma keeps_of_sends {op : Operation α} (h : ∀ st, op.Sends st → v.Respects I st) :
    v.Keeps I op := by
  have hprogram : ∀ p : Program (Except Error α), (∀ st, p.Sends st → v.Respects I st) →
      ∀ c, I c.tables → I ((p.run v.respond).run c).2.tables := by
    intro p
    induction p with
    | done a => exact fun _ c hc => hc
    | ask r next ih =>
      intro hsends c hc
      refine ih (v.respond r c).1 (fun st hst => hsends st (.later _ hst)) (v.respond r c).2 ?_
      refine respects_respond r (fun st hr => ?_) c hc
      subst hr
      exact hsends st (.here next)
  exact hprogram op.run h

lemma Keeps.bind {op : Operation α} {f : α → Operation β} (h : v.Keeps I op)
    (hf : ∀ a, v.Keeps I (f a)) : v.Keeps I (op >>= f) := by
  intro c hc
  have hop := h c hc
  rw [run_bind]
  rcases hrun : v.run op c with ⟨_ | a, c'⟩
  · rwa [hrun] at hop
  · rw [hrun] at hop
    exact hf a c' hop

lemma keeps_pure (a : α) : v.Keeps I (pure a : Operation α) := fun _ hc => hc

lemma keeps_throw (e : Error) : v.Keeps I (throw e : Operation α) := fun _ hc => hc

lemma keeps_fromExcept (r : Except Error α) : v.Keeps I (fromExcept r) := fun _ hc => hc

lemma Keeps.map {op : Operation α} (h : v.Keeps I op) (f : α → β) : v.Keeps I (f <$> op) := by
  rw [map_eq_pure_bind]
  exact h.bind fun _ => keeps_pure _

/-- All times that are told are valid. -/
lemma keeps_clock_bind {f : Request.Response .clock → Operation β}
    (h : ∀ now : Time, now.IsValid → v.Keeps I (f now)) : v.Keeps I (ask .clock >>= f) := by
  intro c hc
  rw [run_bind, run_clock]
  exact h _ (v.occasions c.moment).time_valid (c.after c.tables) hc

lemma keeps_freshId : v.Keeps I (ask .freshId) := fun _ hc => hc

lemma keeps_execute (h : v.Respects I st) (failure : Failure → Error) :
    v.Keeps I (guarded (execute st failure)) :=
  keeps_of_sends fun _ hst => sends_execute (sends_guarded hst) ▸ h

lemma keeps_fetchFirst (h : v.Respects I st) (stage : Stage) (read : List Value → Option α) :
    v.Keeps I (guarded (fetchFirst st stage read)) :=
  keeps_of_sends fun _ hst => sends_fetchFirst (sends_guarded hst) ▸ h

lemma keeps_keepCreated {ops : List (Operation α)} (h : ∀ op ∈ ops, v.Keeps I op) :
    v.Keeps I (keepCreated ops) := by
  induction ops with
  | nil => exact keeps_pure _
  | cons op ops ih =>
    obtain ⟨hop, hops⟩ := List.forall_mem_cons.mp h
    have hattempt : v.Keeps I (attempt op) := by
      intro c hc
      rw [run_attempt]
      exact hop c hc
    refine hattempt.bind fun r => ?_
    cases r with
    | ok a => exact (ih hops).map _
    | error e =>
      simp only
      split
      · exact keeps_throw e
      · exact ih hops

end Service

end Catalog.Store
