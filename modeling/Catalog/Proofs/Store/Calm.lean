import Catalog.Proofs.Store.Coverage

/-!
Calls in a calm world, where every statement is answered and no call is given up. There every call
of a listing succeeds, and so a walk ends if there is a bound on the ids: each of its calls but the
last moves on.
-/

namespace Catalog.Store

open Catalog.Paging Operation

namespace World

/-- Nothing fails, whatever happens to the tables. -/
def Calm (w : World) : Prop := ∀ k, (w.moments k).fault = none ∧ (w.moments k).status = none

/-- The operation succeeds from every session, with such a result. -/
def Yields (w : World) {α : Type} (op : Operation α) (p : α → Prop) : Prop :=
  ∀ c, ∃ a c', w.run op c = (.ok a, c') ∧ p a

variable {w : World} {α β : Type} {p : α → Prop} {q : β → Prop}

/-! ### Operations that succeed -/

lemma Yields.bind {op : Operation α} {f : α → Operation β} (h : w.Yields op p)
    (hf : ∀ a, p a → w.Yields (f a) q) : w.Yields (op >>= f) q := by
  intro c
  obtain ⟨a, c₁, hop, ha⟩ := h c
  obtain ⟨b, c₂, hrest, hb⟩ := hf a ha c₁
  exact ⟨b, c₂, run_bind_eq_ok.mpr ⟨a, c₁, hop, hrest⟩, hb⟩

lemma yields_pure {a : α} (ha : p a) : w.Yields (pure a) p := fun c => ⟨a, c, rfl, ha⟩

lemma yields_clock : w.Yields (ask .clock) fun _ => True := fun c => ⟨_, c.next, rfl, trivial⟩

lemma Calm.guarded (h : w.Calm) {body : Operation α} (hbody : w.Yields body p) :
    w.Yields (Operation.guarded body) p := by
  intro c
  rw [run_guarded, (h c.moment).2]
  exact hbody c.next

lemma Calm.discard (h : w.Calm) (st : Statement) (failure : Failure → Error) :
    w.Yields (Functor.discard (execute st failure)) fun _ => True := by
  intro c
  obtain ⟨a, c', hreply⟩ : ∃ a c', w.reply st c = (.answered a, c') := by
    unfold reply
    rw [(h c.moment).1]
    cases st <;> exact ⟨_, _, rfl⟩
  exact ⟨⟨⟩, c', by rw [run_discard_execute, hreply], trivial⟩

variable {s : Scope} {filter : Option Sql.Fragment} {after limit : Int}

lemma Calm.fetchPage (h : w.Calm) (hfilter : ∀ f ∈ filter, IsClause f) (hlimit : 0 ≤ limit) :
    w.Yields (fetchPage s (filter.map sqlOf) after limit) fun found => ∀ x ∈ found, 0 ≤ x.1 := by
  intro c
  rw [run_fetchPage hfilter hlimit, (h c.moment).1]
  refine ⟨_, _, rfl, fun x hx => ?_⟩
  obtain ⟨row, hrow, rfl⟩ := List.mem_map.mp hx
  exact (Scope.id_bounds (Scope.mem_pageRows hrow).1).1.le

lemma Calm.fetchMax (h : w.Calm) (hfilter : ∀ f ∈ filter, IsClause f) :
    w.Yields (fetchMax s (filter.map sqlOf)) fun _ => True := by
  intro c
  rw [run_fetchMax hfilter, (h c.moment).1]
  exact ⟨_, _, rfl, trivial⟩

lemma Calm.readPage (h : w.Calm) (hfilter : ∀ f ∈ filter, IsClause f) (hlimit : 0 ≤ limit) :
    w.Yields (readPage s (filter.map sqlOf) after limit) fun found => ∀ x ∈ found.1, 0 ≤ x.1 := by
  refine (h.fetchPage hfilter hlimit).bind fun found hfound => ?_
  split
  · exact yields_pure hfound
  · exact (h.fetchMax hfilter).bind fun _ _ => yields_pure hfound

lemma Calm.readSnapshot (h : w.Calm) (hfilter : ∀ f ∈ filter, IsClause f) (hlimit : 0 ≤ limit) :
    w.Yields (readSnapshot s (filter.map sqlOf) after limit)
      fun found => ∀ x ∈ found.1, 0 ≤ x.1 := by
  refine (h.discard _ _).bind fun _ _ => (h.discard _ _).bind fun _ _ => ?_
  refine (h.readPage hfilter hlimit).bind fun _ hfound => ?_
  exact (h.discard _ _).bind fun _ _ => yields_pure hfound

/-- A listing succeeds if its store takes the filter. -/
lemma Calm.list (h : w.Calm) {store : Store} {text : String} {predicate : Option String}
    (hp : store.predicate? s.anchor text = .ok predicate) (token : String) (size : Int) :
    w.Yields (store.list s text token size) fun _ => True := by
  obtain ⟨filter, rfl, hfilter, -⟩ := exists_filter s.isAnchor hp
  have hlimit : 0 ≤ store.options.pageSize size :=
    zero_le_one.trans (one_le_pageSize store.options size)
  rw [Store.list, hp, fromExcept_ok_bind]
  refine yields_clock.bind fun now _ => ?_
  have hread : w.Yields ((if store.options.snapshotListing then Store.readSnapshot
      else Store.readPage) s (filter.map sqlOf)
        (store.cursor.decode now.unixSeconds 0 token) (store.options.pageSize size))
      fun found => ∀ x ∈ found.1, 0 ≤ x.1 := by
    split
    · exact h.readSnapshot hfilter hlimit
    · exact h.readPage hfilter hlimit
  refine (h.guarded hread).bind fun found hfound => ?_
  obtain ⟨rows, maxId⟩ := found
  simp only
  split
  · exact yields_pure trivial
  · rename_i id text hlast
    have hid : 0 ≤ id := hfound _ (List.mem_of_getLast? hlast)
    split
    · refine Yields.bind (p := fun _ => True) ?_ fun _ _ => yields_pure trivial
      intro c
      obtain ⟨token, hrun, -⟩ := nextToken_eq (w := w) store s hid c
      exact ⟨token, _, hrun, trivial⟩
    · exact Yields.bind (p := fun _ => True) (yields_pure trivial) fun _ _ => yields_pure trivial

end World

/-! ### Walks that end -/

namespace Walk

/-- Every replica takes the filter. -/
def Accepts (wk : Walk) : Prop :=
  ∀ i, ∃ predicate, (wk.stores i).predicate? wk.scope.anchor wk.filter = .ok predicate

variable {wk : Walk} {key : Key}

lemma exists_call (hcalm : wk.world.Calm) (haccepts : wk.Accepts) (i : ℕ) :
    ∃ page c, wk.call i (wk.after i) = (.ok page, c) := by
  obtain ⟨predicate, hp⟩ := haccepts i
  obtain ⟨page, c, hrun, -⟩ := hcalm.list hp (wk.after i).token (wk.sizes i)
    (wk.after i).session.connect
  exact ⟨page, c, hrun⟩

/-- A walk of calls that succeed ends if there is a bound on the ids. -/
theorem finished_of_bounded (hshares : wk.Shares key) (hfresh : wk.Fresh)
    (hcalm : wk.world.Calm) (haccepts : wk.Accepts) {bound : ℕ}
    (hbound : ∀ k, maxOf (wk.rowsAt k) ≤ bound) : (wk.after (bound + 1)).Finished := by
  -- each call that does not finish the walk carries the mark on by one at least
  have hmoves : ∀ n, ∃ readings mark, wk.Covers key (wk.after n) readings mark
      ∧ ((wk.after n).Finished ∨ n = 0 ∧ mark = 0 ∨ (n : Int) ≤ mark ∧ mark < bound) := by
    intro n
    induction n with
    | zero => exact ⟨[], 0, covers_start, .inr (.inl ⟨rfl, rfl⟩)⟩
    | succ n ih =>
      obtain ⟨readings, mark, h, hn⟩ := ih
      obtain ⟨readings', mark', h', hstep⟩ := h.step hshares hfresh
      refine ⟨readings', mark', h', ?_⟩
      by_cases hf : (wk.after (n + 1)).Finished
      · exact .inl hf
      · obtain ⟨page, c, hcall⟩ := exists_call hcalm haccepts n
        obtain ⟨hlt, k, hmax⟩ := hstep page c hcall hf
        have hk := hbound k
        have hnot : ¬(wk.after n).Finished := fun hn =>
          hf (by rwa [after_succ_of_finished hn])
        rcases hn with hn | ⟨rfl, rfl⟩ | hn
        · exact absurd hn hnot
        · exact .inr (.inr (by omega))
        · exact .inr (.inr (by push_cast; omega))
  obtain ⟨_, mark, -, hf | ⟨hn, -⟩ | hn⟩ := hmoves (bound + 1)
  · exact hf
  · simp at hn
  · push_cast at hn
    omega

end Walk

/-! ### A still world -/

/-- A calm world whose clock stands still, with such tables, where filters match all rows. -/
def World.still (tables : ℕ → Database) : World where
  moments k := ⟨tables k, none, none, .affected 0, ⟨0, 0⟩, by decide, .replicate 16 0, ""⟩
  meaning _ _ := true

lemma World.calm_still (tables : ℕ → Database) : (World.still tables).Calm := fun _ => ⟨rfl, rfl⟩

lemma Walk.fresh_still (wk : Walk) {tables : ℕ → Database} (h : wk.world = World.still tables) :
    wk.Fresh :=
  Walk.fresh_of_clocks fun j k => by rw [h]; exact Nat.le_add_right _ _

/-- A row of the notes. -/
def noteRow (id : Int) (project data : String) : Row :=
  ⟨id, fun column => if column = "project_id" then project else data⟩

/-- Two replicas in turn, of which the second lists in transactions. -/
def replicas (i : ℕ) : Store :=
  if i % 2 = 0 then strictStore
  else { strictStore with options := { strictStore.options with snapshotListing := true } }

lemma primary_replicas (i : ℕ) : (replicas i).cursor.primary = strictStore.cursor.primary := by
  unfold replicas
  split <;> rfl

lemma predicate?_replicas (i : ℕ) (anchor : String) :
    (replicas i).predicate? anchor "" = .ok none := rfl

end Catalog.Store
