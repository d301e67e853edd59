import Catalog.Proofs.Store.Calm
import Catalog.Proofs.Store.Reachable

/-!
Listings at a calm service. They write nothing, so they do what they do in a world where the tables
stand still.
-/

namespace Catalog.Store

open Catalog.Paging Catalog.Sql Operation

lemma Statement.answer?_transaction {st : Statement} (h : st ∈ [begin, snapshot, commit])
    (db : Database) (meaning : Meaning) : db.answer? meaning st = none := by
  have hnone : (outlineOf? st.sql).bind select? = none := by
    simp only [List.mem_cons, List.not_mem_nil, or_false] at h
    rcases h with rfl | rfl | rfl <;> decide +kernel
  rw [outlineOf?] at hnone
  rw [Database.answer?]
  simp only [Option.bind_eq_bind, ← Option.bind_assoc, hnone, Option.bind_none]

namespace Service

/-- The world of a calm service whose tables stand still. After the last moment there is nothing
new in it. -/
def world (v : Service) (t : Tables v.engine) (last : ℕ) : World where
  moments k :=
    let o := v.occasions (min k last)
    { database := t.database
      status := none
      fault := none
      otherwise := o.otherwise
      time := o.time
      time_lt := o.time_valid.unixSeconds_lt
      block := o.block
      freshId := o.freshId }
  meaning := v.meaning

lemma calm_world (v : Service) (t : Tables v.engine) (last : ℕ) : (v.world t last).Calm :=
  fun _ => ⟨rfl, rfl⟩

/-- The statement is one of those that listings send, and its arguments are taken. -/
structure Listing (v : Service) (st : Statement) : Prop where
  command : st.command? = none
  takes : st.arguments.all v.engine.takesValue = true

variable {v : Service} {t : Tables v.engine} {last : ℕ} {α : Type}

lemma moment_respond (r : Request) (c : Situation v.engine) :
    (v.respond r c).2.moment = c.moment + 1 := by
  cases r with
  | send st =>
    change (v.reply st c).2.moment = c.moment + 1
    unfold reply
    dsimp only
    rcases (v.occasions c.moment).mishap with _ | ⟨_, _ | _⟩ <;> rfl
  | status | clock | randomBlock | freshId => rfl

/-- Time does not go back. -/
lemma moment_le_run (op : Operation α) (c : Situation v.engine) :
    c.moment ≤ (v.run op c).2.moment := by
  have hprogram : ∀ (p : Program (Except Error α)) (c : Situation v.engine),
      c.moment ≤ ((p.run v.respond).run c).2.moment := by
    intro p
    induction p with
    | done a => exact fun c => le_rfl
    | ask r next ih =>
      intro c
      have hrest := ih (v.respond r c).1 (v.respond r c).2
      rw [moment_respond] at hrest
      exact (Nat.le_succ _).trans hrest
  exact hprogram op.run c

/-- A request is answered as in the world where the tables stand still. -/
lemma Calm.respond_eq (hv : v.Calm) {r : Request} (hr : ∀ st, r = .send st → v.Listing st)
    {c : Session} (hc : c.moment ≤ last) :
    v.respond r ⟨c.moment, t⟩ = (((v.world t last).respond r c).1, ⟨c.moment + 1, t⟩)
      ∧ ((v.world t last).respond r c).2.moment = c.moment + 1 := by
  have hmin : min c.moment last = c.moment := Nat.min_eq_left hc
  cases r with
  | send st =>
    obtain ⟨hcommand, htakes⟩ := hr st rfl
    have hreply : v.reply st ⟨c.moment, t⟩ = (.answered (((t.database.answer? v.meaning st).map
        .rows).getD (v.occasions c.moment).otherwise), ⟨c.moment + 1, t⟩) := by
      rw [Service.reply, (hv c.moment).2, Tables.reply, if_pos htakes, hcommand]
    have hworld : ∃ c', c'.moment = c.moment + 1 ∧ (v.world t last).reply st c
        = (.answered (((t.database.answer? v.meaning st).map .rows).getD
            (v.occasions c.moment).otherwise), c') := by
      cases st with
      | begin | snapshot | commit =>
        rw [Statement.answer?_transaction (by simp)]
        exact ⟨_, rfl, by simp only [World.reply, world, hmin]; rfl⟩
      | _ => exact ⟨c.read, rfl, by simp only [World.reply, world, hmin]⟩
    obtain ⟨c', hmoment, hworld⟩ := hworld
    change v.reply st _ = (((v.world t last).reply st c).1, _)
      ∧ ((v.world t last).reply st c).2.moment = _
    rw [hreply, hworld]
    exact ⟨rfl, hmoment⟩
  | status =>
    exact ⟨Prod.ext (hv c.moment).1 rfl, rfl⟩
  | clock | randomBlock | freshId =>
    refine ⟨Prod.ext ?_ rfl, rfl⟩
    simp only [Service.respond, World.respond, world, hmin]
    rfl

/-- An operation that only sends statements of listings does what it does in that world, if the
world lasts long enough. -/
lemma Calm.run_eq (hv : v.Calm) {op : Operation α} (hop : ∀ st, op.Sends st → v.Listing st)
    (c : Session) (hlast : (v.run op ⟨c.moment, t⟩).2.moment ≤ last + 1) :
    v.run op ⟨c.moment, t⟩
      = (((v.world t last).run op c).1, ⟨((v.world t last).run op c).2.moment, t⟩) := by
  have hprogram : ∀ p : Program (Except Error α), (∀ st, p.Sends st → v.Listing st) →
      ∀ c : Session, ((p.run v.respond).run ⟨c.moment, t⟩).2.moment ≤ last + 1 →
        (p.run v.respond).run ⟨c.moment, t⟩ = (((p.run (v.world t last).respond).run c).1,
          ⟨((p.run (v.world t last).respond).run c).2.moment, t⟩) := by
    intro p
    induction p with
    | done a => exact fun _ c _ => rfl
    | ask r next ih =>
      intro hp c hlast
      have hmoment : c.moment + 1 ≤ ((next (v.respond r ⟨c.moment, t⟩).1).run v.respond
          (v.respond r ⟨c.moment, t⟩).2).2.moment := by
        have hle := v.moment_le_run (ExceptT.mk (next (v.respond r ⟨c.moment, t⟩).1))
          (v.respond r ⟨c.moment, t⟩).2
        rwa [moment_respond] at hle
      have hc : c.moment ≤ last := Nat.le_of_succ_le_succ (hmoment.trans hlast)
      obtain ⟨hrespond, hworld⟩ := hv.respond_eq (t := t) (r := r) (fun st hr => by
        subst hr
        exact hp st (.here next)) hc
      have hrest := ih (v.respond r ⟨c.moment, t⟩).1 (fun st hst => hp st (.later _ hst))
        ((v.world t last).respond r c).2
      rw [hworld] at hrest
      have hsplit : ((Program.ask r next).run v.respond).run ⟨c.moment, t⟩
          = ((next (v.respond r ⟨c.moment, t⟩).1).run v.respond).run
            (v.respond r ⟨c.moment, t⟩).2 := rfl
      have hsplit' : ((Program.ask r next).run (v.world t last).respond).run c
          = ((next ((v.world t last).respond r c).1).run (v.world t last).respond).run
            ((v.world t last).respond r c).2 := rfl
      rw [hsplit] at hlast ⊢
      rw [hsplit']
      rw [hrespond] at hrest hlast ⊢
      exact hrest hlast
  exact hprogram op.run hop c hlast

/-! ### Listings -/

variable {store : Store} {s : Scope} {text : String} {predicate : Option String}
  {c : Situation v.engine}

lemma listing_of_sends (htakes : ∀ key ∈ s.keys, v.engine.takes key.2) {token : String}
    {size : Int} {st : Statement} (h : (store.list s text token size).Sends st) :
    v.Listing st := by
  obtain ⟨predicate, hp, hcases⟩ := sends_list h
  obtain ⟨f, rfl, hf, -⟩ := exists_filter s.isAnchor hp
  rcases hcases with ⟨now, rfl⟩ | rfl | htransaction
  · refine ⟨Statement.command?_page hf _ _, ?_⟩
    simpa [Statement.arguments, Engine.takesValue] using fun _ _ => htakes (_, _)
  · refine ⟨Statement.command?_maxId hf, ?_⟩
    simpa [Statement.arguments, Engine.takesValue] using fun _ _ => htakes (_, _)
  · refine ⟨Statement.command?_transaction htransaction, ?_⟩
    simp only [List.mem_cons, List.not_mem_nil, or_false] at htransaction
    rcases htransaction with rfl | rfl | rfl <;> rfl

/-- A listing succeeds and makes one turn over the tables, which it leaves as they are. -/
lemma Calm.list (hv : v.Calm) (hp : store.predicate? s.anchor text = .ok predicate)
    (htakes : ∀ key ∈ s.keys, v.engine.takes key.2) (token : String) (size : Int)
    (c : Situation v.engine) :
    ∃ rows page c' p m, v.run (store.list s text token size) c = (.ok page, c')
      ∧ c'.tables = c.tables ∧ c.moment < c'.moment
      ∧ IsTurn (v.world c.tables c'.moment) s predicate store.cursor.primary
        (store.cursor.decode (v.occasions c.moment).time.unixSeconds 0 token)
        (store.options.pageSize size) rows page p m := by
  obtain ⟨filter, rfl, hfilter, -⟩ := exists_filter s.isAnchor hp
  rcases hrun : v.run (store.list s text token size) c with ⟨r, c'⟩
  have hlast : (v.run (store.list s text token size) c).2.moment ≤ c'.moment + 1 := by
    rw [hrun]
    exact Nat.le_succ _
  have hle : c.moment ≤ c'.moment := by
    have := v.moment_le_run (store.list s text token size) c
    rwa [hrun] at this
  have hequal := hv.run_eq (t := c.tables) (fun st hst => listing_of_sends htakes hst)
    ⟨c.moment, .current, []⟩ hlast
  obtain ⟨page, session, hworld, -⟩ := (v.calm_world c.tables c'.moment).list hp token size
    ⟨c.moment, .current, []⟩
  obtain ⟨rows, p, m, hbetween, hturn⟩ := World.list_eq_ok rfl hfilter hp hworld
  rw [hworld] at hequal
  obtain ⟨rfl, rfl⟩ := Prod.mk.inj (hrun.symm.trans hequal)
  have htime : ((v.world c.tables session.moment).moments c.moment).time
      = (v.occasions c.moment).time := by
    simp only [world, Nat.min_eq_left hle]
  rw [htime] at hturn
  exact ⟨rows, page, _, p, m, rfl, rfl,
    hbetween.start.trans_lt (hbetween.order.trans_lt hbetween.stop), hturn⟩

end Service

end Catalog.Store
