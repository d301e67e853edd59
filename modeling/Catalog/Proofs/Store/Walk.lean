import Catalog.Proofs.Paging.RoundTrip
import Catalog.Proofs.Store.Isolation

/-!
A walk through a listing: calls with the token of the page before, until a page has none. The
calls may reach any replicas that seal their tokens with one key, and ask for any numbers of rows. A
call that fails is made again.
-/

namespace Catalog.Store

open Catalog.Paging

/-! ### Walks -/

/-- What a client lists, the replica that each of its calls reaches, and the number of rows that
it asks for. -/
structure Walk where
  world : World
  scope : Scope
  filter : String
  stores : ℕ → Store
  sizes : ℕ → Int

/-- A page, and the moments between which its call ran. -/
structure Visit where
  page : Page
  opened : ℕ
  closed : ℕ

/-- How far a walk has come: the token that it holds, and the pages that it was given. -/
structure Progress where
  token : String
  session : Session
  visits : List Visit

/-- The walk has come to a page without a token. -/
def Progress.Finished (p : Progress) : Prop := p.visits ≠ [] ∧ p.token = ""

instance : DecidablePred Progress.Finished := fun _ => inferInstanceAs (Decidable (_ ∧ _))

/-- The walk with one more page, at the end of its call. -/
def Progress.add (p : Progress) (page : Page) (c : Session) : Progress :=
  ⟨page.token, c, p.visits ++ [⟨page, p.session.moment, c.moment⟩]⟩

@[simp] lemma Progress.finished_add (p : Progress) (page : Page) (c : Session) :
    (p.add page c).Finished ↔ page.token = "" := by
  simp [Finished, add]

/-- The session on a connection that is in no transaction. -/
def Session.connect (c : Session) : Session := ⟨c.moment, .current, c.reads⟩

lemma Session.Past.connect {c : Session} (h : c.Past) : c.connect.Past := ⟨le_rfl, h.2⟩

namespace Walk

variable (wk : Walk)

/-- A call with the token that the walk holds. -/
def call (i : ℕ) (p : Progress) : Except Error Page × Session :=
  wk.world.run ((wk.stores i).list wk.scope wk.filter p.token (wk.sizes i)) p.session.connect

def step (i : ℕ) (p : Progress) : Progress :=
  if p.Finished then p
  else
    match wk.call i p with
    | (.ok page, c) => p.add page c
    | (.error _, c) => ⟨p.token, c, p.visits⟩

/-- The walk after so many calls. -/
def after : ℕ → Progress
  | 0 => ⟨"", ⟨0, .current, []⟩, []⟩
  | n + 1 => wk.step n (after n)

/-- The replicas seal their tokens with one key. -/
def Shares (key : Key) : Prop := ∀ i, (wk.stores i).cursor.primary = key

/-- Every token is fresh by the clock of the call that it is used in. -/
def Fresh : Prop :=
  ∀ i token, Token.parse? (wk.after i).token = some token →
    token.isFresh (wk.world.moments (wk.after i).session.moment).time.unixSeconds = true

/-- How many rows the page of a call may hold. -/
def limit (i : ℕ) : Int := (wk.stores i).options.pageSize (wk.sizes i)

/-- The predicate of the filter; a filter that does not compile has none. -/
def predicate : Option String :=
  if Text.isBlankText wk.filter then none
  else (Filter.compile wk.scope.anchor wk.filter).toOption

/-- The rows in the scope that the filter matches, as the tables hold them at a moment. -/
def rowsAt (k : ℕ) : List Row :=
  wk.scope.matching wk.world.meaning wk.predicate (wk.world.moments k).database

end Walk

/-! ### Marks -/

/-- Where a walk with this token goes on: behind the id in it, or else at the start. -/
def IsMark (w : World) (key : Key) (mark : Int) (token : String) : Prop :=
  token = "" ∧ mark = 0 ∨ IsToken w key mark token ∧ mark < 2 ^ 63

section

variable {w : World} {key : Key} {id mark : Int} {token : String}

/-- A token is read back as it was issued. -/
lemma IsToken.exists_parse? (h : IsToken w key id token) :
    ∃ k t, Token.parse? token = some t ∧ t.time = (w.moments k).time.unixSeconds := by
  obtain ⟨k, start, -, rfl⟩ := h
  exact ⟨k, _, Token.parse?_issue key start (w.moments k).time_lt _, rfl⟩

lemma IsToken.ne_empty (h : IsToken w key id token) : token ≠ "" := by
  rintro rfl
  obtain ⟨_, _, hparse, -⟩ := h.exists_parse?
  exact absurd hparse (by simp [Token.parse?_empty])

lemma IsMark.decode (h : IsMark w key mark token) {cursor : Cursor} (hkey : cursor.primary = key)
    {now : ℕ} (hfresh : ∀ t, Token.parse? token = some t → t.isFresh now = true) :
    cursor.decode now 0 token = mark := by
  subst hkey
  rcases h with ⟨rfl, rfl⟩ | ⟨⟨k, start, hid, rfl⟩, hlt⟩
  · exact cursor.decode_empty now 0
  · exact cursor.decode_issue start (w.moments k).time_lt hid hlt
      (hfresh _ (Token.parse?_issue cursor.primary start (w.moments k).time_lt _))

lemma IsMark.nonneg (h : IsMark w key mark token) : 0 ≤ mark := by
  rcases h with ⟨-, rfl⟩ | ⟨⟨_, _, hid, _⟩, -⟩
  · exact le_rfl
  · exact hid

lemma IsTurn.token_eq {s : Scope} {predicate : Option String} {after limit : Int} {rows : List Row}
    {page : Page} {p m : ℕ} (h : IsTurn w s predicate key after limit rows page p m) :
    page.token = "" ∨ ∃ id, IsToken w key id page.token := by
  rcases List.eq_nil_or_concat rows with rfl | ⟨init, last, rfl⟩
  · exact .inl (h.token_nil rfl)
  · have htoken := h.token_last last (by simp)
    split at htoken
    · exact .inr ⟨_, htoken⟩
    · exact .inl htoken

end

/-! ### Steps -/

namespace Walk

variable {wk : Walk}

/-- Stores disagree about a filter only where one of them refuses it. -/
lemma predicate_eq {store : Store} {predicate : Option String}
    (h : store.predicate? wk.scope.anchor wk.filter = .ok predicate) :
    predicate = wk.predicate := by
  unfold predicate? at h
  unfold Walk.predicate
  split at h
  · rename_i hblank
    rw [if_pos hblank, Except.ok.inj h]
  · rename_i hblank
    rw [if_neg hblank]
    split at h
    · rename_i sql hsql
      rw [hsql, ← Except.ok.inj h]
      rfl
    · rename_i e he
      split at h
      · simp at h
      · rw [he, ← Except.ok.inj h]
        rfl

/-- A call that succeeds makes one turn, from wherever its token is read to be. -/
lemma call_turn {i : ℕ} {page : Page} {c : Session}
    (h : wk.call i (wk.after i) = (.ok page, c)) :
    ∃ rows p m, Between (wk.after i).session.connect c p m
      ∧ IsTurn wk.world wk.scope wk.predicate (wk.stores i).cursor.primary
        ((wk.stores i).cursor.decode
          (wk.world.moments (wk.after i).session.moment).time.unixSeconds 0 (wk.after i).token)
        (wk.limit i) rows page p m := by
  cases hp : (wk.stores i).predicate? wk.scope.anchor wk.filter with
  | error e =>
    rw [call, list, hp, Operation.fromExcept_error_bind, World.run_throw] at h
    simp at h
  | ok predicate =>
    obtain ⟨filter, rfl, hclause, -⟩ := exists_filter wk.scope.isAnchor hp
    have hturn := World.list_eq_ok rfl hclause hp h
    rwa [predicate_eq hp] at hturn

lemma call_eq_ok {key : Key} (hshares : wk.Shares key) (hfresh : wk.Fresh) {i : ℕ} {mark : Int}
    (hmark : IsMark wk.world key mark (wk.after i).token) {page : Page} {c : Session}
    (h : wk.call i (wk.after i) = (.ok page, c)) :
    ∃ rows p m, Between (wk.after i).session.connect c p m
      ∧ IsTurn wk.world wk.scope wk.predicate key mark (wk.limit i) rows page p m := by
  have hturn := call_turn h
  rwa [hshares i, hmark.decode (hshares i) (hfresh i)] at hturn

lemma after_succ_of_ok {i : ℕ} (hf : ¬(wk.after i).Finished) {page : Page} {c : Session}
    (h : wk.call i (wk.after i) = (.ok page, c)) : wk.after (i + 1) = (wk.after i).add page c := by
  rw [after, step, if_neg hf, h]

lemma after_succ_of_error {i : ℕ} (hf : ¬(wk.after i).Finished) {e : Error} {c : Session}
    (h : wk.call i (wk.after i) = (.error e, c)) :
    wk.after (i + 1) = ⟨(wk.after i).token, c, (wk.after i).visits⟩ := by
  rw [after, step, if_neg hf, h]

lemma after_succ_of_finished {i : ℕ} (hf : (wk.after i).Finished) :
    wk.after (i + 1) = wk.after i := by
  rw [after, step, if_pos hf]

/-- What a walk has read stays on record. -/
lemma reads_call {i : ℕ} {r : Except Error Page} {c : Session}
    (h : wk.call i (wk.after i) = (r, c)) :
    (wk.after i).session.reads ⊆ c.reads ∧ ((wk.after i).session.Past → c.Past) := by
  have hrun := World.reads_run (w := wk.world)
    ((wk.stores i).list wk.scope wk.filter (wk.after i).token (wk.sizes i))
    (wk.after i).session.connect
  rw [call] at h
  rw [h] at hrun
  exact ⟨hrun.1, fun hpast => hrun.2 hpast.connect⟩

lemma past_after (n : ℕ) : (wk.after n).session.Past := by
  induction n with
  | zero => exact ⟨le_rfl, by simp [after]⟩
  | succ n ih =>
    by_cases hf : (wk.after n).Finished
    · rwa [after_succ_of_finished hf]
    · rcases hcall : wk.call n (wk.after n) with ⟨e | page, c⟩
      · rw [after_succ_of_error hf hcall]
        exact (reads_call hcall).2 ih
      · rw [after_succ_of_ok hf hcall]
        exact (reads_call hcall).2 ih

lemma one_le_limit (wk : Walk) (i : ℕ) : 1 ≤ wk.limit i := World.one_le_pageSize _ _

/-- Where all clocks agree up to the skew, tokens are fresh. -/
theorem fresh_of_clocks (h : ∀ j k, (wk.world.moments j).time.unixSeconds
    ≤ (wk.world.moments k).time.unixSeconds + clockSkew) : wk.Fresh := by
  have htoken : ∀ i, (wk.after i).token = ""
      ∨ ∃ key id, IsToken wk.world key id (wk.after i).token := by
    intro i
    induction i with
    | zero => exact .inl rfl
    | succ i ih =>
      by_cases hf : (wk.after i).Finished
      · rwa [after_succ_of_finished hf]
      · rcases hcall : wk.call i (wk.after i) with ⟨e | page, c⟩
        · rwa [after_succ_of_error hf hcall]
        · rw [after_succ_of_ok hf hcall]
          obtain ⟨rows, p, m, -, hturn⟩ := call_turn hcall
          exact hturn.token_eq.imp_right fun ⟨id, hid⟩ => ⟨_, id, hid⟩
  intro i token hparse
  rcases htoken i with hempty | ⟨key, id, hid⟩
  · rw [hempty, Token.parse?_empty] at hparse
    simp at hparse
  · obtain ⟨k, t, ht, htime⟩ := hid.exists_parse?
    obtain rfl : t = token := Option.some.inj (ht.symm.trans hparse)
    have hpast := h (wk.after i).session.moment k
    have hfuture := h k (wk.after i).session.moment
    simp only [Token.isFresh, htime, timeToLive, Bool.and_eq_true, decide_eq_true_iff]
    simp only [clockSkew] at hpast hfuture ⊢
    omega

end Walk

end Catalog.Store
