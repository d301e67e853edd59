import Catalog.Proofs.Paging.Opening
import Catalog.Proofs.Store.Accounts
import Catalog.Proofs.Store.Isolation

/-!
Listings in a transaction and without one. Over tables that stand still, both read the same page,
look for the greatest id in the same cases, and come to the same rows; their tokens are sealed with
other random blocks and at other times, but for the same id.
-/

namespace Catalog

namespace Store

open Operation Paging

variable {α β : Type}

/-- The same store, with its reads in a transaction or without one. -/
def withSnapshot (store : Store) (snapshot : Bool) : Store :=
  { store with options := { store.options with snapshotListing := snapshot } }

/-! ### Peers that stand still -/

/-- Whenever a statement is sent, it is answered in the one way; and the call is given up from the
beginning or never. -/
structure Peer.IsStill (peer : Peer) (db : Statement → Reply)
    (status : Option Context.Interruption) : Prop where
  send : ∀ past st, peer past (.send st) = db st
  status : ∀ past, peer past .status = status

/-- The exchange over a statement. -/
def Exchange.over (db : Statement → Reply) (st : Statement) : Exchange := ⟨.send st, db st⟩

namespace Operation

variable {db : Statement → Reply} {status : Option Context.Interruption} {es : List Exchange}
  {st : Statement}

/-- This is said, and comes of it, whatever else the peer says. -/
def Runs (db : Statement → Reply) (status : Option Context.Interruption) (op : Operation α)
    (es : List Exchange) (r : Except Error α) : Prop :=
  ∀ peer : Peer, peer.IsStill db status → ∀ past, op.run.talk peer past = (es, r)

lemma runs_fromExcept (r : Except Error α) : (fromExcept r).Runs db status [] r :=
  fun _ _ _ => rfl

lemma Runs.bind {op : Operation α} {f : α → Operation β} {es' : List Exchange} {a : α}
    {r : Except Error β} (h : op.Runs db status es (.ok a)) (hf : (f a).Runs db status es' r) :
    (op >>= f).Runs db status (es ++ es') r := by
  intro peer hpeer past
  rw [run_bind_eq, Program.talk_bind, h peer hpeer past]
  simp only [hf peer hpeer]

lemma Runs.bind_error {op : Operation α} {err : Error}
    (h : op.Runs db status es (.error err)) (f : α → Operation β) :
    (op >>= f).Runs db status es (.error err) := by
  intro peer hpeer past
  rw [run_bind_eq, Program.talk_bind, h peer hpeer past]
  simp only [Program.talk, List.append_nil]

lemma runs_ask {r : Request} {answer : r.Response}
    (h : ∀ peer : Peer, peer.IsStill db status → ∀ past, peer past r = answer) :
    (ask r).Runs db status [⟨r, answer⟩] (.ok answer) := by
  intro peer hpeer past
  rw [← h peer hpeer past]
  rfl

lemma runs_guarded {body : Operation α} {r : Except Error α} (h : body.Runs db none es r) :
    (guarded body).Runs db none (⟨.status, (none : Option Context.Interruption)⟩ :: es) r :=
  (runs_ask fun _ hpeer => hpeer.status).bind h

lemma runs_guarded_interrupted (body : Operation α) (i : Context.Interruption) :
    (guarded body).Runs db (some i) [⟨.status, some i⟩] (.error (.interrupted i)) :=
  (runs_ask fun _ hpeer => hpeer.status).bind (runs_fromExcept (.error (.interrupted i)))

/-- What a statement is answered is what is read; without an answer it fails. -/
lemma runs_send (db : Statement → Reply) (status : Option Context.Interruption) (st : Statement)
    (failure : Failure → Error) :
    (∀ a, db st = .answered a → (send st failure).Runs db status [.over db st] (.ok a))
    ∧ ((∀ a, db st ≠ .answered a) →
      ∃ err, (send st failure).Runs db status [.over db st] (.error err)) := by
  have hask : (ask (.send st)).Runs db status [.over db st] (.ok (db st)) :=
    runs_ask fun _ hpeer past => hpeer.send past st
  cases hdb : db st with
  | answered a =>
    rw [hdb] at hask
    refine ⟨?_, fun h => absurd rfl (h a)⟩
    rintro _ ⟨⟩
    exact hask.bind (runs_fromExcept (.ok a))
  | failed x =>
    rw [hdb] at hask
    exact ⟨nofun, fun _ => ⟨_, hask.bind (runs_fromExcept (.error (failure x)))⟩⟩
  | interrupted i =>
    rw [hdb] at hask
    exact ⟨nofun, fun _ => ⟨_, hask.bind (runs_fromExcept (.error (.interrupted i)))⟩⟩

/-- A statement, and what is made of the answer to it without another word. -/
lemma exists_runs_send (failure : Failure → Error) {f : Answer → Operation α} {P : α → Prop}
    (hanswered : ∀ a, db st = .answered a →
      ∃ r, (f a).Runs db status [] r ∧ ∀ b, r = .ok b ↔ P b)
    (hfailed : (∀ a, db st ≠ .answered a) → ∀ b, ¬P b) :
    ∃ r, (send st failure >>= f).Runs db status [.over db st] r ∧ ∀ b, r = .ok b ↔ P b := by
  obtain ⟨hsend, herror⟩ := runs_send db status st failure
  by_cases h : ∃ a, db st = .answered a
  · obtain ⟨a, ha⟩ := h
    obtain ⟨r, hr, hP⟩ := hanswered a ha
    exact ⟨r, (hsend a ha).bind hr, hP⟩
  · obtain ⟨err, herr⟩ := herror (not_exists.mp h)
    exact ⟨.error err, herr.bind_error _,
      fun b => iff_of_false nofun (hfailed (not_exists.mp h) b)⟩

end Operation

/-! ### One page -/

/-- The rows of a page, where the driver can read all that it is answered. -/
def Reply.rows? : Reply → Option (List (Int × String))
  | .answered (.rows found) => found.mapM readRow?
  | .answered (.affected _) => some []
  | _ => none

/-- The greatest id, where the driver can read it. -/
def Reply.max? : Reply → Option Int
  | .answered a => a.first?.bind readMax?
  | _ => none

section

variable {db : Statement → Reply} {status : Option Context.Interruption} {st : Statement}
  {s : Scope} {predicate : Option String} {after limit : Int}

lemma verdict?_over : (Exchange.over db st).verdict? = none
    ↔ ∃ a, db st = .answered a ∧ st.decodes a = true := by
  rw [Exchange.over]
  cases db st with
  | answered a =>
    simp only [Exchange.verdict?, Reply.answered.injEq, exists_eq_left']
    split <;> simp_all
  | failed x => simp [Exchange.verdict?]
  | interrupted i => simp [Exchange.verdict?]

lemma verdict?_page : (Exchange.over db (.page s predicate after limit)).verdict? = none
    ↔ ∃ rows, (db (.page s predicate after limit)).rows? = some rows := by
  rw [verdict?_over]
  cases db (.page s predicate after limit) with
  | answered a =>
    cases a with
    | affected n => simp [Statement.decodes, Reply.rows?]
    | rows found =>
      cases hall : found.all fun row => (readRow? row).isSome with
      | true => simp [Statement.decodes, Reply.rows?, hall, mapM_eq_filterMap hall]
      | false => simp [Statement.decodes, Reply.rows?, hall, mapM_eq_none hall]
  | failed x => simp [Reply.rows?]
  | interrupted i => simp [Reply.rows?]

lemma verdict?_maxId : (Exchange.over db (.maxId s predicate)).verdict? = none
    ↔ ∃ id, (db (.maxId s predicate)).max? = some id := by
  rw [verdict?_over]
  cases db (.maxId s predicate) with
  | answered a => simp [Statement.decodes, Reply.max?, Option.isSome_iff_exists]
  | failed x => simp [Reply.max?]
  | interrupted i => simp [Reply.max?]

lemma runs_fetchPage (db : Statement → Reply) (status : Option Context.Interruption) (s : Scope)
    (predicate : Option String) (after limit : Int) :
    ∃ r, (fetchPage s predicate after limit).Runs db status
        [.over db (.page s predicate after limit)] r
      ∧ ∀ rows, r = .ok rows ↔ (db (.page s predicate after limit)).rows? = some rows := by
  refine exists_runs_send _ (fun a ha => ?_) fun h rows => ?_
  · rw [ha]
    cases a with
    | affected n => exact ⟨_, runs_fromExcept (.ok []), by simp [Reply.rows?]⟩
    | rows found =>
      refine ⟨_, runs_fromExcept _, fun rows => ?_⟩
      rw [Reply.rows?]
      cases found.mapM readRow? <;> simp
  · cases hdb : db (.page s predicate after limit) with
    | answered a => exact absurd hdb (h a)
    | failed _ | interrupted _ => simp [Reply.rows?]

lemma runs_fetchMax (db : Statement → Reply) (status : Option Context.Interruption) (s : Scope)
    (predicate : Option String) :
    ∃ r, (fetchMax s predicate).Runs db status [.over db (.maxId s predicate)] r
      ∧ ∀ id, r = .ok id ↔ (db (.maxId s predicate)).max? = some id := by
  rw [fetchMax, fetchFirst_bind]
  refine exists_runs_send _ (fun a ha => ?_) fun h id => ?_
  · rw [ha, Reply.max?]
    cases a.first? with
    | none => exact ⟨_, runs_fromExcept (.error (.database .maxId)), by simp⟩
    | some row =>
      simp only [Option.bind_some]
      cases readMax? row with
      | none => exact ⟨_, runs_fromExcept (.error (.database .maxId)), by simp⟩
      | some id => exact ⟨_, runs_fromExcept (.ok id), by simp⟩
  · cases hdb : db (.maxId s predicate) with
    | answered a => exact absurd hdb (h a)
    | failed _ | interrupted _ => simp [Reply.max?]

/-- What is sent for a page: the greatest id is asked for where the page is not empty. -/
def pageStatements (db : Statement → Reply) (s : Scope) (predicate : Option String)
    (after limit : Int) : List Statement :=
  .page s predicate after limit ::
    match (db (.page s predicate after limit)).rows? with
    | some (_ :: _) => [.maxId s predicate]
    | _ => []

/-- What is said over a page. -/
def reading (db : Statement → Reply) (s : Scope) (predicate : Option String) (after limit : Int) :
    List Exchange :=
  (pageStatements db s predicate after limit).map (.over db)

lemma runs_readPage (db : Statement → Reply) (status : Option Context.Interruption) (s : Scope)
    (predicate : Option String) (after limit : Int) :
    ∃ r, (readPage s predicate after limit).Runs db status (reading db s predicate after limit) r
      ∧ ((∃ x, r = .ok x) ↔ ∀ e ∈ reading db s predicate after limit, e.verdict? = none) := by
  obtain ⟨r, hr, hrows⟩ := runs_fetchPage db status s predicate after limit
  simp only [reading, pageStatements, List.map_cons, List.forall_mem_cons, verdict?_page]
  cases hpage : (db (.page s predicate after limit)).rows? with
  | none =>
    cases r with
    | ok rows => cases ((hrows rows).mp rfl).symm.trans hpage
    | error err => exact ⟨.error err, hr.bind_error _, by simp⟩
  | some rows =>
    obtain rfl := (hrows rows).mpr hpage
    cases rows with
    | nil => exact ⟨.ok ([], 0), hr.bind (runs_fromExcept (.ok ([], 0))), by simp⟩
    | cons row rows =>
      obtain ⟨m, hm, hid⟩ := runs_fetchMax db status s predicate
      simp only [List.map_cons, List.map_nil, List.forall_mem_singleton, verdict?_maxId, ← hid]
      cases m with
      | ok id =>
        exact ⟨.ok (row :: rows, id), hr.bind (hm.bind (runs_fromExcept (.ok (row :: rows, id)))),
          by simp⟩
      | error err => exact ⟨.error err, hr.bind (hm.bind_error _), by simp⟩

/-- The transaction is ended if all went well in it. -/
def closing (db : Statement → Reply) : Except Error α → List Exchange
  | .ok _ => [.over db .commit]
  | .error _ => []

/-- A statement around the reads. -/
lemma runs_mark {failure : Failure → Error} {f : PUnit → Operation α} {es : List Exchange}
    {r : Except Error α} (hst : ∃ a, db st = .answered a) (h : (f ⟨⟩).Runs db status es r) :
    (discard (execute st failure) >>= f).Runs db status (.over db st :: es) r := by
  obtain ⟨a, ha⟩ := hst
  rw [discard_bind, execute, bind_assoc]
  refine ((runs_send db status st failure).1 a ha).bind ?_
  cases a with
  | affected n => exact h
  | rows found => exact h

lemma runs_readSnapshot
    (htransaction : ∀ st ∈ [.begin, .snapshot, .commit], ∃ a, db st = .answered a)
    {es : List Exchange} {r : Except Error (List (Int × String) × Int)}
    (h : (readPage s predicate after limit).Runs db status es r) :
    (readSnapshot s predicate after limit).Runs db status
      (.over db .begin :: .over db .snapshot :: (es ++ closing db r)) r := by
  simp only [List.forall_mem_cons] at htransaction
  obtain ⟨hbegin, hsnapshot, hcommit, -⟩ := htransaction
  refine runs_mark hbegin (runs_mark hsnapshot ?_)
  cases r with
  | ok x => exact h.bind (runs_mark hcommit (runs_fromExcept (.ok x)))
  | error err =>
    rw [closing, List.append_nil]
    exact h.bind_error _

end

/-! ### Pages and their tokens -/

/-- What is made of a page and the greatest id. -/
def paginate (store : Store) (s : Scope) (read : List (Int × String) × Int) : Operation Page :=
  match read.1.getLast? with
  | none => return ⟨[], ""⟩
  | some (lastId, _) => do
    let token ← if lastId < read.2 then nextToken store s lastId else pure ""
    return ⟨read.1.map (·.2), token⟩

lemma list_eq (store : Store) (s : Scope) (filter token : String) (size : Int) :
    store.list s filter token size = fromExcept (store.predicate? s.anchor filter) >>=
      fun predicate => ask .clock >>= fun now =>
        guarded ((if store.options.snapshotListing then readSnapshot else readPage) s predicate
          (store.cursor.decode now.unixSeconds 0 token) (store.options.pageSize size))
        >>= paginate store s := rfl

/-- The last id of a page, if there are greater ones. -/
def next? (read : List (Int × String) × Int) : Option Int :=
  (read.1.getLast?.map Prod.fst).filter (· < read.2)

/-- What is read comes to this result: its rows, with a token for the last id if there are more. -/
def Paginates (c : Cursor) (s : Scope) :
    Except Error (List (Int × String) × Int) → Except Error Page → Prop
  | .error err, result => result = .error err
  | .ok read, result =>
    match next? read with
    | none => result = .ok ⟨read.1.map (·.2), ""⟩
    | some id =>
      if id < 0 then result = .error (.pagination s.table)
      else ∃ token, c.Carries token id ∧ result = .ok ⟨read.1.map (·.2), token⟩

/-- The pages have the same rows, and both no token, or tokens for one id. -/
def SamePage (c : Cursor) (page page' : Page) : Prop :=
  page.rows = page'.rows ∧ (page.token = "" ∧ page'.token = ""
    ∨ ∃ id, c.Carries page.token id ∧ c.Carries page'.token id)

lemma Paginates.outcomes {c : Cursor} {s : Scope} {r : Except Error (List (Int × String) × Int)}
    {result result' : Except Error Page} (h : Paginates c s r result)
    (h' : Paginates c s r result') : Outcomes (SamePage c) result result' := by
  cases r with
  | error err =>
    obtain rfl := h
    obtain rfl := h'
    rfl
  | ok read =>
    cases hnext : next? read with
    | none =>
      simp only [Paginates, hnext] at h h'
      rw [h, h']
      exact ⟨rfl, .inl ⟨rfl, rfl⟩⟩
    | some id =>
      simp only [Paginates, hnext] at h h'
      split_ifs at h h'
      · rw [h, h']
        rfl
      · obtain ⟨token, htoken, rfl⟩ := h
        obtain ⟨token', htoken', rfl⟩ := h'
        exact ⟨rfl, .inr ⟨id, htoken, htoken'⟩⟩

/-- No statement is sent in the exchange, and it is no verdict. -/
def Exchange.IsIdle (e : Exchange) : Prop := e.statement? = none ∧ e.verdict? = none

lemma talks_nextToken {store : Store} {s : Scope} {id : Int} {es : List Exchange}
    {r : Except Error String} (h : (store.nextToken s id).run.Talks es r) :
    (∀ e ∈ es, e.IsIdle) ∧ if id < 0 then r = .error (.pagination s.table)
      else ∃ token, store.cursor.Carries token id ∧ r = .ok token := by
  obtain ⟨now, rest, rfl, hrest⟩ := talks_ask h
  obtain ⟨start, rest, rfl, hend⟩ := talks_ask hrest
  cases hencode : store.cursor.encode start now.unixSeconds id with
  | ok token =>
    have htoken := Cursor.carries_of_encode hencode
    rw [hencode] at hend
    cases hend
    rw [if_neg (Int.not_lt.mpr htoken.1)]
    exact ⟨by simp [Exchange.IsIdle, Exchange.statement?, Exchange.verdict?], token, htoken, rfl⟩
  | error e =>
    have hid : id < 0 := by
      by_contra hid
      rw [store.cursor.encode_of_nonneg start now.unixSeconds (Int.not_lt.mp hid)] at hencode
      cases hencode
    rw [hencode] at hend
    cases hend
    rw [if_pos hid]
    exact ⟨by simp [Exchange.IsIdle, Exchange.statement?, Exchange.verdict?], rfl⟩

lemma talks_paginate {store : Store} {s : Scope} {read : List (Int × String) × Int}
    {es : List Exchange} {result : Except Error Page}
    (h : (store.paginate s read).run.Talks es result) :
    (∀ e ∈ es, e.IsIdle) ∧ Paginates store.cursor s (.ok read) result := by
  obtain ⟨rows, maxId⟩ := read
  rw [paginate] at h
  rw [Paginates, next?]
  cases hlast : rows.getLast? with
  | none =>
    rw [hlast] at h
    cases h
    obtain rfl := List.getLast?_eq_none_iff.mp hlast
    exact ⟨by simp, rfl⟩
  | some last =>
    obtain ⟨lastId, text⟩ := last
    simp only [hlast] at h
    by_cases hlt : lastId < maxId
    · rw [if_pos hlt, run_bind_eq] at h
      obtain ⟨es₁, r, es₂, rfl, htoken, hend⟩ := h.of_bind
      obtain ⟨hidle, hr⟩ := talks_nextToken htoken
      have hnext : (Option.map Prod.fst (some (lastId, text))).filter (· < maxId)
          = some lastId := by
        simp [Option.filter, hlt]
      simp only [hnext]
      split_ifs at hr ⊢ with hneg
      · subst hr
        cases hend
        exact ⟨by simpa using hidle, rfl⟩
      · obtain ⟨token, hcarries, rfl⟩ := hr
        cases hend
        exact ⟨by simpa using hidle, token, hcarries, rfl⟩
    · rw [if_neg hlt] at h
      cases h
      simp [Option.filter, hlt]

/-! ### Listings -/

lemma talk_ask_bind (peer : Peer) (past : List Exchange) (r : Request)
    (f : r.Response → Operation α) : (ask r >>= f).run.talk peer past
      = (⟨r, peer past r⟩ :: ((f (peer past r)).run.talk peer (past ++ [⟨r, peer past r⟩])).1,
        ((f (peer past r)).run.talk peer (past ++ [⟨r, peer past r⟩])).2) := by
  rw [run_bind_eq]
  rfl

section

variable {s : Scope} {filter : String} {db : Statement → Reply}
  {status : Option Context.Interruption} {peer : Peer}

lemma statements_of_isIdle {es : List Exchange} (h : ∀ e ∈ es, e.IsIdle) : statements es = [] :=
  List.filterMap_eq_nil_iff.mpr fun e he => (h e he).1

/-- A listing sends what it sends for its page, and this decides what comes of it. -/
lemma talk_list (store : Store) (token : String) (size : Int) (hpeer : peer.IsStill db status)
    {predicate : Option String} (hp : store.predicate? s.anchor filter = .ok predicate)
    {es : List Exchange} {r : Except Error (List (Int × String) × Int)}
    (h : (guarded ((if store.options.snapshotListing then readSnapshot else readPage) s predicate
      (store.cursor.decode (peer [] .clock).unixSeconds 0 token)
      (store.options.pageSize size))).Runs db status es r) :
    let listing := (store.list s filter token size).run.talk peer []
    statements listing.1 = statements es
      ∧ ((∀ e ∈ listing.1, e.verdict? = none) ↔ ∀ e ∈ es, e.verdict? = none)
      ∧ Paginates store.cursor s r listing.2 := by
  have htail : ∃ tail result, (store.list s filter token size).run.talk peer []
        = (⟨.clock, peer [] .clock⟩ :: (es ++ tail), result)
      ∧ (∀ e ∈ tail, e.IsIdle) ∧ Paginates store.cursor s r result := by
    rw [list_eq, hp, fromExcept_ok_bind, talk_ask_bind, run_bind_eq, Program.talk_bind,
      h peer hpeer]
    cases r with
    | error err => exact ⟨[], .error err, rfl, by simp, rfl⟩
    | ok read => exact ⟨_, _, rfl, talks_paginate (Program.talks_talk _ _ _)⟩
  obtain ⟨tail, result, htalk, hidle, hresult⟩ := htail
  have hclock : Exchange.IsIdle ⟨.clock, peer [] .clock⟩ := ⟨rfl, rfl⟩
  rw [htalk]
  refine ⟨?_, ?_, hresult⟩
  · show statements (es ++ tail) = statements es
    rw [statements_append, statements_of_isIdle hidle, List.append_nil]
  · rw [List.forall_mem_cons, List.forall_mem_append]
    exact ⟨fun h => h.2.1, fun h => ⟨hclock.2, h, fun e he => (hidle e he).2⟩⟩

end

lemma statements_map_over (db : Statement → Reply) (sts : List Statement) :
    statements (sts.map (.over db)) = sts := by
  induction sts with
  | nil => rfl
  | cons st sts ih => exact congrArg (st :: ·) ih

lemma verdict?_over_of_transaction {db : Statement → Reply}
    (h : ∀ st ∈ [.begin, .snapshot, .commit], ∃ a, db st = .answered a) {st : Statement}
    (hst : st ∈ [Statement.begin, .snapshot, .commit]) : (Exchange.over db st).verdict? = none := by
  obtain ⟨a, ha⟩ := h st hst
  simp only [List.mem_cons, List.not_mem_nil, or_false] at hst
  rcases hst with rfl | rfl | rfl <;> exact verdict?_over.mpr ⟨a, ha, rfl⟩

/-- In a transaction, two statements are sent before the others, and one behind them if there is a
result. -/
lemma statements_transaction {db : Statement → Reply}
    (htransaction : ∀ st ∈ [.begin, .snapshot, .commit], ∃ a, db st = .answered a)
    {es : List Exchange} {r : Except Error α}
    (hsound : (∃ a, r = .ok a) ↔ ∀ e ∈ es, e.verdict? = none) :
    let all : List Exchange := ⟨.status, (none : Option Context.Interruption)⟩
      :: .over db .begin :: .over db .snapshot :: (es ++ closing db r)
    statements all = [.begin, .snapshot] ++ statements es
      ++ if ∀ e ∈ all, e.verdict? = none then [.commit] else [] := by
  have hstatements : ∀ rest, statements (⟨.status, (none : Option Context.Interruption)⟩
      :: .over db .begin :: .over db .snapshot :: (es ++ rest))
      = [.begin, .snapshot] ++ statements es ++ statements rest := by
    intro rest
    rw [List.append_assoc, ← statements_append]
    rfl
  have hnone : ∀ st ∈ [Statement.begin, .snapshot, .commit],
      (Exchange.over db st).verdict? = none := fun st => verdict?_over_of_transaction htransaction
  simp only [List.forall_mem_cons] at hnone
  obtain ⟨hbegin, hsnapshot, hcommit, -⟩ := hnone
  dsimp only
  rw [hstatements]
  cases r with
  | ok a =>
    rw [if_pos]
    · rfl
    · have hes := hsound.mp ⟨a, rfl⟩
      simp only [List.forall_mem_cons, List.forall_mem_append, closing]
      exact ⟨rfl, hbegin, hsnapshot, hes, hcommit, by simp⟩
  | error err =>
    rw [if_neg]
    · rfl
    · intro hall
      simp only [List.forall_mem_cons, List.forall_mem_append] at hall
      obtain ⟨a, ha⟩ := hsound.mpr hall.2.2.2.1
      cases ha

/-- **A listing in a transaction is the listing without one,** over tables that stand still, as
long as its token is good for both or for neither. It has the same rows and a token for the same
id, or no token, or it fails in the same way. Both send the same for their page; the greatest id is
asked for where the page is not empty. The transaction is committed if nothing failed in it. A
filter that is refused, or a call that is given up, sends nothing at all. -/
theorem snapshot_lists_the_same (store : Store) (s : Scope) (filter token : String) (size : Int)
    {db : Statement → Reply} {status : Option Context.Interruption} {peer peer' : Peer}
    (hpeer : peer.IsStill db status) (hpeer' : peer'.IsStill db status)
    (htransaction : ∀ st ∈ [Statement.begin, .snapshot, .commit], ∃ a, db st = .answered a)
    (htoken : store.cursor.decode (peer' [] .clock).unixSeconds 0 token
      = store.cursor.decode (peer [] .clock).unixSeconds 0 token) :
    let plain := ((store.withSnapshot false).list s filter token size).run.talk peer []
    let snapshot := ((store.withSnapshot true).list s filter token size).run.talk peer' []
    Outcomes (SamePage store.cursor) plain.2 snapshot.2
    ∧ (∀ predicate, store.predicate? s.anchor filter = .ok predicate → status = none →
      statements plain.1 = pageStatements db s predicate
        (store.cursor.decode (peer [] .clock).unixSeconds 0 token) (store.options.pageSize size)
      ∧ statements snapshot.1 = [.begin, .snapshot] ++ statements plain.1
        ++ if ∀ e ∈ snapshot.1, e.verdict? = none then [.commit] else [])
    ∧ ((∃ err, store.predicate? s.anchor filter = .error err) ∨ status ≠ none →
      statements plain.1 = [] ∧ statements snapshot.1 = []) := by
  dsimp only
  cases hp : store.predicate? s.anchor filter with
  | error err =>
    have hrefused : ∀ b, ((store.withSnapshot b).list s filter token size).run
        = .done (.error err) := fun b => run_list_of_error s token size hp
    rw [hrefused, hrefused]
    exact ⟨rfl, nofun, fun _ => ⟨rfl, rfl⟩⟩
  | ok predicate =>
    cases status with
    | some i =>
      -- the reads differ, but neither of them is begun
      obtain ⟨hplain, -, hresult⟩ := talk_list (store.withSnapshot false) token size
        hpeer hp (runs_guarded_interrupted _ i)
      obtain ⟨hsnapshot, -, hresult'⟩ := talk_list (store.withSnapshot true) token
        size hpeer' hp (runs_guarded_interrupted _ i)
      exact ⟨hresult.outcomes hresult', nofun, fun _ => ⟨hplain, hsnapshot⟩⟩
    | none =>
      -- one reading of the page, which the transaction is put around
      obtain ⟨r, hread, hsound⟩ := runs_readPage db none s predicate
        (store.cursor.decode (peer [] .clock).unixSeconds 0 token) (store.options.pageSize size)
      obtain ⟨hplain, -, hresult⟩ := talk_list (store.withSnapshot false) token size
        hpeer hp (runs_guarded hread)
      have hread' := runs_readSnapshot htransaction hread
      rw [← htoken] at hread'
      obtain ⟨hsnapshot, hverdict, hresult'⟩ := talk_list (store.withSnapshot true) token
        size hpeer' hp (runs_guarded hread')
      refine ⟨hresult.outcomes hresult', ?_, by simp⟩
      rintro _ ⟨⟩ -
      have hpage : statements (reading db s predicate
          (store.cursor.decode (peer [] .clock).unixSeconds 0 token)
          (store.options.pageSize size)) = _ := statements_map_over db _
      have hall := statements_transaction htransaction hsound
      refine ⟨hplain.trans hpage, ?_⟩
      rw [hsnapshot, hplain, if_congr hverdict rfl rfl, htoken]
      exact hall

/-- A database that always finds two notes on a page, and more behind them. -/
def pageOfTwo : Statement → Reply
  | .page .. => .answered (.rows [[.int 1, .text "first"], [.int 2, .text "second"]])
  | .maxId .. => .answered (.rows [[.int 5]])
  | _ => .answered (.affected 0)

/-- A peer with this database, where a clock and a source of random blocks stand still as well. -/
def stillPeer (db : Statement → Reply) (now : Time) (start : Cipher.Block) : Peer := fun _ r =>
  match r with
  | .status => (none : Option Context.Interruption)
  | .send st => db st
  | .clock => now
  | .randomBlock => start
  | .freshId => ""

/-- A page with more behind it, a minute later and in a transaction. -/
theorem snapshot_lists_the_same_page_of_two :
    let plain := ((strictStore.withSnapshot false).list (.notes "p") "" "" 2).run.talk
      (stillPeer pageOfTwo ⟨0, 0⟩ (.replicate 16 0)) []
    let snapshot := ((strictStore.withSnapshot true).list (.notes "p") "" "" 2).run.talk
      (stillPeer pageOfTwo ⟨60, 0⟩ (.replicate 16 1)) []
    Outcomes (SamePage strictStore.cursor) plain.2 snapshot.2
    ∧ statements plain.1 = [.page (.notes "p") none 0 2, .maxId (.notes "p") none]
    ∧ statements snapshot.1 = [.begin, .snapshot, .page (.notes "p") none 0 2,
      .maxId (.notes "p") none, .commit] := by
  have hstill : ∀ now start, (stillPeer pageOfTwo now start).IsStill pageOfTwo none :=
    fun _ _ => ⟨fun _ _ => rfl, fun _ => rfl⟩
  obtain ⟨hresult, hstatements, -⟩ := snapshot_lists_the_same strictStore (.notes "p") "" "" 2
    (hstill ⟨0, 0⟩ (.replicate 16 0)) (hstill ⟨60, 0⟩ (.replicate 16 1))
    (by simp [pageOfTwo]) rfl
  obtain ⟨hplain, hsnapshot⟩ := hstatements none rfl rfl
  refine ⟨hresult, hplain, hsnapshot.trans ?_⟩
  rw [hplain, if_pos (by decide +kernel)]
  rfl

end Store

end Catalog
