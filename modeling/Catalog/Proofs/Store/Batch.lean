import Catalog.Proofs.Json.Members
import Catalog.Proofs.Store.Discretion
import Catalog.Proofs.Store.Keyed

/-!
Batches beside single creations. A batch makes its creations in turn, each as it would be made by
itself: what one of them is told matters to no other, unless the call is given up; then this is the
result, and nothing more is said.
-/

namespace Catalog.Store

open Operation Record

variable {α ι : Type} {m : Type → Type} {ops : List (Operation α)}

/-! ### Results in turn -/

/-- The call was given up. -/
def isGivenUp : Except Error α → Bool
  | .ok _ => false
  | .error e => e.code = .cancelled || e.code = .deadlineExceeded

/-- The records of those that succeeded, or how the call was given up. -/
def outcome (results : List (Except Error α)) : Except Error (List α) :=
  match results.find? isGivenUp with
  | some (.error e) => .error e
  | _ => .ok (results.filterMap Except.toOption)

/-- The results of operations that are made one after the other, up to the first one in which the
call is given up. -/
def inTurn [Monad m] (world : (r : Request) → m r.Response) :
    List (Operation α) → m (List (Except Error α))
  | [] => pure []
  | op :: ops => do
    let r ← op.run.run world
    if isGivenUp r then return [r]
    return r :: (← inTurn world ops)

/-- The conversations of operations that are made one after the other, up to the first one in which
the call is given up. -/
inductive Tried : List (Operation α) → List (List Exchange × Except Error α) → Prop
  | nil : Tried [] []
  | stop {op : Operation α} {ops : List (Operation α)} {es : List Exchange} {r : Except Error α}
      (talks : op.run.Talks es r) (givenUp : isGivenUp r = true) : Tried (op :: ops) [(es, r)]
  | next {op : Operation α} {ops : List (Operation α)} {es : List Exchange} {r : Except Error α}
      {tried : List (List Exchange × Except Error α)} (talks : op.run.Talks es r)
      (goesOn : isGivenUp r = false) (rest : Tried ops tried) : Tried (op :: ops) ((es, r) :: tried)

lemma isGivenUp_error (e : Error) :
    isGivenUp (.error e : Except Error α) = e.code.isInterruption := by
  show (decide (e.code = .cancelled) || decide (e.code = .deadlineExceeded)) = _
  cases e.code <;> rfl

lemma outcome_ok (a : α) (results : List (Except Error α)) :
    outcome (.ok a :: results) = (outcome results).map (a :: ·) := by
  unfold outcome
  rw [List.find?_cons_of_neg (by simp [isGivenUp])]
  split <;> rfl

lemma outcome_error {e : Error} (h : isGivenUp (.error e : Except Error α) = false)
    (results : List (Except Error α)) : outcome (.error e :: results) = outcome results := by
  unfold outcome
  rw [List.find?_cons_of_neg (by simp [h])]
  rfl

lemma outcome_givenUp {e : Error} (h : isGivenUp (.error e : Except Error α) = true)
    (results : List (Except Error α)) : outcome (.error e :: results) = .error e := by
  unfold outcome
  rw [List.find?_cons_of_pos h]

/-- There are records unless the call was given up. -/
lemma outcome_eq_ok {results : List (Except Error α)} {as : List α} :
    outcome results = .ok as ↔
      (∀ r ∈ results, isGivenUp r = false) ∧ as = results.filterMap Except.toOption := by
  induction results generalizing as with
  | nil => exact ⟨fun h => by cases h; simp, fun h => by rw [h.2]; rfl⟩
  | cons r results ih =>
    rw [List.forall_mem_cons]
    cases r with
    | ok a =>
      have hfilter : (.ok a :: results).filterMap Except.toOption
          = a :: results.filterMap Except.toOption := rfl
      rw [outcome_ok, map_eq_ok, hfilter]
      constructor
      · rintro ⟨as, h, rfl⟩
        obtain ⟨hnone, rfl⟩ := ih.mp h
        exact ⟨⟨rfl, hnone⟩, rfl⟩
      · rintro ⟨⟨-, hnone⟩, rfl⟩
        exact ⟨_, ih.mpr ⟨hnone, rfl⟩, rfl⟩
    | error e =>
      rw [List.filterMap_cons_none rfl]
      cases h : isGivenUp (.error e : Except Error α) with
      | true => simp [outcome_givenUp h]
      | false => simp [outcome_error h, ih]

/-! ### Batches in turn -/

lemma run_keepCreated_cons (op : Operation α) (ops : List (Operation α)) :
    (keepCreated (op :: ops)).run = op.run >>= fun r => match r with
      | .ok a => Except.map (a :: ·) <$> (keepCreated ops).run
      | .error e => if isGivenUp (.error e : Except Error α) then .done (.error e)
        else (keepCreated ops).run := by
  rw [keepCreated_cons, run_bind_eq, attempt, ExceptT.run_mk, Program.bind_assoc]
  congr 1
  funext r
  cases r with
  | ok a =>
    rw [Program.bind_done]
    exact ExceptT.run_map _ _
  | error e =>
    simp only [isGivenUp_error, Program.bind_done]
    split <;> rfl

/-- In every world, a batch comes to what its items come to in turn. -/
lemma run_keepCreated [Monad m] [LawfulMonad m] (world : (r : Request) → m r.Response)
    (ops : List (Operation α)) :
    (keepCreated ops).run.run world = outcome <$> inTurn world ops := by
  induction ops with
  | nil =>
    rw [inTurn, map_pure]
    rfl
  | cons op ops ih =>
    rw [run_keepCreated_cons, Program.run_bind, inTurn, map_bind]
    congr 1
    funext r
    cases r with
    | ok a =>
      have hok : ∀ results, outcome (.ok a :: results) = Except.map (a :: ·) (outcome results) :=
        outcome_ok a
      simp only [isGivenUp, Bool.false_eq_true, if_false, map_eq_pure_bind, bind_assoc, pure_bind,
        Program.run_bind, hok]
      rw [ih]
      simp only [map_eq_pure_bind, bind_assoc, pure_bind]
      rfl
    | error e =>
      cases h : isGivenUp (.error e : Except Error α) with
      | true =>
        simp only [h, if_true, map_pure, outcome_givenUp h]
        rfl
      | false =>
        simp only [h, Bool.false_eq_true, if_false, map_eq_pure_bind, bind_assoc, pure_bind,
          outcome_error h]
        rw [ih, map_eq_pure_bind]

lemma exists_tried {es : List Exchange} {r : Except Error (List α)}
    (h : (keepCreated ops).run.Talks es r) : ∃ tried, Tried ops tried
      ∧ es = tried.flatMap Prod.fst ∧ r = outcome (tried.map Prod.snd) := by
  induction ops generalizing es r with
  | nil =>
    cases h
    exact ⟨[], .nil, rfl, rfl⟩
  | cons op ops ih =>
    rw [run_keepCreated_cons] at h
    obtain ⟨es₁, r₁, es₂, rfl, h₁, h₂⟩ := h.of_bind
    cases r₁ with
    | ok a =>
      obtain ⟨es₂, r₂, es₃, rfl, hrest, hmap⟩ := Program.Talks.of_bind h₂
      cases hmap
      obtain ⟨tried, htried, rfl, rfl⟩ := ih hrest
      exact ⟨(es₁, .ok a) :: tried, .next h₁ rfl htried, by simp, (outcome_ok a _).symm⟩
    | error e =>
      cases he : isGivenUp (.error e : Except Error α) with
      | true =>
        simp only [he, if_true] at h₂
        cases h₂
        exact ⟨[(es₁, .error e)], .stop h₁ he, by simp, (outcome_givenUp he _).symm⟩
      | false =>
        simp only [he, Bool.false_eq_true, if_false] at h₂
        obtain ⟨tried, htried, rfl, rfl⟩ := ih h₂
        exact ⟨(es₁, .error e) :: tried, .next h₁ he htried, by simp, (outcome_error he _).symm⟩

lemma Tried.talks {tried : List (List Exchange × Except Error α)} (h : Tried ops tried) :
    (keepCreated ops).run.Talks (tried.flatMap Prod.fst) (outcome (tried.map Prod.snd)) := by
  induction h with
  | nil => exact .done _
  | @stop op ops es r talks givenUp =>
    obtain ⟨e, rfl⟩ : ∃ e, r = .error e := by
      cases r with
      | ok a => cases givenUp
      | error e => exact ⟨e, rfl⟩
    rw [run_keepCreated_cons]
    refine talks.bind ?_
    simp only [givenUp, if_true, List.map_cons, outcome_givenUp givenUp]
    exact .done _
  | @next op ops es r tried talks goesOn rest ih =>
    rw [run_keepCreated_cons, List.flatMap_cons]
    refine talks.bind ?_
    cases r with
    | ok a =>
      rw [List.map_cons, outcome_ok, ← List.append_nil (tried.flatMap Prod.fst)]
      exact Program.Talks.bind ih (.done _)
    | error e =>
      rw [List.map_cons, outcome_error goesOn]
      simpa only [goesOn, Bool.false_eq_true, if_false] using ih

/-- The conversations of a batch are those of its items in turn. -/
lemma talks_keepCreated {es : List Exchange} {r : Except Error (List α)} :
    (keepCreated ops).run.Talks es r ↔ ∃ tried, Tried ops tried
      ∧ es = tried.flatMap Prod.fst ∧ r = outcome (tried.map Prod.snd) := by
  constructor
  · exact exists_tried
  · rintro ⟨tried, htried, rfl, rfl⟩
    exact htried.talks

/-- Nothing is said to an operation that is refused, and the next one is tried. -/
lemma Tried.of_refused {op : Operation α} {tried : List (List Exchange × Except Error α)}
    (hop : IsRefused op) (h : Tried (op :: ops) tried) :
    ∃ e rest, tried = ([], .error e) :: rest ∧ Tried ops rest := by
  obtain ⟨e, hrun, he⟩ := hop
  cases h with
  | stop talks givenUp =>
    rw [hrun] at talks
    cases talks
    rw [isGivenUp_error, he] at givenUp
    cases givenUp
  | next talks goesOn rest =>
    rw [hrun] at talks
    cases talks
    exact ⟨e, _, rfl, rest⟩

/-! ### What is sent -/

namespace Operation

/-- The operation sends the one statement that is due, unless it is given up before. -/
def SendsOne (due : Statement → Prop) (op : Operation α) : Prop :=
  ∀ es r, op.run.Talks es r →
    (∃ st, statements es = [st] ∧ due st) ∨ statements es = [] ∧ isGivenUp r = true

variable {due : Statement → Prop}

lemma sendsOne_ask {q : Request} (hq : q ∈ [.clock, .randomBlock, .freshId])
    {f : q.Response → Operation α} (h : ∀ answer, (f answer).SendsOne due) :
    (ask q >>= f).SendsOne due := by
  intro es r ht
  obtain ⟨answer, rest, hrest, -, hstatements⟩ := talks_ask_idle hq ht
  rw [hstatements]
  exact h answer rest r hrest

lemma sendsOne_create {st : Statement} {failure : Failure → Error} {a : α} (h : due st) :
    (discard (guarded (execute st failure)) >>= fun _ => pure a).SendsOne due := by
  intro es r ht
  rcases talks_create ht with ⟨i, rfl, rfl⟩ | ⟨reply, rfl, -⟩
  · exact .inr ⟨rfl, by cases i <;> rfl⟩
  · exact .inl ⟨st, rfl, h⟩

end Operation

/-- The statement that puts in such a note at some time. -/
def NoteDue (p : String) (x : String × Note) (st : Statement) : Prop :=
  ∃ now, st = .insertNote p x.1 (createdNote p x.1 now x.2).payload

/-- The statement that puts in such an occurrence, under some id and at some time, beside the parts
of the name of its note. -/
def OccurrenceDue (p : String) (o : Occurrence) (st : Statement) : Prop :=
  ∃ id now noteProject noteId, noteReference o = .ok (noteProject, noteId)
    ∧ st = .insertOccurrence p id noteProject noteId (createdOccurrence p id now o).payload

lemma sendsOne_createNote (p : String) (x : String × Note) :
    (createNote p x.1 x.2).SendsOne (NoteDue p x) :=
  sendsOne_ask (by simp) fun now => sendsOne_create ⟨now, rfl⟩

lemma sendsOne_createOccurrence (p : String) {o : Occurrence} (h : Task.isMalformed o = false) :
    (createOccurrence p o).SendsOne (OccurrenceDue p o) := by
  rcases noteReference_cases o with ⟨⟨q, j⟩, href, -⟩ | ⟨-, hnot⟩
  · rw [createOccurrence, href, fromExcept_ok_bind]
    exact sendsOne_ask (by simp) fun id => sendsOne_ask (by simp) fun now =>
      sendsOne_create ⟨id, now, q, j, href, rfl⟩
  · rw [h] at hnot
    cases hnot

/-! ### Items in turn -/

/-- A batch makes its items in turn: in every world it comes to what they come to. Each of the
senders among them sends its statement, the others nothing, up to the one in which the call is given
up; and what was carried out by then stays. -/
structure IsInTurn (batch : Operation (List α)) (op : ι → Operation α) (xs senders : List ι)
    (due : ι → Statement → Prop) (inserts : Statement → α → Prop) : Prop where
  run_eq : ∀ {m : Type → Type} [Monad m] [LawfulMonad m] (world : (r : Request) → m r.Response),
    batch.run.run world = outcome <$> inTurn world (xs.map op)
  talks_iff : ∀ es r, batch.run.Talks es r ↔ ∃ tried, Tried (xs.map op) tried
    ∧ es = tried.flatMap Prod.fst ∧ r = outcome (tried.map Prod.snd)
  sends : ∀ tried, Tried (xs.map op) tried → ∃ sent, sent <+: senders
    ∧ List.Forall₂ due sent (statements (tried.flatMap Prod.fst))
    ∧ ((∀ r ∈ tried.map Prod.snd, isGivenUp r = false) → sent = senders)
  creates : ∀ tried, Tried (xs.map op) tried → List.Forall₂ inserts
    (accepted (tried.flatMap Prod.fst)) ((tried.map Prod.snd).filterMap Except.toOption)
  keeps : ∀ es as, batch.run.Talks es (.ok as) →
    List.Forall₂ due senders (statements es) ∧ List.Forall₂ inserts (accepted es) as
  stops : ∀ es e, batch.run.Talks es (.error e) → isGivenUp (.error e : Except Error α) = true
    ∧ ∃ before x rest tried es', xs = before ++ x :: rest ∧ Tried (before.map op) tried
      ∧ (∀ r ∈ tried.map Prod.snd, isGivenUp r = false)
      ∧ (op x).run.Talks es' (.error e) ∧ es = tried.flatMap Prod.fst ++ es'

section

variable {op : ι → Operation α} {xs : List ι} {inserts : Statement → α → Prop}
  {tried : List (List Exchange × Except Error α)}

lemma Tried.sends {due : ι → Statement → Prop} {isSender : ι → Bool}
    (hsends : ∀ x, isSender x = true → (op x).SendsOne (due x))
    (hrefused : ∀ x, isSender x = false → IsRefused (op x)) (h : Tried (xs.map op) tried) :
    ∃ sent, sent <+: xs.filter isSender
      ∧ List.Forall₂ due sent (statements (tried.flatMap Prod.fst))
      ∧ ((∀ r ∈ tried.map Prod.snd, isGivenUp r = false) → sent = xs.filter isSender) := by
  induction xs generalizing tried with
  | nil =>
    cases h
    exact ⟨[], List.nil_prefix, .nil, fun _ => rfl⟩
  | cons x xs ih =>
    rw [List.map_cons] at h
    cases hx : isSender x with
    | false =>
      rw [List.filter_cons_of_neg (by simp [hx])]
      obtain ⟨e, rest, rfl, hrest⟩ := h.of_refused (hrefused x hx)
      obtain ⟨sent, hprefix, hdue, hall⟩ := ih hrest
      exact ⟨sent, hprefix, hdue, fun h => hall fun r hr => h r (List.mem_cons_of_mem _ hr)⟩
    | true =>
      rw [List.filter_cons_of_pos hx]
      cases h with
      | @stop _ _ es r talks givenUp =>
        have hnot : ¬∀ r' ∈ [(es, r)].map Prod.snd, isGivenUp r' = false := by simp [givenUp]
        -- given up while its statement was out, or before it was sent
        rcases hsends x hx _ _ talks with ⟨st, hst, hdue⟩ | ⟨hst, -⟩
        · exact ⟨[x], List.prefix_append [x] _, by simpa [hst] using hdue, fun h => absurd h hnot⟩
        · exact ⟨[], List.nil_prefix, by simp [hst], fun h => absurd h hnot⟩
      | next talks goesOn rest =>
        obtain ⟨sent, hprefix, hdue, hall⟩ := ih rest
        rcases hsends x hx _ _ talks with ⟨st, hst, hfirst⟩ | ⟨-, hgiven⟩
        · refine ⟨x :: sent, List.cons_prefix_cons.mpr ⟨rfl, hprefix⟩, ?_, fun h => ?_⟩
          · rw [List.flatMap_cons, statements_append, hst]
            exact .cons hfirst hdue
          · rw [hall fun r hr => h r (List.mem_cons_of_mem _ hr)]
        · rw [goesOn] at hgiven
          cases hgiven

/-- One more operation adds its record, or nothing. -/
lemma Operation.Adds.cons {op : Operation α} {es es' : List Exchange} {r : Except Error α}
    {results : List (Except Error α)} (hadds : op.Adds inserts) (talks : op.run.Talks es r)
    (h : List.Forall₂ inserts (accepted es') (results.filterMap Except.toOption)) :
    List.Forall₂ inserts (accepted (es ++ es'))
      ((r :: results).filterMap Except.toOption) := by
  have hadded := hadds _ _ talks
  rw [accepted_append]
  cases r with
  | ok a =>
    obtain ⟨st, hst, ha⟩ := hadded
    rw [hst]
    exact .cons ha h
  | error e =>
    rw [hadded]
    exact h

lemma Tried.creates (hadds : ∀ x, (op x).Adds inserts) (h : Tried (xs.map op) tried) :
    List.Forall₂ inserts (accepted (tried.flatMap Prod.fst))
      ((tried.map Prod.snd).filterMap Except.toOption) := by
  induction xs generalizing tried with
  | nil =>
    cases h
    exact .nil
  | cons x xs ih =>
    rw [List.map_cons] at h
    cases h with
    | stop talks givenUp => exact (hadds x).cons talks .nil
    | next talks goesOn rest => exact (hadds x).cons talks (ih rest)

/-- The call was given up in an item, behind which there is none that was tried. -/
lemma Tried.stops {e : Error} (h : Tried (xs.map op) tried)
    (hr : outcome (tried.map Prod.snd) = .error e) :
    isGivenUp (.error e : Except Error α) = true
    ∧ ∃ before x rest tried' es', xs = before ++ x :: rest ∧ Tried (before.map op) tried'
      ∧ (∀ r ∈ tried'.map Prod.snd, isGivenUp r = false)
      ∧ (op x).run.Talks es' (.error e)
      ∧ tried.flatMap Prod.fst = tried'.flatMap Prod.fst ++ es' := by
  induction xs generalizing tried with
  | nil =>
    cases h
    cases hr
  | cons x xs ih =>
    rw [List.map_cons] at h
    cases h with
    | @stop _ _ es r talks givenUp =>
      cases r with
      | ok a => cases givenUp
      | error e' =>
        rw [List.map_cons, outcome_givenUp givenUp] at hr
        cases hr
        exact ⟨givenUp, [], x, xs, [], es, rfl, .nil, by simp, talks, by simp⟩
    | @next _ _ es r tried talks goesOn rest =>
      have hrest : outcome (tried.map Prod.snd) = .error e := by
        cases r with
        | ok a =>
          rw [List.map_cons, outcome_ok] at hr
          exact map_eq_error.mp hr
        | error e' => rwa [List.map_cons, outcome_error goesOn] at hr
      obtain ⟨hgiven, before, y, rest', tried', es', rfl, htried, hall, hy, hes⟩ := ih rest hrest
      refine ⟨hgiven, x :: before, y, rest', (es, r) :: tried', es', rfl, .next talks goesOn htried,
        List.forall_mem_cons.mpr ⟨goesOn, hall⟩, hy, ?_⟩
      rw [List.flatMap_cons, hes, List.flatMap_cons, List.append_assoc]

lemma isInTurn_keepCreated {due : ι → Statement → Prop} {isSender : ι → Bool}
    (hsends : ∀ x, isSender x = true → (op x).SendsOne (due x))
    (hrefused : ∀ x, isSender x = false → IsRefused (op x))
    (hadds : ∀ x, (op x).Adds inserts) (xs : List ι) :
    IsInTurn (keepCreated (xs.map op)) op xs (xs.filter isSender) due inserts where
  run_eq world := run_keepCreated world _
  talks_iff es r := talks_keepCreated
  sends tried h := h.sends hsends hrefused
  creates tried h := h.creates hadds
  keeps es as h := by
    obtain ⟨tried, htried, rfl, has⟩ := talks_keepCreated.mp h
    obtain ⟨hall, rfl⟩ := outcome_eq_ok.mp has.symm
    obtain ⟨sent, -, hdue, hsent⟩ := htried.sends hsends hrefused
    rw [hsent hall] at hdue
    exact ⟨hdue, htried.creates hadds⟩
  stops es e h := by
    obtain ⟨tried, htried, rfl, hr⟩ := talks_keepCreated.mp h
    exact htried.stops hr.symm

end

/-! ### Keys that are taken -/

section

variable {e : Engine} {t t' t'' : Tables e} {p : String} {ms : List (String × Note)}

/-- The key of the note is taken. -/
def Tables.hasNote (t : Tables e) (p i : String) : Bool :=
  (t.payload? "notes" (noteKeys p i)).isSome

/-- The engine takes the notes, whenever they are created. -/
structure Engine.TakesNotes (e : Engine) (p : String) (ms : List (String × Note)) : Prop where
  project : e.takes p
  id : ∀ x ∈ ms, e.takes x.1
  payload : ∀ x ∈ ms, ∀ now : Time, now.IsValid →
    e.takes (createdNote p x.1 now x.2).payload
      ∧ (e.jsonb (createdNote p x.1 now x.2).payload).isSome

/-- Of the notes those are put into the tables whose keys were free, and nothing else changes. -/
structure Tables.Gains (t : Tables e) (p : String) (ms : List (String × Note)) (as : List Note)
    (t' : Tables e) : Prop where
  created : List.Forall₂ (fun x a => (∃ now, a = createdNote p x.1 now x.2)
    ∧ t'.hasNote p x.1 ∧ t'.payload? "notes" (noteKeys p x.1) = e.jsonb a.payload)
    (ms.filter fun x => !t.hasNote p x.1) as
  notes : ∀ q i, (q = p → i ∈ ms.map Prod.fst → t.hasNote p i) →
    t'.payload? "notes" (noteKeys q i) = t.payload? "notes" (noteKeys q i)
  elsewhere : ∀ table ≠ "notes", ∀ keys, t'.payload? table keys = t.payload? table keys

lemma Tables.gains_nil (t : Tables e) (p : String) : t.Gains p [] [] t :=
  ⟨.nil, fun _ _ _ => rfl, fun _ _ _ => rfl⟩

lemma Tables.Puts.note_eq {q i j : String} {found : Option String}
    (h : t.Puts "notes" (noteKeys p i) found t') (hne : (q, j) ≠ (p, i)) :
    t'.payload? "notes" (noteKeys q j) = t.payload? "notes" (noteKeys q j) :=
  h.other _ rfl fun heq => hne (by simpa [noteKeys] using heq)

/-- One more note is put in before the others, unless its key is taken. -/
lemma Tables.Gains.cons {x : String × Note} {kept : String} {now : Time} {as : List Note}
    (hputs : t.Puts "notes" (noteKeys p x.1)
      (some ((t.payload? "notes" (noteKeys p x.1)).getD kept)) t')
    (hkept : e.jsonb (createdNote p x.1 now x.2).payload = some kept)
    (hx : x.1 ∉ ms.map Prod.fst) (h : t'.Gains p ms as t'') :
    t.Gains p (x :: ms) (if t.hasNote p x.1 then as else createdNote p x.1 now x.2 :: as) t'' := by
  have hsame : ∀ i ∈ ms.map Prod.fst, t'.hasNote p i = t.hasNote p i := fun i hi => by
    have hne : (p, i) ≠ (p, x.1) := by
      rintro heq
      exact hx ((Prod.mk.inj heq).2 ▸ hi)
    rw [hasNote, hputs.note_eq hne, hasNote]
  -- so the same ones of the others are put in, whether the first was or not
  have hfilter : (ms.filter fun y => !t'.hasNote p y.1) = ms.filter fun y => !t.hasNote p y.1 :=
    List.filter_congr fun y hy => by rw [hsame _ (List.mem_map_of_mem hy)]
  have hself : t''.payload? "notes" (noteKeys p x.1)
      = some ((t.payload? "notes" (noteKeys p x.1)).getD kept) := by
    rw [h.notes p x.1 fun _ hmem => absurd hmem hx, hputs.self]
  refine ⟨?_, fun q i hold => ?_, fun table hne keys => ?_⟩
  · have hcreated := h.created
    rw [hfilter] at hcreated
    cases hhas : t.hasNote p x.1 with
    | true =>
      rw [List.filter_cons_of_neg (by simp [hhas])]
      exact hcreated
    | false =>
      rw [List.filter_cons_of_pos (by simp [hhas])]
      rw [hasNote, Option.isSome_eq_false_iff, Option.isNone_iff_eq_none] at hhas
      rw [hhas, Option.getD_none] at hself
      exact .cons ⟨⟨now, rfl⟩, by rw [hasNote, hself]; rfl, by rw [hself, hkept]⟩ hcreated
  · by_cases heq : (q, i) = (p, x.1)
    · obtain ⟨rfl, rfl⟩ := Prod.mk.inj heq
      obtain ⟨old, hsome⟩ := Option.isSome_iff_exists.mp (hold rfl List.mem_cons_self)
      rw [hself, hsome, Option.getD_some]
    · rw [h.notes q i fun hq hi => ?_, hputs.note_eq heq]
      rw [hsame i hi]
      exact hold hq (List.mem_cons_of_mem _ hi)
  · rw [h.elsewhere table hne, hputs.elsewhere table hne]

/-- As many notes are put in as have free keys. -/
lemma Tables.Gains.length_eq {as : List Note} (h : t.Gains p ms as t') :
    as.length + ms.countP (fun x => t.hasNote p x.1) = ms.length := by
  rw [← h.created.length_eq, ← List.countP_eq_length_filter]
  have hsum := List.length_eq_countP_add_countP (fun x : String × Note => t.hasNote p x.1) (l := ms)
  simpa [add_comm] using hsum.symm

end

namespace Service

variable {v : Service} {p : String} {ms : List (String × Note)}

lemma run_keepCreated_cons (op : Operation α) (ops : List (Operation α))
    (c : Situation v.engine) : v.run (keepCreated (op :: ops)) c = match v.run op c with
      | (.ok a, c') => (v.run (keepCreated ops) c').map (.map (a :: ·)) id
      | (.error e, c') => if e.code.isInterruption then (.error e, c')
        else v.run (keepCreated ops) c' := by
  rw [keepCreated_cons, run_bind, run_attempt]
  rcases v.run op c with ⟨a | e, c'⟩
  · simp only
    split <;> rfl
  · exact run_map _ _ _

/-- Where nothing else fails, a batch puts in the notes whose keys are free. -/
lemma Calm.keepCreated_notes (hv : v.Calm) (htakes : v.engine.TakesNotes p ms)
    (hnodup : (ms.map Prod.fst).Nodup) (c : Situation v.engine)
    (hserial : ∀ n < (c.tables "notes").drawn + ms.length, (v.engine.serial n).isSome) :
    ∃ as c', v.run (keepCreated (ms.map fun x => Store.createNote p x.1 x.2)) c = (.ok as, c')
      ∧ c.tables.Gains p ms as c'.tables := by
  induction ms generalizing c with
  | nil => exact ⟨[], c, rfl, c.tables.gains_nil p⟩
  | cons x ms ih =>
    rw [List.map_cons, List.nodup_cons] at hnodup
    obtain ⟨hpayload, hjsonb⟩ := htakes.payload x List.mem_cons_self _
      (v.occasions c.moment).time_valid
    obtain ⟨kept, hkept⟩ := Option.isSome_iff_exists.mp hjsonb
    obtain ⟨c₁, hrun, hputs⟩ := hv.createNote rfl hkept
      (by simpa using ⟨htakes.project, htakes.id x List.mem_cons_self, hpayload⟩)
      (hserial _ (by simp))
    have hdrawn := hputs.drawn_le "notes"
    obtain ⟨as, c', hrest, hgains⟩ := ih
      ⟨htakes.project, fun y hy => htakes.id y (List.mem_cons_of_mem _ hy),
        fun y hy => htakes.payload y (List.mem_cons_of_mem _ hy)⟩ hnodup.2 c₁
      fun n hn => hserial n (by rw [List.length_cons]; omega)
    refine ⟨_, c', ?_, hgains.cons hputs hkept hnodup.1⟩
    rw [List.map_cons, run_keepCreated_cons, hrun, Tables.hasNote]
    cases (c.tables.payload? "notes" (noteKeys p x.1)).isSome with
    | true => exact hrest
    | false => simp only [Bool.false_eq_true, if_false, hrest]; rfl

end Service

/-! ### All batches -/

/-- **A batch creates what its items would create one by one.** Notes are created in the order of
their ids, occurrences in the order they are given in, each as it would be by itself. The records of
those that succeed are returned, and a failure does not matter to the others; but if the call is
given up in one of them, that is the result, and nothing is sent behind it. So where nothing else
goes wrong, just those notes are created and returned whose keys were free. -/
theorem batch_creates_in_turn (p : String) (ns : List (String × Note)) (os : List Occurrence) :
    (Json.Sorted (Json.sortMembers ns)
      ∧ ((ns.map Prod.fst).Nodup → (Json.sortMembers ns).Perm ns))
    ∧ IsInTurn (createNotes p ns) (fun x => createNote p x.1 x.2) (Json.sortMembers ns)
      (Json.sortMembers ns) (NoteDue p) (fun st n => st.Inserts (.note n))
    ∧ IsInTurn (createOccurrences p os) (createOccurrence p) os
      (os.filter fun o => !Task.isMalformed o) (OccurrenceDue p)
      (fun st o => st.Inserts (.occurrence o))
    ∧ ∀ (v : Service) (c : Situation v.engine), v.Calm →
      v.engine.TakesNotes p (Json.sortMembers ns) →
      (∀ n < (c.tables "notes").drawn + (Json.sortMembers ns).length,
        (v.engine.serial n).isSome) →
      ∃ as c', v.run (createNotes p ns) c = (.ok as, c')
        ∧ c.tables.Gains p (Json.sortMembers ns) as c'.tables
        ∧ as.length + (Json.sortMembers ns).countP (fun x => c.tables.hasNote p x.1)
          = (Json.sortMembers ns).length := by
  refine ⟨⟨Json.sorted_sortMembers ns, Json.perm_sortMembers⟩, ?_, ?_,
    fun v c hv htakes hserial => ?_⟩
  · have h : IsInTurn (createNotes p ns) (fun x => createNote p x.1 x.2) (Json.sortMembers ns)
        ((Json.sortMembers ns).filter fun _ => true) (NoteDue p)
        (fun st n => st.Inserts (.note n)) :=
      isInTurn_keepCreated (fun x _ => sendsOne_createNote p x)
        (fun x hx => absurd hx (by simp)) (fun x => adds_createNote p x.1 x.2) _
    rwa [List.filter_true] at h
  · exact isInTurn_keepCreated (fun o ho => sendsOne_createOccurrence p (by simpa using ho))
      (fun o ho => isRefused_of_malformed (by simpa using ho)) (adds_createOccurrence p) os
  · obtain ⟨as, c', hrun, hgains⟩ :=
      hv.keepCreated_notes htakes (Json.sorted_sortMembers ns).nodup c hserial
    exact ⟨as, c', hrun, hgains, hgains.length_eq⟩

/-- An engine at which nothing goes wrong. -/
abbrev calmService : Service where
  engine := .keeping id id
  meaning _ _ := true
  occasions _ := ⟨none, none, .affected 0, ⟨0, 0⟩, valid_start, .replicate 16 0, ""⟩

/-- A note is there already when it is to be created beside another one. -/
theorem batch_creates_in_turn_beside :
    ∃ c as c', c.tables.hasNote "p" "b" = true
      ∧ calmService.run (createNotes "p" [("b", unsaid), ("a", unsaid)]) c = (.ok as, c')
      ∧ as.map Note.name = ["projects/p/notes/a"] := by
  have hcalm : calmService.Calm := fun _ => ⟨rfl, rfl⟩
  have hserial : ∀ n < 3, (calmService.engine.serial n).isSome := by decide
  have htakes : ∀ ms, calmService.engine.TakesNotes "p" ms := fun _ =>
    ⟨rfl, fun _ _ => rfl, fun _ _ _ _ => ⟨rfl, rfl⟩⟩
  -- the tables once the first note was created
  obtain ⟨c, -, hputs⟩ := hcalm.createNote (c := ⟨0, .empty⟩) rfl rfl
    (fun _ _ => rfl) (hserial 0 (by decide)) (n := unsaid)
  have hb : c.tables.hasNote "p" "b" = true := by
    rw [Tables.hasNote, hputs.self]
    rfl
  have ha : c.tables.hasNote "p" "a" = false := by
    rw [Tables.hasNote, hputs.note_eq (by decide)]
    rfl
  have hsorted : Json.sortMembers [("b", unsaid), ("a", unsaid)] = [("a", unsaid), ("b", unsaid)] :=
    rfl
  obtain ⟨as, c', hrun, hgains, -⟩ :=
    (batch_creates_in_turn "p" [("b", unsaid), ("a", unsaid)] []).2.2.2 calmService c hcalm
      (htakes _) fun n hn => hserial n (by
        have hdrawn : (c.tables "notes").drawn ≤ 0 + 1 := hputs.drawn_le "notes"
        rw [hsorted, List.length_cons, List.length_singleton] at hn
        omega)
  refine ⟨c, as, c', hb, hrun, ?_⟩
  have hcreated := hgains.created
  rw [hsorted] at hcreated
  simp only [List.filter_cons, ha, hb, List.filter_nil] at hcreated
  obtain ⟨a, _, ⟨⟨now, rfl⟩, -⟩, hnil, rfl⟩ := List.forall₂_cons_left_iff.mp hcreated
  cases hnil
  rfl

end Catalog.Store
