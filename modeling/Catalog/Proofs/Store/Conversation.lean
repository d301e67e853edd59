import Mathlib.Tactic.Common
import Catalog.Store.Program

/-!
What a program says and is told. Programs are finite, so against any peer, whatever this one makes
of what was said before, a conversation comes to a result.
-/

namespace Catalog.Store

variable {α β : Type}

/-- A request, and the answer to it. -/
structure Exchange where
  request : Request
  answer : request.Response

/-- The statement that is sent, if it is one. -/
def Exchange.statement? (e : Exchange) : Option Statement :=
  match e.request with
  | .send st => some st
  | _ => none

def statements (es : List Exchange) : List Statement := es.filterMap Exchange.statement?

lemma statements_append (es es' : List Exchange) :
    statements (es ++ es') = statements es ++ statements es' := List.filterMap_append

namespace Program

/-- The program says and is told all this, in order, and has this result. -/
inductive Talks : Program α → List Exchange → α → Prop
  | done (a : α) : Talks (.done a) [] a
  | ask {r : Request} {next : r.Response → Program α} (answer : r.Response) {es : List Exchange}
      {a : α} (rest : Talks (next answer) es a) : Talks (.ask r next) (⟨r, answer⟩ :: es) a

lemma Talks.bind {p : Program α} {f : α → Program β} {es es' : List Exchange} {a : α} {b : β}
    (h : Talks p es a) (h' : Talks (f a) es' b) : Talks (p >>= f) (es ++ es') b := by
  induction h with
  | done a => exact h'
  | ask answer _ ih => exact .ask answer (ih h')

/-- A conversation of a sequence is one of its first part, and then one of the second. -/
lemma Talks.of_bind {p : Program α} {f : α → Program β} {es : List Exchange} {b : β}
    (h : Talks (p >>= f) es b) :
    ∃ es₁ a es₂, es = es₁ ++ es₂ ∧ Talks p es₁ a ∧ Talks (f a) es₂ b := by
  induction p generalizing es with
  | done a => exact ⟨[], a, es, rfl, .done a, h⟩
  | ask r next ih =>
    rw [bind_ask] at h
    cases h with
    | ask answer rest =>
      obtain ⟨es₁, a, es₂, rfl, h₁, h₂⟩ := ih answer rest
      exact ⟨_ :: es₁, a, es₂, rfl, .ask answer h₁, h₂⟩

end Program

/-- Who answers a program, knowing all that was said before. -/
abbrev Peer : Type := List Exchange → (r : Request) → r.Response

/-- The conversation with a peer, behind what was said before, and the result. -/
def Program.talk (peer : Peer) (past : List Exchange) : Program α → List Exchange × α
  | done a => ([], a)
  | ask r next =>
    let e : Exchange := ⟨r, peer past r⟩
    let rest := (next (peer past r)).talk peer (past ++ [e])
    (e :: rest.1, rest.2)

lemma Program.talks_talk (peer : Peer) (past : List Exchange) (p : Program α) :
    p.Talks (p.talk peer past).1 (p.talk peer past).2 := by
  induction p generalizing past with
  | done a => exact .done a
  | ask r next ih => exact .ask _ (ih _ _)

lemma Program.talk_bind (peer : Peer) (past : List Exchange) (p : Program α) (f : α → Program β) :
    (p >>= f).talk peer past
      = ((p.talk peer past).1 ++ ((f (p.talk peer past).2).talk peer
          (past ++ (p.talk peer past).1)).1,
        ((f (p.talk peer past).2).talk peer (past ++ (p.talk peer past).1)).2) := by
  induction p generalizing past with
  | done a => simp [talk]
  | ask r next ih => simp [talk, ih]

/-- What a peer says to a request that it is asked is what it always says to it. -/
lemma Program.answer_of_mem_talk {peer : Peer} {r : Request} {answer : r.Response}
    (h : ∀ past, peer past r = answer) (past : List Exchange) (p : Program α) {e : Exchange}
    (he : e ∈ (p.talk peer past).1) (hr : e.request = r) : e = ⟨r, answer⟩ := by
  induction p generalizing past with
  | done a => cases he
  | ask r' next ih =>
    rcases List.mem_cons.mp he with rfl | he
    · obtain rfl : r' = r := hr
      rw [h]
    · exact ih _ _ he

end Catalog.Store
