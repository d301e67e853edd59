import Mathlib.Data.Finset.Insert
import Catalog.Proofs.Record.Storable
import Catalog.Proofs.Store.Keyed

/-!
A store without a database: a set of project ids, and notes and occurrences under their projects
and ids. Single records are created, read, replaced and removed in it.
-/

namespace Catalog.Store

open Record

/-- What a client asks of a store about one record. -/
inductive Action
  | createProject (id : String) (p : Project)
  | getProject (id : String)
  | deleteProject (id : String)
  | createNote (project id : String) (n : Note)
  | getNote (project id : String)
  | updateNote (project id : String) (n : Note)
  | deleteNote (project id : String)
  | createOccurrence (project : String) (o : Occurrence)
  | getOccurrence (project id : String)
  | updateOccurrence (project id : String) (o : Occurrence)
  | deleteOccurrence (project id : String)

/-- What a client is given. -/
inductive Given
  | project (p : Project)
  | note (n : Note)
  | occurrence (o : Occurrence)
  | removed

/-! ### One entry -/

section

variable {α : Type}

/-- The answer to a creation, and what is under the key afterwards. -/
def Entry.create (taken : Error) (a : α) : Option α → Except Error α × Option α
  | none => (.ok a, some a)
  | some old => (.error taken, some old)

def Entry.get (missing : Error) : Option α → Except Error α × Option α
  | none => (.error missing, none)
  | some a => (.ok a, some a)

def Entry.replace (missing : Error) (a : α) : Option α → Except Error α × Option α
  | none => (.error missing, none)
  | some _ => (.ok a, some a)

def Entry.remove (missing : Error) : Option α → Except Error Unit × Option α
  | none => (.error missing, none)
  | some _ => (.ok ⟨⟩, none)

end

/-! ### All entries -/

structure Registry where
  projects : Finset String
  /-- The notes by their projects and ids. -/
  notes : String × String → Option Note
  occurrences : String × String → Option Occurrence

namespace Registry

def empty : Registry := ⟨∅, fun _ => none, fun _ => none⟩

variable {α : Type}

def atNote (r : Registry) (key : String × String)
    (f : Option Note → Except Error α × Option Note) : Except Error α × Registry :=
  ((f (r.notes key)).1, { r with notes := Function.update r.notes key (f (r.notes key)).2 })

def atOccurrence (r : Registry) (key : String × String)
    (f : Option Occurrence → Except Error α × Option Occurrence) : Except Error α × Registry :=
  ((f (r.occurrences key)).1,
    { r with occurrences := Function.update r.occurrences key (f (r.occurrences key)).2 })

/-- The answer to an action, and the registry after it. -/
def answer (now : Time) (freshId : String) (r : Registry) : Action → Except Error Given × Registry
  | .createProject id _ =>
    if id ∈ r.projects then (.error (.alreadyExists .project (Name.project id)), r)
    else (.ok (.project (Project.ofId id)), { r with projects := insert id r.projects })
  | .getProject id =>
    if id ∈ r.projects then (.ok (.project (Project.ofId id)), r)
    else (.error (.missing .project (Name.project id)), r)
  | .deleteProject id =>
    if id ∈ r.projects then (.ok .removed, { r with projects := r.projects.erase id })
    else (.error (.missing .project (Name.project id)), r)
  | .createNote p i n => (r.atNote (p, i) (Entry.create (.alreadyExists .note (Name.note p i))
      (createdNote p i now n))).map (.map .note) id
  | .getNote p i => (r.atNote (p, i) (Entry.get (missingNote p i))).map (.map .note) id
  | .updateNote p i n =>
    (r.atNote (p, i) (Entry.replace (missingNote p i) (updatedNote p i now n))).map (.map .note) id
  | .deleteNote p i =>
    (r.atNote (p, i) (Entry.remove (missingNote p i))).map (.map fun _ => .removed) id
  | .createOccurrence p o =>
    match noteReference o with
    | .error e => (.error e, r)
    | .ok _ => (r.atOccurrence (p, freshId)
        (Entry.create (.alreadyExists .occurrence (Name.occurrence p freshId))
          (createdOccurrence p freshId now o))).map (.map .occurrence) id
  | .getOccurrence p i =>
    (r.atOccurrence (p, i) (Entry.get (missingOccurrence p i))).map (.map .occurrence) id
  | .updateOccurrence p i o =>
    match noteReference o with
    | .error e => (.error e, r)
    | .ok _ => (r.atOccurrence (p, i) (Entry.replace (missingOccurrence p i)
        (updatedOccurrence p i now o))).map (.map .occurrence) id
  | .deleteOccurrence p i =>
    (r.atOccurrence (p, i) (Entry.remove (missingOccurrence p i))).map (.map fun _ => .removed) id

end Registry

/-! ### Jobs -/

/-- An action, the time at which it is done, and the id that is made for what it creates. -/
structure Job where
  action : Action
  now : Time
  now_valid : now.IsValid
  freshId : String

/-- What was asked and answered in jobs that are done one after the other. -/
def history {σ : Type} (step : Job → σ → Except Error Given × σ) :
    List Job → σ → List (Action × Except Error Given)
  | [], _ => []
  | j :: jobs, s => (j.action, (step j s).1) :: history step jobs (step j s).2

/-- The operation of an action. -/
def Action.operation : Action → Operation Given
  | createProject id p => .project <$> Store.createProject id p
  | getProject id => .project <$> Store.getProject id
  | deleteProject id => (fun _ => .removed) <$> Store.deleteProject id
  | createNote p i n => .note <$> Store.createNote p i n
  | getNote p i => .note <$> Store.getNote p i
  | updateNote p i n => .note <$> Store.updateNote p i n
  | deleteNote p i => (fun _ => .removed) <$> Store.deleteNote p i
  | createOccurrence p o => .occurrence <$> Store.createOccurrence p o
  | getOccurrence p i => .occurrence <$> Store.getOccurrence p i
  | updateOccurrence p i o => .occurrence <$> Store.updateOccurrence p i o
  | deleteOccurrence p i => (fun _ => .removed) <$> Store.deleteOccurrence p i

/-- A service at which the job is done without trouble. -/
abbrev Job.service (j : Job) (e : Engine) : Service where
  engine := e
  meaning _ _ := true
  occasions _ := ⟨none, none, .affected 0, j.now, j.now_valid, .replicate 16 0, j.freshId⟩

/-- What a store answers to a job, with an engine at work on its tables. -/
def Job.run (e : Engine) (j : Job) (t : Tables e) : Except Error Given × Tables e :=
  let (answer, c) := (j.service e).run j.action.operation ⟨0, t⟩
  (answer, c.tables)

/-- What the registry answers to a job. -/
def Job.specify (j : Job) (r : Registry) : Except Error Given × Registry :=
  r.answer j.now j.freshId j.action

/-! ### What answers say -/

/-- What is under the key of a note, if an answer says so. -/
def Action.saysNote? (p i : String) (a : Action) (answer : Except Error Given) :
    Option (Option Note) :=
  match a, answer with
  | .createNote q j _, .ok (.note n) | .updateNote q j _, .ok (.note n) =>
    if q = p ∧ j = i then some (some n) else none
  | .deleteNote q j, .ok _ => if q = p ∧ j = i then some none else none
  | _, _ => none

/-- What is under the key of an occurrence, if an answer says so. The id that was made for an
occurrence is in its name. -/
def Action.saysOccurrence? (p i : String) (a : Action) (answer : Except Error Given) :
    Option (Option Occurrence) :=
  match a, answer with
  | .createOccurrence q _, .ok (.occurrence o) =>
    if q = p ∧ o.name = Name.occurrence p i then some (some o) else none
  | .updateOccurrence q j _, .ok (.occurrence o) =>
    if q = p ∧ j = i then some (some o) else none
  | .deleteOccurrence q j, .ok _ => if q = p ∧ j = i then some none else none
  | _, _ => none

/-- The note that the last successful creation or update answered, unless it was deleted since. -/
def lastNote (p i : String) (past : List (Action × Except Error Given)) : Option Note :=
  past.foldl (fun found x => (x.1.saysNote? p i x.2).getD found) none

def lastOccurrence (p i : String) (past : List (Action × Except Error Given)) :
    Option Occurrence :=
  past.foldl (fun found x => (x.1.saysOccurrence? p i x.2).getD found) none

namespace Registry

/-- The registry holds what the answers said last. -/
structure Recalls (r : Registry) (past : List (Action × Except Error Given)) : Prop where
  notes : ∀ p i, r.notes (p, i) = lastNote p i past
  occurrences : ∀ p i, r.occurrences (p, i) = lastOccurrence p i past

lemma recalls_empty : empty.Recalls [] := ⟨fun _ _ => rfl, fun _ _ => rfl⟩

variable {r : Registry} {j : Job} {p i : String}

lemma notes_specify (j : Job) (r : Registry) (p i : String) :
    (j.specify r).2.notes (p, i)
      = (j.action.saysNote? p i (j.specify r).1).getD (r.notes (p, i)) := by
  unfold Job.specify
  cases j.action with
  | createProject id record | getProject id | deleteProject id =>
    simp only [answer]
    split <;> rfl
  | createOccurrence q o | updateOccurrence q k o =>
    simp only [answer]
    split <;> rfl
  | getOccurrence q k | deleteOccurrence q k => rfl
  | createNote q k n | getNote q k | updateNote q k n | deleteNote q k =>
    simp only [answer, atNote, Prod.map, id]
    by_cases hkey : (p, i) = (q, k)
    · obtain ⟨rfl, rfl⟩ := Prod.mk.inj hkey
      rw [Function.update_self]
      cases r.notes (p, i) <;>
        simp [Entry.create, Entry.get, Entry.replace, Entry.remove, Except.map, Action.saysNote?]
    · rw [Function.update_of_ne hkey]
      have hne : ¬(q = p ∧ k = i) := fun h => hkey (by rw [h.1, h.2])
      cases r.notes (q, k) <;>
        simp [Entry.create, Entry.replace, Entry.remove, Except.map, Action.saysNote?, hne]

/-- In one project, names of occurrences differ as their ids do. -/
lemma occurrence_inj {q j k : String} : Name.occurrence q j = Name.occurrence q k ↔ j = k := by
  refine ⟨fun h => ?_, fun h => h ▸ rfl⟩
  simpa [Name.occurrence, Name.child, String.append_right_inj] using h

lemma occurrences_specify (j : Job) (r : Registry) (p i : String) :
    (j.specify r).2.occurrences (p, i)
      = (j.action.saysOccurrence? p i (j.specify r).1).getD (r.occurrences (p, i)) := by
  unfold Job.specify
  cases j.action with
  | createProject id record | getProject id | deleteProject id =>
    simp only [answer]
    split <;> rfl
  | createNote q k n | getNote q k | updateNote q k n | deleteNote q k => rfl
  | createOccurrence q o =>
    simp only [answer]
    split
    · rfl
    · simp only [atOccurrence, Prod.map, id]
      by_cases hkey : (p, i) = (q, j.freshId)
      · obtain ⟨rfl, rfl⟩ := Prod.mk.inj hkey
        rw [Function.update_self]
        cases r.occurrences (p, j.freshId) <;>
          simp [Entry.create, Except.map, Action.saysOccurrence?, createdOccurrence]
      · rw [Function.update_of_ne hkey]
        have hne : ¬(q = p ∧ (createdOccurrence q j.freshId j.now o).name
            = Name.occurrence p i) := by
          rintro ⟨rfl, hname⟩
          exact hkey (by rw [occurrence_inj.mp hname])
        cases r.occurrences (q, j.freshId) <;>
          simp [Entry.create, Except.map, Action.saysOccurrence?, hne]
  | updateOccurrence q k o =>
    simp only [answer]
    split
    · rfl
    · simp only [atOccurrence, Prod.map, id]
      by_cases hkey : (p, i) = (q, k)
      · obtain ⟨rfl, rfl⟩ := Prod.mk.inj hkey
        rw [Function.update_self]
        cases r.occurrences (p, i) <;>
          simp [Entry.replace, Except.map, Action.saysOccurrence?]
      · rw [Function.update_of_ne hkey]
        have hne : ¬(q = p ∧ k = i) := fun h => hkey (by rw [h.1, h.2])
        cases r.occurrences (q, k) <;>
          simp [Entry.replace, Except.map, Action.saysOccurrence?, hne]
  | getOccurrence q k | deleteOccurrence q k =>
    simp only [answer, atOccurrence, Prod.map, id]
    by_cases hkey : (p, i) = (q, k)
    · obtain ⟨rfl, rfl⟩ := Prod.mk.inj hkey
      rw [Function.update_self]
      cases r.occurrences (p, i) <;>
        simp [Entry.get, Entry.remove, Except.map, Action.saysOccurrence?]
    · rw [Function.update_of_ne hkey]
      have hne : ¬(q = p ∧ k = i) := fun h => hkey (by rw [h.1, h.2])
      cases r.occurrences (q, k) <;>
        simp [Entry.remove, Except.map, Action.saysOccurrence?, hne]

/-- After a job the registry holds what its answer says. -/
lemma Recalls.step {past : List (Action × Except Error Given)} (h : r.Recalls past) (j : Job) :
    (j.specify r).2.Recalls (past ++ [(j.action, (j.specify r).1)]) where
  notes p i := by
    rw [notes_specify, h.notes, lastNote, lastNote, List.foldl_append]
    rfl
  occurrences p i := by
    rw [occurrences_specify, h.occurrences, lastOccurrence, lastOccurrence, List.foldl_append]
    rfl

/-- What a client gets is what the answers before said last. -/
lemma get_eq_last {past before rest : List (Action × Except Error Given)} {jobs : List Job}
    (h : r.Recalls past) {a : Action} {answer : Except Error Given}
    (hhistory : history Job.specify jobs r = before ++ (a, answer) :: rest) :
    (∀ p i, a = .getNote p i → answer
        = (lastNote p i (past ++ before)).elim (.error (missingNote p i)) (.ok ∘ .note))
      ∧ ∀ p i, a = .getOccurrence p i → answer
        = (lastOccurrence p i (past ++ before)).elim (.error (missingOccurrence p i))
          (.ok ∘ .occurrence) := by
  induction jobs generalizing r past before with
  | nil => simp [history] at hhistory
  | cons j jobs ih =>
    cases before with
    | nil =>
      simp only [history, List.nil_append, List.cons.injEq, Prod.mk.injEq] at hhistory
      obtain ⟨⟨rfl, rfl⟩, -⟩ := hhistory
      rw [List.append_nil]
      constructor
      · intro p i hj
        rw [Job.specify, hj, ← h.notes]
        simp only [Registry.answer, atNote, Prod.map]
        cases r.notes (p, i) <;> rfl
      · intro p i hj
        rw [Job.specify, hj, ← h.occurrences]
        simp only [Registry.answer, atOccurrence, Prod.map]
        cases r.occurrences (p, i) <;> rfl
    | cons x before =>
      simp only [history, List.cons_append, List.cons.injEq] at hhistory
      obtain ⟨rfl, hhistory⟩ := hhistory
      simpa using ih (h.step j) hhistory

end Registry

end Catalog.Store
