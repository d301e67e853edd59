import Catalog.Proofs.Store.Registry

/-!
Tables that stand for a registry. A job on them is answered as the registry answers it, and they
stand for the registry afterwards.
-/

namespace Catalog.Store

open Catalog.Json Record

/-! ### Engines that take what can be stored -/

namespace Engine

/-- The engine takes every text without NUL, and as JSON every text for a value without NUL. -/
structure Accepting (e : Engine) : Prop where
  takes_clean : ∀ s, IsClean s → e.takes s
  takes_json : ∀ text v, Denotes text v → Sound v → Clean v → e.takes text ∧ (e.jsonb text).isSome

variable {e : Engine} {kept : String}

section

open Payload

variable {α : Type} [Payload α] [LawfulPayload α] {a : α}

/-- A record is read back from what an engine gives back of it. -/
lemma ofText?_jsonb (ha : IsRecoverable a) (h : e.jsonb (Payload.text a) = some kept) :
    ofText? kept = some a :=
  ha.ofText?_eq (e.denotes_jsonb h ha.denotes)

lemma Accepting.exists_kept (he : e.Accepting) (ha : IsStorable a) :
    e.takes (Payload.text a)
      ∧ ∃ kept, e.jsonb (Payload.text a) = some kept ∧ ofText? kept = some a := by
  obtain ⟨htakes, hsome⟩ :=
    he.takes_json _ _ ha.denotes (sound_toJson ha.readable ha.whole) ha.clean
  obtain ⟨kept, hkept⟩ := Option.isSome_iff_exists.mp hsome
  exact ⟨htakes, kept, hkept, ofText?_jsonb ha.toIsRecoverable hkept⟩

end

end Engine

/-! ### What tables stand for -/

/-- The payload is that of the note, which has the name of its project and id. -/
def IsNoteOf (project id payload : String) (n : Note) : Prop :=
  Note.ofPayload? payload = some n ∧ n.name = Name.note project id

def IsOccurrenceOf (project id payload : String) (o : Occurrence) : Prop :=
  Occurrence.ofPayload? payload = some o ∧ o.name = Name.occurrence project id

/-- The tables hold what is in the registry, and nothing else. -/
structure Refines {e : Engine} (t : Tables e) (r : Registry) : Prop where
  projects : ∀ id, (t.payload? "projects" (projectKeys id)).isSome ↔ id ∈ r.projects
  notes : ∀ p i,
    Option.Rel (IsNoteOf p i) (t.payload? "notes" (noteKeys p i)) (r.notes (p, i))
  occurrences : ∀ p i, Option.Rel (IsOccurrenceOf p i)
    (t.payload? "occurrences" (occurrenceKeys p i)) (r.occurrences (p, i))

section

variable {e : Engine} {t t' : Tables e} {r : Registry} {p i id : String} {found : Option String}

lemma Refines.empty : Refines (Tables.empty (e := e)) Registry.empty where
  projects _ := by simp [Tables.payload?, Tables.empty, Stock.empty, Stock.find?, Registry.empty]
  notes _ _ := .none
  occurrences _ _ := .none

lemma isSome_eq_of_rel {α β : Type} {R : α → β → Prop} {x : Option α} {y : Option β}
    (h : Option.Rel R x y) : x.isSome = y.isSome := by
  cases h <;> rfl

/-- Other projects are as they were. -/
lemma Refines.putProject (h : Refines t r) (hputs : t.Puts "projects" (projectKeys id) found t')
    (projects : Finset String) (hself : found.isSome ↔ id ∈ projects)
    (hother : ∀ j ≠ id, j ∈ projects ↔ j ∈ r.projects) :
    Refines t' { r with projects := projects } where
  projects j := by
    by_cases hj : j = id
    · rw [hj, hputs.self, hself]
    · have hne : projectKeys j ≠ projectKeys id := fun heq => by
        simp only [projectKeys, List.cons.injEq, Prod.mk.injEq, true_and, and_true] at heq
        exact hj (Name.project_injective heq)
      rw [hputs.other (projectKeys j) rfl hne, h.projects, hother j hj]
  notes p i := by
    rw [hputs.elsewhere _ (by decide)]
    exact h.notes p i
  occurrences p i := by
    rw [hputs.elsewhere _ (by decide)]
    exact h.occurrences p i

lemma Refines.putNote (h : Refines t r) (hputs : t.Puts "notes" (noteKeys p i) found t')
    {x : Option Note} (hx : Option.Rel (IsNoteOf p i) found x) :
    Refines t' { r with notes := Function.update r.notes (p, i) x } where
  projects j := by
    rw [hputs.elsewhere _ (by decide)]
    exact h.projects j
  notes q j := by
    by_cases hkey : (q, j) = (p, i)
    · obtain ⟨rfl, rfl⟩ := Prod.mk.inj hkey
      simpa only [hputs.self, Function.update_self] using hx
    · have hne : noteKeys q j ≠ noteKeys p i := fun heq => hkey (by simpa [noteKeys] using heq)
      simpa only [hputs.other (noteKeys q j) rfl hne, Function.update_of_ne hkey] using h.notes q j
  occurrences q j := by
    rw [hputs.elsewhere _ (by decide)]
    exact h.occurrences q j

lemma Refines.putOccurrence (h : Refines t r)
    (hputs : t.Puts "occurrences" (occurrenceKeys p i) found t') {x : Option Occurrence}
    (hx : Option.Rel (IsOccurrenceOf p i) found x) :
    Refines t' { r with occurrences := Function.update r.occurrences (p, i) x } where
  projects j := by
    rw [hputs.elsewhere _ (by decide)]
    exact h.projects j
  notes q j := by
    rw [hputs.elsewhere _ (by decide)]
    exact h.notes q j
  occurrences q j := by
    by_cases hkey : (q, j) = (p, i)
    · obtain ⟨rfl, rfl⟩ := Prod.mk.inj hkey
      simpa only [hputs.self, Function.update_self] using hx
    · have hne : occurrenceKeys q j ≠ occurrenceKeys p i :=
        fun heq => hkey (by simpa [occurrenceKeys] using heq)
      simpa only [hputs.other (occurrenceKeys q j) rfl hne, Function.update_of_ne hkey]
        using h.occurrences q j

end

/-! ### Jobs that can be done -/

/-- The texts of the action have no NUL, and its records are such as are read from payloads. -/
def Action.IsAdmissible : Action → Prop
  | createProject id _ | getProject id | deleteProject id => IsClean id
  | createNote p i n | updateNote p i n =>
    IsClean p ∧ IsClean i ∧ IsGiven n ∧ Clean n.toJson
  | getNote p i | deleteNote p i | getOccurrence p i | deleteOccurrence p i =>
    IsClean p ∧ IsClean i
  | createOccurrence p o => IsClean p ∧ IsGiven o ∧ Clean o.toJson
  | updateOccurrence p i o => IsClean p ∧ IsClean i ∧ IsGiven o ∧ Clean o.toJson

/-- The action is admissible, and the id that is made for it is a text without NUL. -/
def Job.IsAdmissible (j : Job) : Prop := j.action.IsAdmissible ∧ IsClean j.freshId

/-! ### Entries -/

section

variable {α : Type} {R : String → α → Prop} {found : Option String} {x : Option α}
  {kept : String} {a : α}

lemma create_rel (h : Option.Rel R found x) (ha : R kept a) (taken : Error) :
    (if found.isSome then .error taken else .ok a) = (Entry.create taken a x).1
      ∧ Option.Rel R (some (found.getD kept)) (Entry.create taken a x).2 := by
  cases h with
  | none => exact ⟨rfl, .some ha⟩
  | some hold => exact ⟨rfl, .some hold⟩

lemma get_rel (h : Option.Rel R found x) {read : String → Except Error α}
    (hread : ∀ kept a, R kept a → read kept = .ok a) (missing : Error) :
    found.elim (.error missing) read = (Entry.get missing x).1
      ∧ Option.Rel R found (Entry.get missing x).2 := by
  cases h with
  | none => exact ⟨rfl, .none⟩
  | some hold => exact ⟨hread _ _ hold, .some hold⟩

lemma replace_rel (h : Option.Rel R found x) (ha : R kept a) (missing : Error) :
    (if found.isSome then .ok a else .error missing) = (Entry.replace missing a x).1
      ∧ Option.Rel R (found.map fun _ => kept) (Entry.replace missing a x).2 := by
  cases h with
  | none => exact ⟨rfl, .none⟩
  | some => exact ⟨rfl, .some ha⟩

lemma remove_rel (h : Option.Rel R found x) (missing : Error) :
    (if found.isSome then .ok ⟨⟩ else .error missing) = (Entry.remove missing x).1
      ∧ Option.Rel R none (Entry.remove missing x).2 := by
  cases h with
  | none => exact ⟨rfl, .none⟩
  | some => exact ⟨rfl, .none⟩

end

/-- Where records of one kind under one key are: in tables, and in a registry. -/
structure Slot (α : Type) where
  table : String
  keys : List (String × String)
  /-- The payload is that of the record. -/
  Holds : String → α → Prop
  get : Registry → Option α
  put : Registry → Option α → Registry
  rel {e : Engine} {t : Tables e} {r : Registry} :
    Refines t r → Option.Rel Holds (t.payload? table keys) (get r)
  refines_put {e : Engine} {t t' : Tables e} {r : Registry} {found : Option String}
    {x : Option α} : Refines t r → t.Puts table keys found t' → Option.Rel Holds found x →
      Refines t' (put r x)

namespace Slot

def note (p i : String) : Slot Note where
  table := "notes"
  keys := noteKeys p i
  Holds := IsNoteOf p i
  get r := r.notes (p, i)
  put r x := { r with notes := Function.update r.notes (p, i) x }
  rel h := h.notes p i
  refines_put h hputs hx := h.putNote hputs hx

def occurrence (p i : String) : Slot Occurrence where
  table := "occurrences"
  keys := occurrenceKeys p i
  Holds := IsOccurrenceOf p i
  get r := r.occurrences (p, i)
  put r x := { r with occurrences := Function.update r.occurrences (p, i) x }
  rel h := h.occurrences p i
  refines_put h hputs hx := h.putOccurrence hputs hx

end Slot

lemma noteOfPayload_eq {p i kept : String} {n : Note} (h : IsNoteOf p i kept n) :
    (noteOfPayload kept).map (fun n => { n with name := Name.note p i }) = .ok n := by
  rw [noteOfPayload, h.1, ← h.2]
  rfl

lemma occurrenceOfPayload_eq {p i kept : String} {o : Occurrence} (h : IsOccurrenceOf p i kept o) :
    (occurrenceOfPayload kept).map (fun o => { o with name := Name.occurrence p i }) = .ok o := by
  rw [occurrenceOfPayload, h.1, ← h.2]
  rfl

/-! ### One job -/

namespace Job

variable {e : Engine} {t : Tables e} {r : Registry} {j : Job}

/-- The store answers the job as the registry does, and stands for it afterwards. -/
structure Agrees (e : Engine) (j : Job) (t : Tables e) (r : Registry) : Prop where
  answer_eq : (j.run e t).1 = (j.specify r).1
  refines : Refines (j.run e t).2 (j.specify r).2
  drawn_le : ∀ table, ((j.run e t).2 table).drawn ≤ (t table).drawn + 1

lemma calm_service (j : Job) (e : Engine) : (j.service e).Calm := fun _ => ⟨rfl, rfl⟩

lemma run_eq {α : Type} {f : α → Given} {op : Operation α} (hop : j.action.operation = f <$> op)
    {a : Except Error α} {c' : Situation e} (h : (j.service e).run op ⟨0, t⟩ = (a, c')) :
    j.run e t = (a.map f, c'.tables) := by
  have hrun := (j.service e).run_map f op ⟨0, t⟩
  rw [h, ← hop] at hrun
  rw [run, hrun]
  rfl

lemma agrees_of {a : Except Error Given} {t' : Tables e} {r' : Registry}
    (hrun : j.run e t = (a, t')) (hspecify : j.specify r = (a, r')) (h : Refines t' r')
    {table : String} {keys : List (String × String)} {found : Option String}
    (hputs : t.Puts table keys found t') : j.Agrees e t r := by
  refine ⟨?_, ?_, ?_⟩
  · rw [hrun, hspecify]
  · rw [hrun, hspecify]
    exact h
  · rw [hrun]
    exact hputs.drawn_le

/-- An operation on a slot is answered as the registry answers it if it gives what an entry gives,
and puts what the entry puts. -/
lemma agrees_slot {α β : Type} (slot : Slot α) (h : Refines t r) {f : β → Given}
    {op : Operation β} {entry : Option α → Except Error β × Option α}
    (hop : j.action.operation = f <$> op)
    (hspecify : j.specify r = ((entry (slot.get r)).1.map f, slot.put r (entry (slot.get r)).2))
    {found : Option String} {answer : Except Error β}
    (hentry : answer = (entry (slot.get r)).1 ∧ Option.Rel slot.Holds found (entry (slot.get r)).2)
    {c' : Situation e} (hrun : (j.service e).run op ⟨0, t⟩ = (answer, c'))
    (hputs : t.Puts slot.table slot.keys found c'.tables) : j.Agrees e t r := by
  obtain ⟨rfl, hrel⟩ := hentry
  exact agrees_of (run_eq hop hrun) hspecify (slot.refines_put h hputs hrel) hputs

variable {p i : String} {n : Note} {o : Occurrence}

/-! #### Projects -/

lemma agrees_createProject (he : e.Accepting) (h : Refines t r) {record : Project}
    (hj : j.action = .createProject p record) (hp : IsClean p)
    (hserial : ∀ table, (e.serial (t table).drawn).isSome) : j.Agrees e t r := by
  obtain ⟨c', hrun, hputs⟩ := (calm_service j e).createProject
    (he.takes_clean _ (Name.isClean_project hp)) ⟨0, t⟩ (hserial "projects") record
  have hequal := run_eq (by rw [hj]; rfl) hrun
  by_cases hmem : p ∈ r.projects
  · rw [if_pos ((h.projects p).mpr hmem)] at hequal
    refine agrees_of hequal ?_
      (h.putProject hputs r.projects (by simp [hmem]) fun _ _ => .rfl) hputs
    rw [specify, hj, Registry.answer, if_pos hmem]
    rfl
  · rw [if_neg (mt (h.projects p).mp hmem)] at hequal
    refine agrees_of hequal ?_ (h.putProject hputs (insert p r.projects) (by simp)
      fun _ hne => by simp [hne]) hputs
    rw [specify, hj, Registry.answer, if_neg hmem]
    rfl

lemma agrees_getProject (he : e.Accepting) (h : Refines t r) (hj : j.action = .getProject p)
    (hp : IsClean p) : j.Agrees e t r := by
  obtain ⟨c', htables, hrun⟩ := (calm_service j e).getProject
    (he.takes_clean _ (Name.isClean_project hp)) ⟨0, t⟩
  have hequal := run_eq (by rw [hj]; rfl) hrun
  rw [htables] at hequal
  have hputs := t.puts_refl "projects" (projectKeys p)
  by_cases hmem : p ∈ r.projects
  · rw [if_pos ((h.projects p).mpr hmem)] at hequal
    refine agrees_of hequal ?_ h hputs
    rw [specify, hj, Registry.answer, if_pos hmem]
    rfl
  · rw [if_neg (mt (h.projects p).mp hmem)] at hequal
    refine agrees_of hequal ?_ h hputs
    rw [specify, hj, Registry.answer, if_neg hmem]
    rfl

lemma agrees_deleteProject (he : e.Accepting) (h : Refines t r)
    (hj : j.action = .deleteProject p) (hp : IsClean p) : j.Agrees e t r := by
  obtain ⟨c', hrun, hputs⟩ := (calm_service j e).deleteProject
    (he.takes_clean _ (Name.isClean_project hp)) ⟨0, t⟩
  have hequal := run_eq (by rw [hj]; rfl) hrun
  by_cases hmem : p ∈ r.projects
  · rw [if_pos ((h.projects p).mpr hmem)] at hequal
    refine agrees_of hequal ?_ (h.putProject hputs (r.projects.erase p) (by simp)
      fun _ hne => by simp [hne]) hputs
    rw [specify, hj, Registry.answer, if_pos hmem]
    rfl
  · rw [if_neg (mt (h.projects p).mp hmem)] at hequal
    refine agrees_of hequal ?_
      (h.putProject hputs r.projects (by simp [hmem]) fun _ _ => .rfl) hputs
    rw [specify, hj, Registry.answer, if_neg hmem]
    rfl

/-! #### Notes -/

lemma storable_createdNote (hn : IsStorable n) (hp : IsClean p) (hi : IsClean i) :
    IsStorable (createdNote p i j.now n) :=
  hn.stamp ((Name.isClean_child .note).mpr ⟨hp, hi⟩) (some j.now) none
    (by simpa using j.now_valid) (by simp)

lemma storable_updatedNote (hn : IsStorable n) (hp : IsClean p) (hi : IsClean i) :
    IsStorable (updatedNote p i j.now n) :=
  hn.stamp ((Name.isClean_child .note).mpr ⟨hp, hi⟩) none (some j.now)
    (by simp) (by simpa using j.now_valid)

lemma agrees_createNote (he : e.Accepting) (h : Refines t r) (hj : j.action = .createNote p i n)
    (hp : IsClean p) (hi : IsClean i) (hn : IsStorable n)
    (hserial : ∀ table, (e.serial (t table).drawn).isSome) : j.Agrees e t r := by
  obtain ⟨htakes, kept, hkept, hread⟩ := he.exists_kept (storable_createdNote (j := j) hn hp hi)
  obtain ⟨c', hrun, hputs⟩ := (calm_service j e).createNote (c := ⟨0, t⟩) rfl hkept
    (by simpa using ⟨he.takes_clean _ hp, he.takes_clean _ hi, htakes⟩) (hserial "notes")
  exact agrees_slot (.note p i) h (by rw [hj]; rfl) (by rw [specify, hj]; rfl)
    (create_rel ((Slot.note p i).rel h) ⟨hread, rfl⟩ _) hrun hputs

lemma agrees_getNote (he : e.Accepting) (h : Refines t r) (hj : j.action = .getNote p i)
    (hp : IsClean p) (hi : IsClean i) : j.Agrees e t r := by
  obtain ⟨c', htables, hrun⟩ := (calm_service j e).getNote
    (by simpa using ⟨he.takes_clean _ hp, he.takes_clean _ hi⟩) ⟨0, t⟩
  exact agrees_slot (.note p i) h (by rw [hj]; rfl) (by rw [specify, hj]; rfl)
    (get_rel ((Slot.note p i).rel h) (fun _ _ => noteOfPayload_eq) _) hrun
    (htables ▸ t.puts_refl "notes" (noteKeys p i))

lemma agrees_updateNote (he : e.Accepting) (h : Refines t r) (hj : j.action = .updateNote p i n)
    (hp : IsClean p) (hi : IsClean i) (hn : IsStorable n) : j.Agrees e t r := by
  obtain ⟨htakes, kept, hkept, hread⟩ := he.exists_kept (storable_updatedNote (j := j) hn hp hi)
  obtain ⟨c', hrun, hputs⟩ := (calm_service j e).updateNote (c := ⟨0, t⟩) rfl hkept
    (by simpa using ⟨he.takes_clean _ hp, he.takes_clean _ hi, htakes⟩)
  exact agrees_slot (.note p i) h (by rw [hj]; rfl) (by rw [specify, hj]; rfl)
    (replace_rel ((Slot.note p i).rel h) ⟨hread, rfl⟩ _) hrun hputs

lemma agrees_deleteNote (he : e.Accepting) (h : Refines t r) (hj : j.action = .deleteNote p i)
    (hp : IsClean p) (hi : IsClean i) : j.Agrees e t r := by
  obtain ⟨c', hrun, hputs⟩ := (calm_service j e).deleteNote
    (by simpa using ⟨he.takes_clean _ hp, he.takes_clean _ hi⟩) ⟨0, t⟩
  exact agrees_slot (.note p i) h (by rw [hj]; rfl) (by rw [specify, hj]; rfl)
    (remove_rel ((Slot.note p i).rel h) _) hrun hputs

/-! #### Occurrences -/

/-- A note is referred to by texts without NUL. -/
lemma clean_noteReference {q m : String} (ho : IsStorable o)
    (h : noteReference o = .ok (q, m)) : IsClean q ∧ IsClean m := by
  have hname := (Name.parseChild_eq_ok_iff.mp (noteReference_eq_ok_iff.mp h)).1
  exact (Name.isClean_child .note).mp (hname ▸ ho.clean_noteName)

lemma storable_createdOccurrence (ho : IsStorable o) (hp : IsClean p) (hi : IsClean i) :
    IsStorable (createdOccurrence p i j.now o) :=
  ho.stamp ((Name.isClean_child .occurrence).mpr ⟨hp, hi⟩) (some j.now) none
    (by simpa using j.now_valid) (by simp)

lemma storable_updatedOccurrence (ho : IsStorable o) (hp : IsClean p) (hi : IsClean i) :
    IsStorable (updatedOccurrence p i j.now o) :=
  ho.stamp ((Name.isClean_child .occurrence).mpr ⟨hp, hi⟩) none (some j.now)
    (by simp) (by simpa using j.now_valid)

lemma agrees_createOccurrence (he : e.Accepting) (h : Refines t r)
    (hj : j.action = .createOccurrence p o) (hp : IsClean p) (hi : IsClean j.freshId)
    (ho : IsStorable o) (hserial : ∀ table, (e.serial (t table).drawn).isSome) :
    j.Agrees e t r := by
  cases hreference : noteReference o with
  | error error =>
    have hrun := (j.service e).run_createOccurrence_of_error p hreference ⟨0, t⟩
    have hequal := run_eq (by rw [hj]; rfl) hrun
    refine agrees_of hequal ?_ h (t.puts_refl "occurrences" (occurrenceKeys p ""))
    rw [specify, hj, Registry.answer, hreference]
    rfl
  | ok reference =>
    obtain ⟨q, m⟩ := reference
    obtain ⟨hq, hm⟩ := clean_noteReference ho hreference
    obtain ⟨htakes, kept, hkept, hread⟩ :=
      he.exists_kept (storable_createdOccurrence (j := j) ho hp hi)
    obtain ⟨c', hrun, hputs⟩ := (calm_service j e).createOccurrence (c := ⟨0, t⟩) hreference rfl rfl
      hkept (by simpa using ⟨he.takes_clean _ hp, he.takes_clean _ hi, he.takes_clean _ hq,
        he.takes_clean _ hm, htakes⟩) (hserial "occurrences")
    exact agrees_slot (.occurrence p j.freshId) h (by rw [hj]; rfl)
      (by rw [specify, hj, Registry.answer, hreference]; rfl)
      (create_rel ((Slot.occurrence p j.freshId).rel h) ⟨hread, rfl⟩ _) hrun hputs

lemma agrees_getOccurrence (he : e.Accepting) (h : Refines t r)
    (hj : j.action = .getOccurrence p i) (hp : IsClean p) (hi : IsClean i) : j.Agrees e t r := by
  obtain ⟨c', htables, hrun⟩ := (calm_service j e).getOccurrence
    (by simpa using ⟨he.takes_clean _ hp, he.takes_clean _ hi⟩) ⟨0, t⟩
  exact agrees_slot (.occurrence p i) h (by rw [hj]; rfl) (by rw [specify, hj]; rfl)
    (get_rel ((Slot.occurrence p i).rel h) (fun _ _ => occurrenceOfPayload_eq) _) hrun
    (htables ▸ t.puts_refl "occurrences" (occurrenceKeys p i))

lemma agrees_updateOccurrence (he : e.Accepting) (h : Refines t r)
    (hj : j.action = .updateOccurrence p i o) (hp : IsClean p) (hi : IsClean i)
    (ho : IsStorable o) : j.Agrees e t r := by
  cases hreference : noteReference o with
  | error error =>
    have hrun := (j.service e).run_updateOccurrence_of_error p i hreference ⟨0, t⟩
    have hequal := run_eq (by rw [hj]; rfl) hrun
    refine agrees_of hequal ?_ h (t.puts_refl "occurrences" (occurrenceKeys p i))
    rw [specify, hj, Registry.answer, hreference]
    rfl
  | ok reference =>
    obtain ⟨q, m⟩ := reference
    obtain ⟨hq, hm⟩ := clean_noteReference ho hreference
    obtain ⟨htakes, kept, hkept, hread⟩ :=
      he.exists_kept (storable_updatedOccurrence (j := j) ho hp hi)
    obtain ⟨c', hrun, hputs⟩ := (calm_service j e).updateOccurrence (c := ⟨0, t⟩) hreference rfl
      hkept (by simpa using ⟨he.takes_clean _ hp, he.takes_clean _ hi, he.takes_clean _ hq,
        he.takes_clean _ hm, htakes⟩)
    exact agrees_slot (.occurrence p i) h (by rw [hj]; rfl)
      (by rw [specify, hj, Registry.answer, hreference]; rfl)
      (replace_rel ((Slot.occurrence p i).rel h) ⟨hread, rfl⟩ _) hrun hputs

lemma agrees_deleteOccurrence (he : e.Accepting) (h : Refines t r)
    (hj : j.action = .deleteOccurrence p i) (hp : IsClean p) (hi : IsClean i) :
    j.Agrees e t r := by
  obtain ⟨c', hrun, hputs⟩ := (calm_service j e).deleteOccurrence
    (by simpa using ⟨he.takes_clean _ hp, he.takes_clean _ hi⟩) ⟨0, t⟩
  exact agrees_slot (.occurrence p i) h (by rw [hj]; rfl) (by rw [specify, hj]; rfl)
    (remove_rel ((Slot.occurrence p i).rel h) _) hrun hputs

/-! #### Any action -/

lemma agrees (he : e.Accepting) (h : Refines t r) (hadmissible : j.IsAdmissible)
    (hserial : ∀ table, (e.serial (t table).drawn).isSome) : j.Agrees e t r := by
  obtain ⟨haction, hfresh⟩ := hadmissible
  cases hj : j.action with
  | createProject p record =>
    rw [hj] at haction
    exact agrees_createProject he h hj haction hserial
  | getProject p =>
    rw [hj] at haction
    exact agrees_getProject he h hj haction
  | deleteProject p =>
    rw [hj] at haction
    exact agrees_deleteProject he h hj haction
  | createNote p i n =>
    rw [hj] at haction
    obtain ⟨hp, hi, hn, hclean⟩ := haction
    exact agrees_createNote he h hj hp hi (hn.storable hclean) hserial
  | getNote p i =>
    rw [hj] at haction
    exact agrees_getNote he h hj haction.1 haction.2
  | updateNote p i n =>
    rw [hj] at haction
    obtain ⟨hp, hi, hn, hclean⟩ := haction
    exact agrees_updateNote he h hj hp hi (hn.storable hclean)
  | deleteNote p i =>
    rw [hj] at haction
    exact agrees_deleteNote he h hj haction.1 haction.2
  | createOccurrence p o =>
    rw [hj] at haction
    obtain ⟨hp, ho, hclean⟩ := haction
    exact agrees_createOccurrence he h hj hp hfresh (ho.storable hclean) hserial
  | getOccurrence p i =>
    rw [hj] at haction
    exact agrees_getOccurrence he h hj haction.1 haction.2
  | updateOccurrence p i o =>
    rw [hj] at haction
    obtain ⟨hp, hi, ho, hclean⟩ := haction
    exact agrees_updateOccurrence he h hj hp hi (ho.storable hclean)
  | deleteOccurrence p i =>
    rw [hj] at haction
    exact agrees_deleteOccurrence he h hj haction.1 haction.2

end Job

end Catalog.Store
