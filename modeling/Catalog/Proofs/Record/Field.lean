import Catalog.Proofs.Json.Denotation
import Catalog.Proofs.Time.Text
import Catalog.Record.Field
import Catalog.Record.Kind

/-!
Fields of records. Of an object that shows a record, each declared field is what the record's
members of that name say, and the other members are the record's details.
-/

namespace Catalog.Record

open Catalog.Json

/-- The members of one name. -/
def membersOf (name : String) (ms : List (String × Json)) : List (String × Json) :=
  ms.filter (·.1 == name)

/-- What is read of a field is what its members say, of which there is one at most. -/
inductive Gives : Option Shape → List (String × Json) → Prop
  | missing : Gives none []
  | given {s : Shape} {v : Json} (name : String) (value : Shows s v) : Gives (some s) [(name, v)]

/-- What is read of a list is read of its items. -/
lemma exists_of_mem_mapM {α β : Type} {f : α → Option β} {xs : List α} {ys : List β}
    (h : xs.mapM f = some ys) {y : β} (hy : y ∈ ys) : ∃ x ∈ xs, f x = some y := by
  induction xs generalizing ys with
  | nil =>
    obtain rfl := Option.some.inj h
    simp at hy
  | cons x xs ih =>
    simp only [List.mapM_cons, Option.bind_eq_bind, Option.bind_eq_some_iff, Option.pure_def,
      Option.some.injEq] at h
    obtain ⟨z, hz, zs, hzs, rfl⟩ := h
    rcases List.mem_cons.mp hy with rfl | hy
    · exact ⟨x, List.mem_cons_self, hz⟩
    · obtain ⟨w, hw, hfw⟩ := ih hzs hy
      exact ⟨w, List.mem_cons_of_mem _ hw, hfw⟩

/-! ### Members of an object -/

section

variable {entries : List (String × Shape × Json)} {ms : List (String × Json)}

lemma named?_eq (entries : List (String × Shape × Json)) :
    Shape.named? (entries.map fun e => (some e.1, e.2.1))
      = some (entries.map fun e => (e.1, e.2.1)) := by
  induction entries with
  | nil => rfl
  | cons e entries ih =>
    rw [Shape.named?] at ih ⊢
    rw [List.map_cons, List.mapM_cons, ih]
    rfl

/-- A name that differs from all others is found once or not at all. -/
lemma exists_filter_eq {α : Type} {ms : List (String × α)} (h : (ms.map Prod.fst).Nodup)
    (name : String) :
    ms.filter (·.1 == name) = [] ∨ ∃ v, ms.filter (·.1 == name) = [(name, v)] := by
  induction ms with
  | nil => exact .inl rfl
  | cons m ms ih =>
    obtain ⟨hm, hms⟩ := List.nodup_cons.mp h
    by_cases heq : m.1 = name
    · subst heq
      refine .inr ⟨m.2, ?_⟩
      have hnone : ms.filter (·.1 == m.1) = [] := by
        rw [List.filter_eq_nil_iff]
        intro m' hm' heq
        exact hm (eq_of_beq heq ▸ List.mem_map_of_mem hm')
      rw [List.filter_cons_of_pos (by simp), hnone]
    · rw [List.filter_cons_of_neg (by simpa using heq)]
      exact ih hms

/-- Each declared field is given by its members. -/
lemma exists_gives (hperm : ms.Perm (entries.map fun e => (e.1, e.2.2)))
    (hnames : (ms.map Prod.fst).Nodup) (hvalues : ∀ e ∈ entries, Shows e.2.1 e.2.2)
    (name : String) :
    ∃ o, Shape.single? name (entries.map fun e => (e.1, e.2.1)) = some o
      ∧ Gives o (membersOf name ms) := by
  have hentries : (entries.map Prod.fst).Nodup := by
    have := (hperm.map Prod.fst).nodup_iff.mp hnames
    simpa [Function.comp_def] using this
  have hmembers : (membersOf name ms).Perm
      ((entries.filter (·.1 == name)).map fun e => (e.1, e.2.2)) := by
    have := hperm.filter (·.1 == name)
    rwa [List.filter_map] at this
  have hfilter : (entries.map fun e => (e.1, e.2.1)).filter (·.1 == name)
      = (entries.filter (·.1 == name)).map fun e => (e.1, e.2.1) := List.filter_map
  rw [Shape.single?, hfilter]
  rcases exists_filter_eq hentries name with hnone | ⟨⟨s, v⟩, hone⟩
  · rw [hnone] at hmembers ⊢
    rw [List.map_nil, List.perm_nil] at hmembers
    exact ⟨none, rfl, hmembers ▸ .missing⟩
  · have hmem : (name, s, v) ∈ entries.filter (·.1 == name) := by simp [hone]
    rw [hone] at hmembers ⊢
    rw [List.map_singleton, List.perm_singleton] at hmembers
    exact ⟨some s, rfl, hmembers ▸ .given name (hvalues _ (List.mem_filter.mp hmem).1)⟩

/-- An object that shows members gives each declared field. -/
lemma exists_fields {shapes : List (Option String × Shape)}
    (h : Shows (.object shapes) (.object ms)) (names : List String) :
    ∃ members os, Shape.named? shapes = some members
      ∧ names.mapM (fun name => Shape.single? name members) = some os
      ∧ List.Forall₂ (fun name o => Gives o (membersOf name ms)) names os := by
  cases h with
  | object entries left hperm hnames hvalues =>
    subst left
    refine ⟨entries.map fun e => (e.1, e.2.1), ?_⟩
    induction names with
    | nil => exact ⟨[], named?_eq entries, rfl, .nil⟩
    | cons name names ih =>
      obtain ⟨os, hnamed, hos, hgives⟩ := ih
      obtain ⟨o, hsingle, ho⟩ := exists_gives hperm hnames hvalues name
      refine ⟨o :: os, hnamed, ?_, .cons ho hgives⟩
      rw [List.mapM_cons, hsingle, hos]
      rfl

end

/-- The declared fields of a record without other members. -/
lemma exists_fields? {s : Shape} {ms : List (String × Json)} (h : Shows s (.object ms))
    (names : List String) : ∃ os, s.fields? names = some os
      ∧ List.Forall₂ (fun name o => Gives o (membersOf name ms)) names os := by
  cases s with
  | object shapes =>
    obtain ⟨members, os, hnamed, hos, hgives⟩ := exists_fields h names
    exact ⟨os, by rw [Shape.fields?, hnamed, Option.bind_eq_bind, Option.bind_some, hos], hgives⟩
  | _ => cases h

/-- The members that are kept besides the declared fields: sorted, with other names, and such as
are read. -/
structure AreDetails (names : List String) (ms : List (String × Json)) : Prop where
  sorted : Sorted ms
  undeclared : ∀ m ∈ ms, m.1 ∉ names
  normal : ∀ m ∈ ms, Normal m.2

/-- What an object has besides the declared fields is plain. -/
def isPlainBeside (names : List String) : Shape → Bool
  | .object members =>
    Shape.havePlain (maxDepth - 1) (members.filter fun m => m.1 ∉ names.map some)
  | _ => true

/-- Whatever shows plain members beside the declared fields is plain there. -/
lemma isPlainBeside_of_shows {s : Shape} {ms : List (String × Json)} {names : List String}
    (h : Shows s (.object ms)) (hplain : ∀ m ∈ ms, m.1 ∉ names → Plain (maxDepth - 1) m.2) :
    isPlainBeside names s = true := by
  cases h with
  | object entries left right _ values =>
    subst left
    refine Shape.havePlain_iff.mpr fun m hm => ?_
    obtain ⟨hm, hother⟩ := List.mem_filter.mp hm
    obtain ⟨e, he, rfl⟩ := List.mem_map.mp hm
    exact (values e he).isPlain
      (hplain (e.1, e.2.2) (right.mem_iff.mpr (List.mem_map_of_mem he)) (by simpa using hother))

/-- Members whose shapes have values where they are plain are read to them if all are. -/
lemma mapM_value?_eq {d : ℕ} {entries : List (String × Shape × Json)}
    (h : ∀ e ∈ entries, e.2.1.value? d = if e.2.1.isPlain d then some e.2.2 else none) :
    (entries.map fun e => (e.1, e.2.1)).mapM (fun (k, v) => (v.value? d).map (k, ·))
      = if Shape.havePlain d (entries.map fun e => (some e.1, e.2.1))
        then some (entries.map fun e => (e.1, e.2.2)) else none := by
  induction entries with
  | nil => simp [Shape.havePlain]
  | cons e entries ih =>
    simp only [List.map_cons, List.mapM_cons, Shape.havePlain, h e List.mem_cons_self,
      ih fun e he => h e (List.mem_cons_of_mem _ he)]
    cases e.2.1.isPlain d <;>
      cases Shape.havePlain d (entries.map fun e => (some e.1, e.2.1)) <;> rfl

/-- The declared fields of a record, and its details if they are shown plainly. -/
lemma exists_flatten? {s : Shape} {ms details : List (String × Json)} (h : Shows s (.object ms))
    (names : List String) (hothers : ms.filter (·.1 ∉ names) = details)
    (hd : AreDetails names details) : ∃ os,
      s.flatten? names = (if isPlainBeside names s then some (os, details) else none)
      ∧ List.Forall₂ (fun name o => Gives o (membersOf name ms)) names os := by
  cases s with
  | object shapes =>
    obtain ⟨members, os, hnamed, hos, hgives⟩ := exists_fields h names
    refine ⟨os, ?_, hgives⟩
    cases h with
    | object entries left hperm hnames hvalues =>
      subst left
      obtain rfl := Option.some.inj ((named?_eq entries).symm.trans hnamed)
      have hkept : (entries.map fun e => (e.1, e.2.1)).filter (·.1 ∉ names)
          = (entries.filter (·.1 ∉ names)).map fun e => (e.1, e.2.1) := by
        rw [List.filter_map]
        rfl
      have hplain : isPlainBeside names (.object (entries.map fun e => (some e.1, e.2.1)))
          = Shape.havePlain (maxDepth - 1)
            ((entries.filter (·.1 ∉ names)).map fun e => (some e.1, e.2.1)) := by
        rw [isPlainBeside, List.filter_map]
        simp only [Function.comp_def, List.mem_map_of_injective (Option.some_injective _)]
      -- the other members are the details in some order
      have hdetails : details.Perm
          ((entries.filter (·.1 ∉ names)).map fun e => (e.1, e.2.2)) := by
        have := hperm.filter (·.1 ∉ names)
        rwa [hothers, List.filter_map] at this
      have hread := mapM_value?_eq fun e (he : e ∈ entries.filter (·.1 ∉ names)) =>
        (hvalues e (List.mem_filter.mp he).1).value?_eq
          (hd.normal _ (hdetails.mem_iff.mpr (List.mem_map_of_mem he))) (maxDepth - 1)
      rw [Shape.flatten?, hnamed, Option.bind_eq_bind, Option.bind_some, hos, Option.bind_eq_bind,
        Option.bind_some, hkept, hread, hplain]
      split
      · rw [Option.bind_eq_bind, Option.bind_some, sortMembers_eq hd.sorted hdetails]
        rfl
      · rfl
  | _ => cases h

/-- What is kept beside the declared fields can be kept again. -/
lemma areDetails_of_flatten? {s : Shape} {names : List String} {os : List (Option Shape)}
    {details : List (String × Json)} (h : s.flatten? names = some (os, details)) :
    AreDetails names details := by
  cases s with
  | object shapes =>
    simp only [Shape.flatten?, Option.bind_eq_bind, Option.bind_eq_some_iff, Option.pure_def,
      Option.some.injEq, Prod.mk.injEq] at h
    obtain ⟨members, -, -, -, others, hothers, -, rfl⟩ := h
    have hother : ∀ m ∈ others, m.1 ∉ names ∧ Normal m.2 := by
      intro m hm
      obtain ⟨⟨k, v⟩, hkv, hvalue⟩ := exists_of_mem_mapM hothers hm
      obtain ⟨x, hx, rfl⟩ := Option.map_eq_some_iff.mp hvalue
      exact ⟨by simpa using (List.mem_filter.mp hkv).2, normal_of_value? hx⟩
    exact ⟨sorted_sortMembers _, fun m hm => (hother m (mem_of_mem_sortMembers hm)).1,
      fun m hm => (hother m (mem_of_mem_sortMembers hm)).2⟩
  | _ => simp [Shape.flatten?] at h

/-! ### Members of a record -/

section

variable (name other : String) (ms ms' : List (String × Json))

@[simp] lemma membersOf_nil : membersOf name [] = [] := rfl

@[simp] lemma membersOf_cons (m : String × Json) :
    membersOf name (m :: ms) = if m.1 == name then m :: membersOf name ms else membersOf name ms :=
  List.filter_cons

@[simp] lemma membersOf_append :
    membersOf name (ms ++ ms') = membersOf name ms ++ membersOf name ms' :=
  List.filter_append ms ms'

@[simp] lemma membersOf_textMember (s : String) :
    membersOf name (textMember other s) = if other == name then textMember other s else [] := by
  unfold textMember
  split <;> simp

@[simp] lemma membersOf_timeMember (t : Option Time) :
    membersOf name (timeMember other t) = if other == name then timeMember other t else [] := by
  cases t <;> simp [timeMember]

@[simp] lemma membersOf_listMember {α : Type} (write : α → Json) (vs : List α) :
    membersOf name (listMember other write vs)
      = if other == name then listMember other write vs else [] := by
  unfold listMember
  split <;> simp

variable {name other ms}

lemma sublist_textMember (name s : String) :
    ((textMember name s).map Prod.fst).Sublist [name] := by
  unfold textMember
  split <;> simp

lemma sublist_timeMember (name : String) (t : Option Time) :
    ((timeMember name t).map Prod.fst).Sublist [name] := by
  cases t <;> simp [timeMember]

lemma sublist_listMember {α : Type} (name : String) (write : α → Json) (vs : List α) :
    ((listMember name write vs).map Prod.fst).Sublist [name] := by
  unfold listMember
  split <;> simp

/-- A time that is not given may be another. -/
lemma mem_timeMember_or {m : String × Json} {t t' : Option Time}
    (h : m ∈ timeMember name (t.or t')) :
    m ∈ timeMember name t' ∨ m ∈ timeMember name t := by
  cases t with
  | none => exact .inl h
  | some => exact .inr h

lemma sound_textMember (name s : String) : ∀ m ∈ textMember name s, Sound m.2 := by
  unfold textMember
  split
  · simp
  · simpa using .string s

lemma sound_timeMember (name : String) (t : Option Time) : ∀ m ∈ timeMember name t, Sound m.2 := by
  intro m hm
  obtain ⟨x, -, rfl⟩ := List.mem_map.mp hm
  exact .string _

lemma sound_listMember {α : Type} {write : α → Json} {vs : List α} (h : ∀ v ∈ vs, Sound (write v))
    (name : String) : ∀ m ∈ listMember name write vs, Sound m.2 := by
  unfold listMember
  split
  · simp
  · simpa using .array (by simpa using h)

lemma AreDetails.membersOf_eq {names : List String} (h : AreDetails names ms)
    (hname : name ∈ names) : membersOf name ms = [] := by
  rw [membersOf, List.filter_eq_nil_iff]
  intro m hm heq
  exact h.undeclared m hm (eq_of_beq heq ▸ hname)

end

section

variable {names : List String} {declared details : List (String × Json)}

/-- Declared members and details are told apart by their names. -/
lemma AreDetails.filter_append (h : AreDetails names details)
    (hdeclared : (declared.map Prod.fst).Sublist names) :
    (declared ++ details).filter (·.1 ∉ names) = details := by
  have hnone : declared.filter (·.1 ∉ names) = [] := by
    rw [List.filter_eq_nil_iff]
    intro m hm
    simpa using hdeclared.subset (List.mem_map_of_mem hm)
  have hall : details.filter (·.1 ∉ names) = details := by
    rw [List.filter_eq_self]
    intro m hm
    simpa using h.undeclared m hm
  rw [List.filter_append, hnone, hall, List.nil_append]

lemma AreDetails.sound_object (h : AreDetails names details) (hnames : names.Nodup)
    (hdeclared : (declared.map Prod.fst).Sublist names) (hsound : ∀ m ∈ declared, Sound m.2)
    (hwhole : Whole (.object (declared ++ details))) : Sound (.object (declared ++ details)) := by
  cases hwhole with
  | object values =>
    refine .object ?_ fun m hm => ?_
    · rw [List.map_append, List.nodup_append]
      refine ⟨hnames.sublist hdeclared, h.sorted.nodup, fun k hk k' hk' heq => ?_⟩
      obtain ⟨m, hm, rfl⟩ := List.mem_map.mp hk'
      exact h.undeclared m hm (heq ▸ hdeclared.subset hk)
    · rcases List.mem_append.mp hm with hdec | hdet
      · exact hsound m hdec
      · exact (h.normal m hdet).sound (values m hm)

end

/-! ### Kinds of fields -/

section

variable {o : Option Shape} {name s : String} {t : Option Time}

lemma text?_of_shows {sh : Shape} (h : Shows sh (.string s)) : sh.text? = some s := by
  cases h
  rfl

lemma Gives.text (h : Gives o [(name, .string s)]) : text? o = some s := by
  cases h with
  | given _ value =>
    cases value
    rfl

lemma Gives.required (h : Gives o [(name, .string s)]) :
    Shape.required Shape.text? o = some s := by
  cases h with
  | given _ value =>
    cases value
    rfl

lemma Gives.textMember (h : Gives o (textMember name s)) : text? o = some s := by
  unfold Record.textMember at h
  split at h
  · rename_i hs
    cases h
    rw [hs]
    rfl
  · exact h.text

lemma Gives.timeMember (h : Gives o (timeMember name t)) (ht : ∀ x ∈ t, x.IsValid) :
    optionalTime? o = some t := by
  cases t with
  | none =>
    cases h
    rfl
  | some x =>
    cases h with
    | given _ value =>
      cases value
      simp only [optionalTime?, Shape.withDefault, Shape.nullable?, readTime?, Shape.text?,
        Option.bind_some, Time.read?_render (ht x rfl), Option.map_some]

lemma Gives.kind {k : Kind} (h : Gives o [(name, k.toJson)]) :
    Shape.withDefault .unspecified Kind.read? o = some k := by
  cases h with
  | given _ value =>
    cases value
    exact Kind.ofWord?_word k

/-- Items are read back if each of them is. -/
lemma list?_eq {α : Type} {write : α → Json} {read : Shape → Option α} {vs : List α} {sh : Shape}
    (h : Shows sh (.array (vs.map write)))
    (hread : ∀ v ∈ vs, ∀ s, Shows s (write v) → read s = some v) :
    Shape.list? read sh = some vs := by
  cases h with
  | array pairs left right items =>
    subst left
    show (pairs.map Prod.fst).mapM read = some vs
    induction vs generalizing pairs with
    | nil =>
      rw [List.map_nil] at right
      rw [List.map_eq_nil_iff.mp right.symm]
      rfl
    | cons v vs ih =>
      rw [List.map_cons] at right
      obtain ⟨e, pairs, rfl, hv, hvs⟩ := List.map_eq_cons_iff.mp right.symm
      rw [List.map_cons, List.mapM_cons,
        hread v List.mem_cons_self e.1 (hv ▸ items e List.mem_cons_self),
        ih (fun v hv => hread v (List.mem_cons_of_mem _ hv)) pairs
          (fun e he => items e (List.mem_cons_of_mem _ he)) hvs.symm]
      rfl

lemma Gives.listMember {α : Type} {write : α → Json} {read : Shape → Option α} {vs : List α}
    (h : Gives o (listMember name write vs))
    (hread : ∀ v ∈ vs, ∀ s, Shows s (write v) → read s = some v) :
    Shape.withDefault [] (Shape.list? read) o = some vs := by
  unfold Record.listMember at h
  split at h
  · rename_i hempty
    cases h
    rw [List.isEmpty_iff.mp hempty]
    rfl
  · cases h with
    | given _ value => exact list?_eq value hread

/-- A time that is read of a field can be written. -/
lemma isValid_of_optionalTime? (h : optionalTime? o = some t) : ∀ x ∈ t, x.IsValid := by
  rintro x rfl
  cases o with
  | none => simp [optionalTime?, Shape.withDefault] at h
  | some v =>
    have hread : readTime? v = some x := by
      cases v with
      | null => simp [optionalTime?, Shape.withDefault, Shape.nullable?] at h
      | _ => simpa [optionalTime?, Shape.withDefault, Shape.nullable?] using h
    obtain ⟨s, -, hs⟩ := Option.bind_eq_some_iff.mp hread
    exact Time.isValid_of_read? hs

end

end Catalog.Record
