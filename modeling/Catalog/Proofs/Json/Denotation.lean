import Catalog.Json.Values
import Catalog.Proofs.Json.Members
import Catalog.Proofs.Json.Numeral

/-!
What a JSON text says, up to the order in which it has the members of its objects. A text and its
reading determine each other's values as long as numbers are integers of 64 bits.
-/

namespace Catalog.Json

/-! ### Kinds of values -/

/-- All numbers are integers. -/
inductive Whole : Json → Prop
  | null : Whole .null
  | bool (b : Bool) : Whole (.bool b)
  | int (i : Int) : Whole (.int i)
  | string (s : String) : Whole (.string s)
  | array {vs : List Json} (items : ∀ v ∈ vs, Whole v) : Whole (.array vs)
  | object {ms : List (String × Json)} (values : ∀ m ∈ ms, Whole m.2) : Whole (.object ms)

/-- The text has no NUL. -/
def IsClean (s : String) : Prop := '\x00' ∉ s.toList

instance : DecidablePred IsClean := fun _ => inferInstanceAs (Decidable (¬_))

/-- No text in the value has a NUL. -/
inductive Clean : Json → Prop
  | null : Clean .null
  | bool (b : Bool) : Clean (.bool b)
  | int (i : Int) : Clean (.int i)
  | double (d : Number.Double) : Clean (.double d)
  | string {s : String} (text : IsClean s) : Clean (.string s)
  | array {vs : List Json} (items : ∀ v ∈ vs, Clean v) : Clean (.array vs)
  | object {ms : List (String × Json)} (names : ∀ m ∈ ms, IsClean m.1)
      (values : ∀ m ∈ ms, Clean m.2) : Clean (.object ms)

/-- All numbers are integers of 64 bits, and the members of an object differ in their names. -/
inductive Sound : Json → Prop
  | null : Sound .null
  | bool (b : Bool) : Sound (.bool b)
  | int {i : Int} (low : -2 ^ 63 ≤ i) (high : i < 2 ^ 64) : Sound (.int i)
  | string (s : String) : Sound (.string s)
  | array {vs : List Json} (items : ∀ v ∈ vs, Sound v) : Sound (.array vs)
  | object {ms : List (String × Json)} (names : (ms.map Prod.fst).Nodup)
      (values : ∀ m ∈ ms, Sound m.2) : Sound (.object ms)

/-- The value is one that is read: members sorted, integers of 64 bits, and no object that has a
member of the raw name and nothing else. -/
inductive Normal : Json → Prop
  | null : Normal .null
  | bool (b : Bool) : Normal (.bool b)
  | int {i : Int} (low : -2 ^ 63 ≤ i) (high : i < 2 ^ 64) : Normal (.int i)
  | double (x : Number.Double) : Normal (.double x)
  | string (s : String) : Normal (.string s)
  | array {vs : List Json} (items : ∀ v ∈ vs, Normal v) : Normal (.array vs)
  | object {ms : List (String × Json)} (sorted : Sorted ms) (others : ms.map Prod.fst ≠ [rawName])
      (values : ∀ m ∈ ms, Normal m.2) : Normal (.object ms)

/-- The value is nested at most `d` deep, and no member in it has the raw name. -/
inductive Plain : ℕ → Json → Prop
  | null (d : ℕ) : Plain d .null
  | bool (d : ℕ) (b : Bool) : Plain d (.bool b)
  | int (d : ℕ) (i : Int) : Plain d (.int i)
  | double (d : ℕ) (x : Number.Double) : Plain d (.double x)
  | string (d : ℕ) (s : String) : Plain d (.string s)
  | array {d : ℕ} {vs : List Json} (items : ∀ v ∈ vs, Plain d v) : Plain (d + 1) (.array vs)
  | object {d : ℕ} {ms : List (String × Json)} (names : ∀ m ∈ ms, m.1 ≠ rawName)
      (values : ∀ m ∈ ms, Plain d m.2) : Plain (d + 1) (.object ms)

lemma Sound.whole {v : Json} (h : Sound v) : Whole v := by
  induction h with
  | null => exact .null
  | bool b => exact .bool b
  | int => exact .int _
  | string s => exact .string s
  | array _ ih => exact .array ih
  | object _ _ ih => exact .object ih

lemma Normal.sound {v : Json} (h : Normal v) (hwhole : Whole v) : Sound v := by
  induction h with
  | null => exact .null
  | bool b => exact .bool b
  | int low high => exact .int low high
  | double => cases hwhole
  | string s => exact .string s
  | array _ ih =>
    cases hwhole with
    | array items => exact .array fun v hv => ih v hv (items v hv)
  | object sorted _ _ ih =>
    cases hwhole with
    | object values => exact .object sorted.nodup fun m hm => ih m hm (values m hm)

/-! ### Readings -/

/-- The shape is that of a text for the value. -/
inductive Shows : Shape → Json → Prop
  | null : Shows .null .null
  | bool (b : Bool) : Shows (.bool b) (.bool b)
  | int {n : Numeral} {i : Int} (value : n.value? = some (.int i)) : Shows (.number n) (.int i)
  | string (s : String) : Shows (.string (some s)) (.string s)
  | array {shapes : List Shape} {vs : List Json} (pairs : List (Shape × Json))
      (left : shapes = pairs.map Prod.fst) (right : vs = pairs.map Prod.snd)
      (items : ∀ e ∈ pairs, Shows e.1 e.2) : Shows (.array shapes) (.array vs)
  | object {shapes : List (Option String × Shape)} {ms : List (String × Json)}
      (entries : List (String × Shape × Json))
      (left : shapes = entries.map fun e => (some e.1, e.2.1))
      (right : ms.Perm (entries.map fun e => (e.1, e.2.2)))
      (names : (ms.map Prod.fst).Nodup)
      (values : ∀ e ∈ entries, Shows e.2.1 e.2.2) : Shows (.object shapes) (.object ms)

/-- The text is one for the value, with the members of objects in any order. -/
def Denotes (text : String) (v : Json) : Prop := ∃ s, read? text = some s ∧ Shows s v

/-! ### Plain shapes -/

namespace Shape

mutual

/-- No array or object in the shape lies deeper than `depth`, and no object in it begins with the
raw name. -/
def isPlain (depth : ℕ) : Shape → Bool
  | array items => depth ≠ 0 && arePlain (depth - 1) items
  | object members => depth ≠ 0 && !isRaw members && havePlain (depth - 1) members
  | _ => true

def arePlain (depth : ℕ) : List Shape → Bool
  | [] => true
  | s :: ss => isPlain depth s && arePlain depth ss

def havePlain (depth : ℕ) : List (Option String × Shape) → Bool
  | [] => true
  | (_, s) :: ms => isPlain depth s && havePlain depth ms

end

variable {d : ℕ}

lemma arePlain_iff {ss : List Shape} : arePlain d ss = true ↔ ∀ s ∈ ss, s.isPlain d = true := by
  induction ss with
  | nil => simp [arePlain]
  | cons s ss ih => rw [arePlain, Bool.and_eq_true, ih, List.forall_mem_cons]

lemma havePlain_iff {ms : List (Option String × Shape)} :
    havePlain d ms = true ↔ ∀ m ∈ ms, m.2.isPlain d = true := by
  induction ms with
  | nil => simp [havePlain]
  | cons m ms ih => rw [havePlain, Bool.and_eq_true, ih, List.forall_mem_cons]

lemma isRaw_iff {ms : List (Option String × Shape)} :
    isRaw ms = true ↔ ∃ s ms', ms = (some rawName, s) :: ms' := by
  cases ms with
  | nil => simp [isRaw]
  | cons m ms => simp [isRaw, Prod.ext_iff]

end Shape

/-- Every text for a plain value is plain. -/
lemma Shows.isPlain {s : Shape} {v : Json} (h : Shows s v) {d : ℕ} (hv : Plain d v) :
    s.isPlain d = true := by
  induction h generalizing d with
  | null | bool | int | string => rfl
  | array pairs left right _ ih =>
    subst left right
    cases hv with
    | array items =>
      rw [Shape.isPlain, Nat.add_sub_cancel, Bool.and_eq_true]
      refine ⟨by simp, Shape.arePlain_iff.mpr fun s hs => ?_⟩
      obtain ⟨e, he, rfl⟩ := List.mem_map.mp hs
      exact ih e he (items _ (List.mem_map_of_mem he))
  | object entries left right _ _ ih =>
    subst left
    cases hv with
    | object names values =>
      have hentry : ∀ e ∈ entries, (e.1, e.2.2) ∈ _ := fun e he =>
        right.mem_iff.mpr (List.mem_map_of_mem he)
      have hraw : ¬Shape.isRaw (entries.map fun e => (some e.1, e.2.1)) = true := by
        intro hraw
        obtain ⟨s, ms', heq⟩ := Shape.isRaw_iff.mp hraw
        obtain ⟨e, entries', rfl, he, -⟩ := List.map_eq_cons_iff.mp heq
        exact names _ (hentry e List.mem_cons_self) (Option.some.inj (Prod.mk.inj he).1)
      rw [Shape.isPlain, Nat.add_sub_cancel, Bool.and_eq_true, Bool.and_eq_true]
      refine ⟨⟨by simp, by simpa using hraw⟩, Shape.havePlain_iff.mpr fun m hm => ?_⟩
      obtain ⟨e, he, rfl⟩ := List.mem_map.mp hm
      exact ih e he (values _ (hentry e he))

/-! ### Values of shapes -/

namespace Shape

variable {d : ℕ} {v : Json}

/-- What an object stands for: the value of a text in it, or its members. -/
lemma value?_object_eq_some_iff {members : List (Option String × Shape)} :
    (object members).value? d = some v ↔ d ≠ 0 ∧
      ((isRaw members = true ∧ ∃ s, raw? members = some s ∧ s.value? maxDepth = some v)
        ∨ (isRaw members = false
          ∧ ∃ ms, members? (d - 1) members = some ms ∧ v = .object (sortMembers ms))) := by
  rw [value?]
  by_cases hd : d = 0
  · simp [hd]
  rw [if_neg hd]
  cases isRaw members with
  | true =>
    rw [if_pos rfl]
    split <;> simp_all
  | false =>
    rw [if_neg Bool.false_ne_true, Option.map_eq_some_iff]
    simp [hd, eq_comm]

lemma value?_array_eq_some_iff {items : List Shape} :
    (array items).value? d = some v
      ↔ d ≠ 0 ∧ ∃ vs, values? (d - 1) items = some vs ∧ v = .array vs := by
  rw [value?, Option.ite_none_left_eq_some, Option.map_eq_some_iff]
  simp [eq_comm]

/-- An object with other members has no text that it stands for. -/
lemma raw?_eq_none {members : List (Option String × Shape)} (hraw : isRaw members = true)
    (h : members.map Prod.fst ≠ [some rawName]) : raw? members = none := by
  obtain ⟨s, ms', rfl⟩ := isRaw_iff.mp hraw
  cases ms' with
  | nil => simp at h
  | cons => simp [raw?]

/-- The names of members that have values. -/
lemma map_fst_members? {members : List (Option String × Shape)} {ms : List (String × Json)}
    (h : members? d members = some ms) : members.map Prod.fst = ms.map fun m => some m.1 := by
  induction members generalizing ms with
  | nil =>
    rw [members?] at h
    exact Option.some.inj h ▸ rfl
  | cons m members ih =>
    obtain ⟨name, s⟩ := m
    simp only [members?, Option.bind_eq_bind, Option.bind_eq_some_iff, Option.pure_def,
      Option.some.injEq] at h
    obtain ⟨k, rfl, v, -, ms', hms, rfl⟩ := h
    rw [List.map_cons, List.map_cons, ih hms]

/-- Members that do not begin with the raw name have another, in whatever order. -/
lemma map_fst_sortMembers_ne {members : List (Option String × Shape)} {ms : List (String × Json)}
    (h : members? d members = some ms) (hraw : isRaw members = false) :
    (sortMembers ms).map Prod.fst ≠ [rawName] := by
  intro heq
  have hnames := map_fst_members? h
  cases ms with
  | nil => simp [sortMembers] at heq
  | cons m ms =>
    have hname := fst_mem_sortMembers (List.mem_cons_self (a := m) (l := ms))
    rw [heq, List.mem_singleton] at hname
    obtain ⟨m', members', rfl, hm', -⟩ := List.map_eq_cons_iff.mp hnames
    simp [isRaw, hm', hname] at hraw

lemma values?_eq {pairs : List (Shape × Json)}
    (h : ∀ e ∈ pairs, e.1.value? d = if e.1.isPlain d then some e.2 else none) :
    values? d (pairs.map Prod.fst)
      = if arePlain d (pairs.map Prod.fst) then some (pairs.map Prod.snd) else none := by
  induction pairs with
  | nil => simp [values?, arePlain]
  | cons e pairs ih =>
    rw [List.map_cons, values?, arePlain, h e List.mem_cons_self,
      ih fun e' he => h e' (List.mem_cons_of_mem _ he)]
    cases e.1.isPlain d <;> cases arePlain d (pairs.map Prod.fst) <;> rfl

lemma members?_eq {entries : List (String × Shape × Json)}
    (h : ∀ e ∈ entries, e.2.1.value? d = if e.2.1.isPlain d then some e.2.2 else none) :
    members? d (entries.map fun e => (some e.1, e.2.1))
      = if havePlain d (entries.map fun e => (some e.1, e.2.1))
        then some (entries.map fun e => (e.1, e.2.2)) else none := by
  induction entries with
  | nil => simp [members?, havePlain]
  | cons e entries ih =>
    rw [List.map_cons, members?, havePlain, h e List.mem_cons_self,
      ih fun e' he => h e' (List.mem_cons_of_mem _ he)]
    cases e.2.1.isPlain d <;> cases havePlain d (entries.map fun e => (some e.1, e.2.1)) <;> rfl

end Shape

/-- A value that can be read is read from the plain shapes for it, and from no others. -/
lemma Shows.value?_eq {s : Shape} {v : Json} (h : Shows s v) (hn : Normal v) (d : ℕ) :
    s.value? d = if s.isPlain d then some v else none := by
  induction h generalizing d with
  | null | bool | string => simp [Shape.value?, Shape.isPlain]
  | int value => simp [Shape.value?, Shape.isPlain, value]; rfl
  | array pairs left right _ ih =>
    subst left right
    cases hn with
    | array items =>
      cases d with
      | zero => simp [Shape.value?, Shape.isPlain]
      | succ d =>
        rw [Shape.value?, if_neg (Nat.succ_ne_zero _), Nat.add_sub_cancel, Shape.isPlain,
          Nat.add_sub_cancel,
          Shape.values?_eq fun e he => ih e he (items _ (List.mem_map_of_mem he)) d]
        cases Shape.arePlain d (pairs.map Prod.fst) <;> rfl
  | object entries left right names _ ih =>
    subst left
    cases hn with
    | object sorted others values =>
      cases d with
      | zero => simp [Shape.value?, Shape.isPlain]
      | succ d =>
        have hmembers := Shape.members?_eq fun e he =>
          ih e he (values _ (right.mem_iff.mpr (List.mem_map_of_mem he))) d
        rw [Shape.value?, if_neg (Nat.succ_ne_zero _), Nat.add_sub_cancel, Shape.isPlain,
          Nat.add_sub_cancel]
        by_cases hraw : Shape.isRaw (entries.map fun e => (some e.1, e.2.1)) = true
        · have hnone := Shape.raw?_eq_none hraw fun heq => others ?_
          · rw [if_pos hraw, hraw, hnone]
            rfl
          · have heq' : entries.map Prod.fst = [rawName] := by
              rw [List.map_map] at heq
              exact List.map_injective_iff.mpr (Option.some_injective _) (by simpa using heq)
            have hperm := right.map Prod.fst
            rw [List.map_map] at hperm
            exact List.perm_singleton.mp (heq' ▸ hperm)
        · rw [if_neg hraw, hmembers, Bool.eq_false_of_not_eq_true hraw]
          cases Shape.havePlain d (entries.map fun e => (some e.1, e.2.1)) with
          | false => rfl
          | true =>
            simp [sortMembers_eq sorted right]

mutual

lemma normal_of_value? {s : Shape} {d : ℕ} {v : Json} (h : s.value? d = some v) :
    Normal v := by
  match s with
  | .null =>
    rw [Shape.value?] at h
    exact Option.some.inj h ▸ .null
  | .bool b =>
    rw [Shape.value?] at h
    exact Option.some.inj h ▸ .bool b
  | .number n =>
    rw [Shape.value?] at h
    obtain ⟨q, hq, rfl⟩ := Option.map_eq_some_iff.mp h
    cases q with
    | int i =>
      obtain ⟨low, high⟩ := Numeral.range_of_value? hq
      exact .int low high
    | double x => exact .double x
  | .string s =>
    rw [Shape.value?] at h
    obtain ⟨s, rfl, rfl⟩ := Option.map_eq_some_iff.mp h
    exact .string s
  | .array items =>
    obtain ⟨-, vs, hvs, rfl⟩ := Shape.value?_array_eq_some_iff.mp h
    exact .array (normal_of_values? hvs)
  | .object members =>
    obtain ⟨-, ⟨-, s, hs, hvalue⟩ | ⟨hraw, ms, hms, rfl⟩⟩ := Shape.value?_object_eq_some_iff.mp h
    · exact normal_of_value? hvalue
    · exact .object (sorted_sortMembers ms) (Shape.map_fst_sortMembers_ne hms hraw) fun m hm =>
        normal_of_members? hms m (mem_of_mem_sortMembers hm)
termination_by s.weight
decreasing_by
  · simp only [Shape.weight]
    omega
  · simpa only [Shape.weight] using Shape.raw?_weight ‹_›
  · simp only [Shape.weight]
    omega

lemma normal_of_values? {ss : List Shape} {d : ℕ} {vs : List Json}
    (h : Shape.values? d ss = some vs) : ∀ v ∈ vs, Normal v := by
  match ss with
  | [] =>
    rw [Shape.values?] at h
    obtain rfl := Option.some.inj h
    simp
  | s :: ss =>
    simp only [Shape.values?, Option.bind_eq_bind, Option.bind_eq_some_iff, Option.pure_def,
      Option.some.injEq] at h
    obtain ⟨v, hv, vs', hvs, rfl⟩ := h
    exact List.forall_mem_cons.mpr ⟨normal_of_value? hv, normal_of_values? hvs⟩
termination_by Shape.itemsWeight ss
decreasing_by
  all_goals
    simp only [Shape.itemsWeight]
    omega

lemma normal_of_members? {ss : List (Option String × Shape)} {d : ℕ} {ms : List (String × Json)}
    (h : Shape.members? d ss = some ms) : ∀ m ∈ ms, Normal m.2 := by
  match ss with
  | [] =>
    rw [Shape.members?] at h
    obtain rfl := Option.some.inj h
    simp
  | (name, s) :: ss =>
    simp only [Shape.members?, Option.bind_eq_bind, Option.bind_eq_some_iff, Option.pure_def,
      Option.some.injEq] at h
    obtain ⟨k, -, v, hv, ms', hms, rfl⟩ := h
    exact List.forall_mem_cons.mpr ⟨normal_of_value? hv, normal_of_members? hms⟩
termination_by Shape.membersWeight ss
decreasing_by
  all_goals
    simp only [Shape.membersWeight]
    omega

end

end Catalog.Json
