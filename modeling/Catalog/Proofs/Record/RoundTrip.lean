import Catalog.Proofs.Record.Note
import Catalog.Proofs.Record.Occurrence

/-!
From a text to a record and back. What is written of a record that was read from a text without
fractions is read as the same record, and tells the same as the text about all members that are not
declared.
-/

namespace Catalog

open Catalog.Json

namespace Json

/-! ### Texts without fractions -/

namespace Shape

mutual

/-- Every number is read as an integer. -/
def isWhole : Shape → Bool
  | number n =>
    match n.value? with
    | some (.int _) => true
    | _ => false
  | array items => areWhole items
  | object members => haveWhole members
  | _ => true

def areWhole : List Shape → Bool
  | [] => true
  | s :: ss => isWhole s && areWhole ss

def haveWhole : List (Option String × Shape) → Bool
  | [] => true
  | (_, s) :: ms => isWhole s && haveWhole ms

end

lemma isWhole_of_mem {ms : List (Option String × Shape)} (h : haveWhole ms = true) :
    ∀ m ∈ ms, m.2.isWhole = true := by
  induction ms with
  | nil => simp
  | cons m ms ih =>
    obtain ⟨hm, hms⟩ := Bool.and_eq_true_iff.mp h
    exact List.forall_mem_cons.mpr ⟨hm, ih hms⟩

mutual

/-- A plain shape without fractions has a value without them. -/
lemma whole_of_value? {s : Shape} (hs : s.isWhole = true) {d : ℕ} (hplain : s.isPlain d = true)
    {v : Json} (h : s.value? d = some v) : Whole v := by
  match s with
  | .null =>
    rw [value?] at h
    exact Option.some.inj h ▸ .null
  | .bool b =>
    rw [value?] at h
    exact Option.some.inj h ▸ .bool b
  | .number n =>
    rw [value?] at h
    obtain ⟨q, hq, rfl⟩ := Option.map_eq_some_iff.mp h
    cases q with
    | int i => exact .int i
    | double x =>
      rw [isWhole, hq] at hs
      cases hs
  | .string s =>
    rw [value?] at h
    obtain ⟨s, -, rfl⟩ := Option.map_eq_some_iff.mp h
    exact .string s
  | .array items =>
    obtain ⟨-, vs, hvs, rfl⟩ := value?_array_eq_some_iff.mp h
    rw [isPlain, Bool.and_eq_true] at hplain
    exact .array (whole_of_values? hs hplain.2 hvs)
  | .object members =>
    rw [isPlain, Bool.and_eq_true, Bool.and_eq_true] at hplain
    obtain ⟨-, ⟨hraw, -⟩ | ⟨-, ms, hms, rfl⟩⟩ := value?_object_eq_some_iff.mp h
    · simp [hraw] at hplain
    · exact .object fun m hm =>
        whole_of_members? hs hplain.2 hms m (mem_of_mem_sortMembers hm)

lemma whole_of_values? {ss : List Shape} (hs : areWhole ss = true) {d : ℕ}
    (hplain : arePlain d ss = true) {vs : List Json} (h : values? d ss = some vs) :
    ∀ v ∈ vs, Whole v := by
  match ss with
  | [] =>
    rw [values?] at h
    obtain rfl := Option.some.inj h
    simp
  | s :: ss =>
    obtain ⟨hs, hss⟩ := Bool.and_eq_true_iff.mp hs
    obtain ⟨hp, hps⟩ := Bool.and_eq_true_iff.mp hplain
    simp only [values?, Option.bind_eq_bind, Option.bind_eq_some_iff, Option.pure_def,
      Option.some.injEq] at h
    obtain ⟨v, hv, vs', hvs, rfl⟩ := h
    exact List.forall_mem_cons.mpr ⟨whole_of_value? hs hp hv, whole_of_values? hss hps hvs⟩

lemma whole_of_members? {ss : List (Option String × Shape)} (hs : haveWhole ss = true) {d : ℕ}
    (hplain : havePlain d ss = true) {ms : List (String × Json)} (h : members? d ss = some ms) :
    ∀ m ∈ ms, Whole m.2 := by
  match ss with
  | [] =>
    rw [members?] at h
    obtain rfl := Option.some.inj h
    simp
  | (name, s) :: ss =>
    obtain ⟨hs, hss⟩ := Bool.and_eq_true_iff.mp hs
    obtain ⟨hp, hps⟩ := Bool.and_eq_true_iff.mp hplain
    simp only [members?, Option.bind_eq_bind, Option.bind_eq_some_iff, Option.pure_def,
      Option.some.injEq] at h
    obtain ⟨k, -, v, hv, ms', hms, rfl⟩ := h
    exact List.forall_mem_cons.mpr ⟨whole_of_value? hs hp hv, whole_of_members? hss hps hms⟩

end

end Shape

/-- Every number in the JSON text is an integer of 64 bits, and written as one: neither with a
point nor with a power of ten, and not as minus zero. -/
def IsWholeText (text : String) : Prop := (read? text).all Shape.isWhole = true

instance : DecidablePred IsWholeText := fun _ => inferInstanceAs (Decidable (_ = true))

/-! ### Members of a text -/

/-- The value that an object has under a name in a text: that of the last member of the name. -/
def member? (name text : String) : Option Json :=
  match read? text with
  | some (.object members) => (last? (some name) members).bind (·.value? (maxDepth - 1))
  | _ => none

/-- The text is an object with a member of that name. -/
def HasMember (name text : String) : Prop :=
  ∃ members s, read? text = some (.object members) ∧ (some name, s) ∈ members

lemma last?_named? {members : List (Option String × Shape)} {ms : List (String × Shape)}
    (h : Shape.named? members = some ms) (name : String) :
    last? (some name) members = last? name ms := by
  induction members generalizing ms with
  | nil => exact Option.some.inj h ▸ rfl
  | cons m members ih =>
    obtain ⟨k, s⟩ := m
    simp only [Shape.named?, List.mapM_cons, Option.bind_eq_bind, Option.bind_eq_some_iff,
      Option.map_eq_some_iff, Option.pure_def, Option.some.injEq] at h
    obtain ⟨-, ⟨k, rfl, rfl⟩, ms', hms, rfl⟩ := h
    simp only [last?, ih hms, Option.some.injEq]

/-- Where the values of all members are read, the last of a name has the value of the last. -/
lemma last?_values {d : ℕ} {ms : List (String × Shape)} {others : List (String × Json)}
    (h : ms.mapM (fun (k, v) => (v.value? d).map (k, ·)) = some others) (name : String) :
    (last? name ms = none ∧ last? name others = none)
      ∨ ∃ s v, last? name ms = some s ∧ s.value? d = some v ∧ last? name others = some v := by
  induction ms generalizing others with
  | nil => exact .inl ⟨rfl, Option.some.inj h ▸ rfl⟩
  | cons m ms ih =>
    obtain ⟨k, s⟩ := m
    simp only [List.mapM_cons, Option.bind_eq_bind, Option.bind_eq_some_iff,
      Option.map_eq_some_iff, Option.pure_def, Option.some.injEq] at h
    obtain ⟨-, ⟨v, hv, rfl⟩, others', hothers, rfl⟩ := h
    simp only [last?]
    rcases ih hothers with ⟨hms, hos⟩ | ⟨s', v', hms, hv', hos⟩
    · rw [hms, hos, Option.none_or, Option.none_or]
      by_cases hk : k = name
      · rw [if_pos hk, if_pos hk]
        exact .inr ⟨s, v, rfl, hv, rfl⟩
      · rw [if_neg hk, if_neg hk]
        exact .inl ⟨rfl, rfl⟩
    · rw [hms, hos]
      exact .inr ⟨s', v', rfl, hv', rfl⟩

end Json

namespace Record

/-! ### Details -/

/-- What a text tells about members that are not declared are the details of its record. -/
lemma member?_eq {text : String} {s : Shape} {names : List String} {os : List (Option Shape)}
    {details : List (String × Json)} (hread : Json.read? text = some s)
    (hflatten : s.flatten? names = some (os, details)) {name : String} (hname : name ∉ names) :
    member? name text = last? name details
      ∧ (HasMember name text → ∃ v, member? name text = some v) := by
  cases s with
  | object members =>
    simp only [Shape.flatten?, Option.bind_eq_bind, Option.bind_eq_some_iff, Option.pure_def,
      Option.some.injEq, Prod.mk.injEq] at hflatten
    obtain ⟨ms, hnamed, -, -, others, hothers, -, rfl⟩ := hflatten
    have hkept : last? name (ms.filter (·.1 ∉ names)) = last? (some name) members := by
      rw [last?_filter (fun _ => by simpa using hname), last?_named? hnamed]
    simp only [member?, hread, last?_sortMembers, ← hkept]
    rcases last?_values hothers name with ⟨hms, hos⟩ | ⟨s, v, hms, hv, hos⟩
    · refine ⟨by rw [hms, hos]; rfl, fun hhas => ?_⟩
      obtain ⟨members', s, hread', hmem⟩ := hhas
      obtain rfl := Shape.object.inj (Option.some.inj (hread.symm.trans hread'))
      obtain ⟨s', hs'⟩ := exists_last? ⟨s, hmem⟩
      rw [← hkept, hms] at hs'
      cases hs'
    · have hvalue : (last? name (ms.filter (·.1 ∉ names))).bind (·.value? (maxDepth - 1))
          = some v := by rw [hms, Option.bind_some, hv]
      exact ⟨by rw [hvalue, hos], fun _ => ⟨v, hvalue⟩⟩
  | _ => simp [Shape.flatten?] at hflatten

/-- The details of a plain text without fractions are without them. -/
lemma whole_of_flatten? {s : Shape} {names : List String} {fields : List (Option Shape)}
    {details : List (String × Json)} (hs : s.isWhole = true)
    (hplain : isPlainBeside names s = true)
    (hflatten : s.flatten? names = some (fields, details)) : ∀ m ∈ details, Whole m.2 := by
  cases s with
  | object members =>
    simp only [Shape.flatten?, Option.bind_eq_bind, Option.bind_eq_some_iff, Option.pure_def,
      Option.some.injEq, Prod.mk.injEq] at hflatten
    obtain ⟨ms, hnamed, -, -, others, hothers, -, rfl⟩ := hflatten
    intro m hm
    obtain ⟨⟨k, s⟩, hks, hvalue⟩ := exists_of_mem_mapM hothers (mem_of_mem_sortMembers hm)
    obtain ⟨v, hv, rfl⟩ := Option.map_eq_some_iff.mp hvalue
    obtain ⟨hks, hother⟩ := List.mem_filter.mp hks
    obtain ⟨⟨k', s'⟩, hmem, hkey⟩ := exists_of_mem_mapM hnamed hks
    obtain ⟨k'', rfl, heq⟩ := Option.map_eq_some_iff.mp hkey
    obtain ⟨rfl, rfl⟩ := Prod.mk.inj heq
    have hbeside := Shape.havePlain_iff.mp hplain (some k'', s')
      (List.mem_filter.mpr ⟨hmem, by simpa using hother⟩)
    exact Shape.whole_of_value? (Shape.isWhole_of_mem hs _ hmem) hbeside hv
  | _ => simp [Shape.flatten?] at hflatten

/-! ### Records -/

open Payload

/-- The payload tells the same as the text about all members but the declared ones, and has every
one that the text has. -/
def Keeps (names : List String) (text payload : String) : Prop :=
  ∀ name ∉ names, member? name payload = member? name text
    ∧ (HasMember name text → ∃ v, member? name payload = some v)

/-- The record is written without loss: what is written of it is read as the same record, which is
written as the same text again, and has the members of the text that are not declared. -/
structure IsKept {α : Type} [Payload α] (text : String) (a : α) : Prop where
  back : ofText? (Payload.text a) = some a
  again : (ofText? (α := α) (Payload.text a)).map Payload.text = some (Payload.text a)
  members : Keeps (fieldNames α) text (Payload.text a)

section

variable {α : Type} [Payload α] [LawfulPayload α] {a : α} {text : String}

/-- A record that is read from a plain text without fractions is without them. -/
lemma whole_of_ofText? (h : ofText? text = some a) (hwhole : IsWholeText text)
    (hplain : IsPlainText α text) : Whole (toJson a) := by
  obtain ⟨s, fields, hread, hflatten⟩ := exists_flatten h
  rw [IsWholeText, hread] at hwhole
  rw [IsPlainText, hread] at hplain
  exact whole_toJson (whole_of_flatten? hwhole hplain hflatten)

lemma ofText?_text (h : ofText? text = some a) (hwhole : Whole (toJson a)) :
    ofText? (Payload.text a) = if IsPlainText α (Payload.text a) then some a else none :=
  have ha := isReadable_of_ofText? h
  ofText?_of_denotes ha (denotes_text ha hwhole)

lemma undeclared_details (h : ofText? text = some a) : ∀ m ∈ details a, m.1 ∉ fieldNames α :=
  (isReadable_of_ofText? h).details.undeclared

/-- The details of a record are what the text tells of the names that are not declared. -/
lemma last?_details (h : ofText? text = some a) :
    ∀ name ∉ fieldNames α, last? name (details a) = member? name text := by
  intro name hname
  obtain ⟨s, fields, hread, hflatten⟩ := exists_flatten h
  exact (member?_eq hread hflatten hname).1.symm

lemma keeps_text (h : ofText? text = some a) (hback : ofText? (Payload.text a) = some a) :
    Keeps (fieldNames α) text (Payload.text a) := by
  intro name hname
  obtain ⟨s, fields, hread, hflatten⟩ := exists_flatten h
  obtain ⟨s', fields', hread', hflatten'⟩ := exists_flatten hback
  obtain ⟨hmember, hhas⟩ := member?_eq hread hflatten hname
  rw [(member?_eq hread' hflatten' hname).1.trans hmember.symm]
  exact ⟨rfl, hhas⟩

/-- A record is kept if what is written of it is plain. -/
lemma isKept_iff (h : ofText? text = some a) (hwhole : Whole (toJson a)) :
    IsKept text a ↔ IsPlainText α (Payload.text a) := by
  have hread := ofText?_text h hwhole
  constructor
  · intro hkept
    by_contra hplain
    rw [if_neg hplain, hkept.back] at hread
    cases hread
  · intro hplain
    rw [if_pos hplain] at hread
    exact ⟨hread, by rw [hread]; rfl, keeps_text h hread⟩

end

/-- A plain text of an object with two members. Their names are sorted when they are written, so
that the object begins with the raw name, and is refused because there is another member in it. -/
def rawNamedText : String :=
  "\x7b\"x\":\x7b\"a\":1,\"$serde_json::private::RawValue\":\"nope\"\x7d\x7d"

/-- A text of an object that is taken for the number in it. -/
def rawNumberText : String := "\x7b\"x\":\x7b\"$serde_json::private::RawValue\":\"5\"\x7d\x7d"

end Record

end Catalog
