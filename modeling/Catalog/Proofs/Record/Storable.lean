import Catalog.Proofs.Name
import Catalog.Proofs.Record.Note
import Catalog.Proofs.Record.Occurrence

/-!
Records that a database can keep. They stay such when a store gives them their names and their
times.
-/

namespace Catalog

open Catalog.Json

/-! ### Texts without NUL -/

lemma Json.isClean_append {s t : String} : IsClean (s ++ t) ↔ IsClean s ∧ IsClean t := by
  simp [IsClean, not_or]

lemma Time.isClean_render (t : Time) : IsClean t.render := by
  have hpadded : ∀ width n, '\x00' ∉ padded width n := fun _ _ h => by
    simpa using isDigit_padded h
  have hyear : ∀ year, '\x00' ∉ renderYear year := by
    intro year
    unfold renderYear
    split
    · exact hpadded _ _
    · simp only [List.mem_cons, not_or]
      exact ⟨by split <;> decide, hpadded _ _⟩
  have hfraction : ∀ nanos, '\x00' ∉ renderFraction nanos := by
    intro nanos
    unfold renderFraction
    split_ifs <;> simp [hpadded]
  simp [IsClean, render, hpadded, hyear, hfraction]

namespace Name

lemma isClean_project {id : String} (h : IsClean id) : IsClean (project id) :=
  isClean_append.mpr ⟨by decide, h⟩

lemma isClean_child (c : Child) {p i : String} :
    IsClean (child c p i) ↔ IsClean p ∧ IsClean i := by
  have hfixed : IsClean "projects/" ∧ IsClean "/" ∧ IsClean c.collection := by
    cases c <;> decide
  simp [child, isClean_append, hfixed]

end Name

namespace Record

/-! ### Times of records -/

section

variable {name : String} {t : Option Time}

lemma clean_timeMember (h : IsClean name) : ∀ m ∈ timeMember name t, IsClean m.1 ∧ Clean m.2 := by
  cases t with
  | none => simp [timeMember]
  | some t => simpa [timeMember] using ⟨h, Clean.string t.isClean_render⟩

end

lemma whole_object_iff {ms : List (String × Json)} : Whole (.object ms) ↔ ∀ m ∈ ms, Whole m.2 :=
  ⟨fun h => by cases h with | object values => exact values, .object⟩

lemma clean_object_iff {ms : List (String × Json)} :
    Clean (.object ms) ↔ ∀ m ∈ ms, IsClean m.1 ∧ Clean m.2 := by
  refine ⟨fun h m hm => ?_, fun h => .object (fun m hm => (h m hm).1) fun m hm => (h m hm).2⟩
  cases h with
  | object names values => exact ⟨names m hm, values m hm⟩

/-! ### Records -/

section

open Payload LawfulPayload

variable {α : Type} [Payload α] [LawfulPayload α] {a : α} {name : String}
  {create update : Option Time}

/-- The record is read from a payload, with whole numbers only, and nothing in its details has the
raw name. -/
structure IsGiven (a : α) : Prop where
  given : ∃ text, ofText? text = some a
  whole : Whole (toJson a)
  plain : IsPlain a

/-- The record is read again from whatever denotes it. -/
structure IsRecoverable (a : α) : Prop where
  readable : IsReadable a
  whole : Whole (toJson a)
  plain : IsPlain a

/-- The record can be stored, and read again: there is no NUL in it. -/
structure IsStorable (a : α) : Prop extends IsRecoverable a where
  clean : Clean (toJson a)

lemma IsGiven.recoverable (h : IsGiven a) : IsRecoverable a :=
  have ⟨_, hread⟩ := h.given
  ⟨isReadable_of_ofText? hread, h.whole, h.plain⟩

lemma IsGiven.storable (h : IsGiven a) (hclean : Clean (toJson a)) : IsStorable a :=
  ⟨h.recoverable, hclean⟩

lemma IsRecoverable.denotes (h : IsRecoverable a) : Denotes (Payload.text a) (toJson a) :=
  denotes_text h.readable h.whole

lemma IsRecoverable.ofText?_eq (h : IsRecoverable a) {text : String}
    (hdenotes : Denotes text (toJson a)) : ofText? text = some a :=
  ofText?_of_isPlain h.readable h.plain hdenotes

/-- A record that is recovered from its own payload is one that is given. -/
lemma IsRecoverable.given (h : IsRecoverable a) : IsGiven a :=
  ⟨⟨_, h.ofText?_eq h.denotes⟩, h.whole, h.plain⟩

lemma whole_stamp (h : Whole (toJson a)) : Whole (toJson (stamp name create update a)) := by
  refine whole_toJson fun m hm => whole_object_iff.mp h m (List.mem_append_right _ ?_)
  rwa [details_stamp] at hm

lemma clean_stamp (h : Clean (toJson a)) (hname : IsClean name) :
    Clean (toJson (stamp name create update a)) := by
  refine clean_object_iff.mpr fun m hm => ?_
  rw [details_stamp] at hm
  have hold := clean_object_iff.mp h m
  rcases List.mem_append.mp hm with hdeclared | hdetail
  · rcases declared_stamp m hdeclared with h | rfl | h | h
    · exact hold (List.mem_append_left _ h)
    · exact ⟨(by decide : IsClean "name"), .string hname⟩
    · exact clean_timeMember (by decide) m h
    · exact clean_timeMember (by decide) m h
  · exact hold (List.mem_append_right _ hdetail)

lemma IsRecoverable.stamp (h : IsRecoverable a) (name : String) (create update : Option Time)
    (hcreate : ∀ t ∈ create, t.IsValid) (hupdate : ∀ t ∈ update, t.IsValid) :
    IsRecoverable (stamp name create update a) :=
  ⟨h.readable.stamp name hcreate hupdate, whole_stamp h.whole, h.plain.stamp name create update⟩

lemma IsStorable.stamp (h : IsStorable a) (hname : IsClean name) (create update : Option Time)
    (hcreate : ∀ t ∈ create, t.IsValid) (hupdate : ∀ t ∈ update, t.IsValid) :
    IsStorable (stamp name create update a) :=
  ⟨h.toIsRecoverable.stamp name create update hcreate hupdate, clean_stamp h.clean hname⟩

end

/-- The note that an occurrence is of has a name without NUL. -/
lemma IsStorable.clean_noteName {o : Occurrence} (h : IsStorable o) : IsClean o.noteName := by
  have hmember := (clean_object_iff.mp h.clean ("note_name", .string o.noteName)
    (List.mem_append_left _ (by simp [Payload.declared]))).2
  cases hmember with
  | string text => exact text

end Record

end Catalog
