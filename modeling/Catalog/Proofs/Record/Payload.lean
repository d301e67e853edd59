import Catalog.Proofs.Json.Writing
import Catalog.Proofs.Record.Field
import Catalog.Record.Payload

/-!
Records and the texts they are read of. A record is read back from every text that denotes what is
written of it, as long as the text is plain: where an object in its details begins with the raw
name, the text is refused.
-/

namespace Catalog.Record

open Catalog.Json Payload

/-- Kinds of records of which the declared fields are read back as they are written. -/
class LawfulPayload (α : Type) [Payload α] where
  nodup_fieldNames : (fieldNames α).Nodup
  sublist_declared : ∀ a : α, ((declared a).map Prod.fst).Sublist (fieldNames α)
  sound_declared : ∀ a : α, ∀ m ∈ declared a, Sound m.2
  /-- The times in a record. -/
  times : α → List Time
  /-- What is made has the details that it is made with, and times that can be written. -/
  of_make? {fields : List (Option Shape)} {ds : List (String × Json)} {a : α} :
    make? fields ds = some a → details a = ds ∧ ∀ t ∈ times a, t.IsValid
  /-- A record is made of the fields that its members give. -/
  make?_of_gives {fields : List (Option Shape)} {a : α} : (∀ t ∈ times a, t.IsValid) →
    List.Forall₂ (fun name o => Gives o (membersOf name (declared a))) (fieldNames α) fields →
      make? fields (details a) = some a
  /-- The record under another name, and with other times of its creation and its update where
  these are given. -/
  stamp : String → Option Time → Option Time → α → α
  details_stamp {name : String} {create update : Option Time} {a : α} :
    details (stamp name create update a) = details a
  times_stamp {name : String} {create update : Option Time} {a : α} :
    ∀ t ∈ times (stamp name create update a), t ∈ times a ∨ t ∈ create ∨ t ∈ update
  declared_stamp {name : String} {create update : Option Time} {a : α} :
    ∀ m ∈ declared (stamp name create update a), m ∈ declared a ∨ m = ("name", .string name)
      ∨ m ∈ timeMember "create_time" create ∨ m ∈ timeMember "update_time" update

variable {α : Type} [Payload α]

/-- The text is plain in what it has besides the declared fields. -/
def IsPlainText (α : Type) [Payload α] (text : String) : Prop :=
  (Json.read? text).all (isPlainBeside (fieldNames α)) = true

instance : DecidablePred (IsPlainText α) := fun _ => inferInstanceAs (Decidable (_ = true))

/-- A text is read to a record by its declared fields, beside its details. -/
lemma exists_flatten_of_ofText? {text : String} {a : α} (h : ofText? text = some a) :
    ∃ s fields ds, Json.read? text = some s ∧ s.flatten? (fieldNames α) = some (fields, ds)
      ∧ make? fields ds = some a := by
  obtain ⟨s, hs, h⟩ := Option.bind_eq_some_iff.mp h
  obtain ⟨⟨fields, ds⟩, hflatten, hmake⟩ := Option.bind_eq_some_iff.mp h
  exact ⟨s, fields, ds, hs, hflatten, hmake⟩

variable [LawfulPayload α] {a : α} {text : String}

open LawfulPayload

/-- The record is one that is read: what it keeps besides its fields has other names, and its times
can be written. -/
structure IsReadable (a : α) : Prop where
  times : ∀ t ∈ times a, t.IsValid
  details : AreDetails (fieldNames α) (details a)

lemma exists_flatten (h : ofText? text = some a) :
    ∃ s fields, Json.read? text = some s
      ∧ s.flatten? (fieldNames α) = some (fields, details a) := by
  obtain ⟨s, fields, ds, hs, hflatten, hmake⟩ := exists_flatten_of_ofText? h
  obtain ⟨rfl, -⟩ := of_make? hmake
  exact ⟨s, fields, hs, hflatten⟩

/-- Whatever is read is such. -/
theorem isReadable_of_ofText? (h : ofText? text = some a) : IsReadable a := by
  obtain ⟨s, fields, ds, -, hflatten, hmake⟩ := exists_flatten_of_ofText? h
  obtain ⟨rfl, htimes⟩ := of_make? hmake
  exact ⟨htimes, areDetails_of_flatten? hflatten⟩

/-! ### Writing -/

lemma whole_toJson (h : ∀ m ∈ details a, Whole m.2) : Whole (toJson a) :=
  .object (List.forall_mem_append.mpr ⟨fun m hm => (sound_declared a m hm).whole, h⟩)

lemma sound_toJson (ha : IsReadable a) (h : Whole (toJson a)) : Sound (toJson a) :=
  ha.details.sound_object nodup_fieldNames (sublist_declared a) (sound_declared a) h

/-- What is stored of a record denotes it. -/
lemma denotes_text (ha : IsReadable a) (h : Whole (toJson a)) :
    Denotes (Payload.text a) (toJson a) :=
  denotes_compact (sound_toJson ha h)

/-! ### Reading -/

/-- **A record is read back** from the plain texts that denote it, and from no others. -/
theorem ofText?_of_denotes (ha : IsReadable a) (h : Denotes text (toJson a)) :
    ofText? text = if IsPlainText α text then some a else none := by
  obtain ⟨s, hread, hshows⟩ := h
  obtain ⟨fields, hflatten, hgives⟩ := exists_flatten? hshows (fieldNames α)
    (ha.details.filter_append (sublist_declared a)) ha.details
  have hmake : make? fields (details a) = some a := by
    refine make?_of_gives ha.times ?_
    have hnames := (List.forall₂_and_left (p := (· ∈ fieldNames α)) _ _).mpr ⟨fun _ h => h, hgives⟩
    refine hnames.imp fun name o ⟨hname, h⟩ => ?_
    rwa [membersOf_append, ha.details.membersOf_eq hname, List.append_nil] at h
  rw [ofText?, hread, Option.bind_some, Payload.read?, hflatten]
  by_cases hplain : isPlainBeside (fieldNames α) s = true
  · rw [if_pos hplain, if_pos (by rwa [IsPlainText, hread])]
    exact hmake
  · rw [if_neg hplain, if_neg (by rwa [IsPlainText, hread])]
    rfl

/-- Nothing in the details of the record has the raw name, and they are not nested deeper than they
can be read. -/
def IsPlain (a : α) : Prop := ∀ m ∈ details a, Plain (maxDepth - 1) m.2

/-- A plain record is read back from every text that denotes it. -/
lemma ofText?_of_isPlain (ha : IsReadable a) (hplain : IsPlain a) (h : Denotes text (toJson a)) :
    ofText? text = some a := by
  rw [ofText?_of_denotes ha h, if_pos]
  obtain ⟨s, hread, hshows⟩ := h
  rw [IsPlainText, hread]
  refine isPlainBeside_of_shows hshows fun m hm hother => hplain m ?_
  refine (List.mem_append.mp hm).resolve_left fun hdeclared => hother ?_
  exact (sublist_declared a).subset (List.mem_map_of_mem hdeclared)

/-! ### Stamps -/

section

variable {name : String} {create update : Option Time}

lemma IsReadable.stamp (ha : IsReadable a) (name : String) (hcreate : ∀ t ∈ create, t.IsValid)
    (hupdate : ∀ t ∈ update, t.IsValid) : IsReadable (stamp name create update a) where
  times t ht := by
    rcases times_stamp t ht with h | h | h
    exacts [ha.times t h, hcreate t h, hupdate t h]
  details := by
    rw [details_stamp]
    exact ha.details

lemma IsPlain.stamp (ha : IsPlain a) (name : String) (create update : Option Time) :
    IsPlain (stamp name create update a) := by
  rw [IsPlain, details_stamp]
  exact ha

end

end Catalog.Record
