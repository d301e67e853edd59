import Catalog.Proofs.Record.Payload
import Catalog.Record.Occurrence

/-!
Occurrences are read back from what is written of them.
-/

namespace Catalog.Record

open Catalog.Json

namespace ContentHash

variable {x : ContentHash} {s : Shape}

lemma read?_eq (h : Shows s x.toJson) : read? s = some x := by
  obtain ⟨os, hos, hgives⟩ := exists_fields? h ["type", "value"]
  match os, hgives with
  | [type, value], .cons htype (.cons hvalue .nil) =>
    simp at htype hvalue
    simp [read?, hos, htype.required, hvalue.required]

lemma sound_toJson (x : ContentHash) : Sound x.toJson :=
  .object (by simp) (by simpa using ⟨.string _, .string _⟩)

/-- A hash that may be missing. -/
lemma optional_eq {o : Option Shape} {name : String} {x : Option ContentHash}
    (h : Gives o (x.toList.map fun y => (name, y.toJson))) :
    Shape.withDefault none (Shape.nullable? read?) o = some x := by
  cases x with
  | none =>
    cases h
    rfl
  | some y =>
    cases h with
    | given _ value =>
      have hread := read?_eq value
      cases value with
      | object => simp only [Shape.withDefault, Shape.nullable?, hread, Option.map_some]

end ContentHash

namespace Resource

variable {r : Resource} {s : Shape}

/-- The members of a resource. -/
def members (r : Resource) : List (String × Json) :=
  textMember "name" r.name ++ [("uri", .string r.uri)]
    ++ r.contentHash.toList.map fun x => ("content_hash", x.toJson)

lemma toJson_eq (r : Resource) : r.toJson = .object r.members := by simp [toJson, members]

lemma membersOf_hash (name : String) (x : Option ContentHash) :
    membersOf name (x.toList.map fun y => ("content_hash", y.toJson))
      = if "content_hash" == name then x.toList.map fun y => ("content_hash", y.toJson)
        else [] := by
  cases x <;> simp

lemma read?_eq (h : Shows s r.toJson) : read? s = some r := by
  rw [toJson_eq] at h
  obtain ⟨os, hos, hgives⟩ := exists_fields? h ["name", "uri", "content_hash"]
  match os, hgives with
  | [name, uri, hash], .cons hname (.cons huri (.cons hhash .nil)) =>
    simp [members, membersOf_hash] at hname huri hhash
    simp [read?, hos, hname.textMember, huri.text, ContentHash.optional_eq hhash]

lemma read?_given {o : Option Shape} {name : String} (h : Gives o [(name, r.toJson)]) :
    Shape.withDefault .empty read? o = some r := by
  cases h with
  | given _ value => exact read?_eq value

lemma sublist_members (r : Resource) :
    (r.members.map Prod.fst).Sublist ["name", "uri", "content_hash"] := by
  have hhash : ((r.contentHash.toList.map fun x => ("content_hash", x.toJson)).map
      Prod.fst).Sublist ["content_hash"] := by
    cases r.contentHash <;> simp
  simp only [members, List.map_append]
  exact ((sublist_textMember _ _).append (.refl ["uri"])).append hhash

lemma sound_toJson (r : Resource) : Sound r.toJson := by
  rw [toJson_eq]
  refine .object (r.sublist_members.nodup (by decide)) ?_
  simp only [members, List.forall_mem_append, List.forall_mem_singleton, List.forall_mem_map]
  exact ⟨⟨sound_textMember _ _, .string _⟩, fun x _ => x.sound_toJson⟩

end Resource

namespace Occurrence

/-- The times in an occurrence. -/
def times (o : Occurrence) : List Time := o.createTime.toList ++ o.updateTime.toList

variable {o : Occurrence}

lemma sublist_declared (o : Occurrence) :
    ((Payload.declared o).map Prod.fst).Sublist fieldNames := by
  simp only [Payload.declared, List.map_append]
  exact (((List.Sublist.refl ["name", "resource", "note_name", "kind"]).append
    (sublist_textMember _ _)).append (sublist_timeMember _ _)).append (sublist_timeMember _ _)

lemma sound_declared (o : Occurrence) : ∀ m ∈ Payload.declared o, Sound m.2 := by
  simp only [Payload.declared, List.forall_mem_append, List.forall_mem_cons]
  exact ⟨⟨⟨⟨.string _, o.resource.sound_toJson, .string _, .string _, by simp⟩,
    sound_textMember _ _⟩, sound_timeMember _ _⟩, sound_timeMember _ _⟩

lemma of_make? {fields : List (Option Shape)} {ds : List (String × Json)}
    (h : Payload.make? fields ds = some o) : o.details = ds ∧ ∀ t ∈ o.times, t.IsValid := by
  simp only [Payload.make?] at h
  split at h
  · simp only [Option.bind_eq_bind, Option.bind_eq_some_iff, Option.pure_def,
      Option.some.injEq] at h
    obtain ⟨_, -, _, -, _, -, _, -, _, -, _, hcreate, _, hupdate, rfl⟩ := h
    refine ⟨rfl, ?_⟩
    simp only [times, List.forall_mem_append, Option.mem_toList]
    exact ⟨isValid_of_optionalTime? hcreate, isValid_of_optionalTime? hupdate⟩
  · cases h

lemma make?_of_gives {fields : List (Option Shape)} (ht : ∀ t ∈ o.times, t.IsValid)
    (h : List.Forall₂ (fun name f => Gives f (membersOf name (Payload.declared o))) fieldNames
      fields) : Payload.make? fields o.details = some o := by
  simp only [times, List.forall_mem_append, Option.mem_toList] at ht
  obtain ⟨hcreated, hupdated⟩ := ht
  simp only [fieldNames, Payload.fieldNames, List.forall₂_cons_left_iff,
    List.forall₂_nil_left_iff] at h
  obtain ⟨_, _, hname, ⟨_, _, hresource, ⟨_, _, hnoteName, ⟨_, _, hkind, ⟨_, _, hremediation,
    ⟨_, _, hcreate, ⟨_, _, hupdate, rfl, rfl⟩, rfl⟩, rfl⟩, rfl⟩, rfl⟩, rfl⟩, rfl⟩ := h
  simp [Payload.declared] at hname hresource hnoteName hkind hremediation hcreate hupdate
  simp [Payload.make?, hname.text, Resource.read?_given hresource, hnoteName.text, hkind.kind,
    hremediation.textMember, hcreate.timeMember hcreated, hupdate.timeMember hupdated]

/-- The occurrence under another name, and with other times where these are given. -/
def stamp (name : String) (create update : Option Time) (o : Occurrence) : Occurrence :=
  { o with name := name, createTime := create.or o.createTime,
           updateTime := update.or o.updateTime }

lemma times_stamp {name : String} {create update : Option Time} :
    ∀ t ∈ (o.stamp name create update).times, t ∈ o.times ∨ t ∈ create ∨ t ∈ update := by
  intro t ht
  simp only [times, stamp, List.mem_append, Option.mem_toList, Option.mem_def,
    Option.or_eq_some_iff] at ht ⊢
  tauto

lemma declared_stamp {name : String} {create update : Option Time} :
    ∀ m ∈ Payload.declared (o.stamp name create update), m ∈ Payload.declared o
      ∨ m = ("name", .string name) ∨ m ∈ timeMember "create_time" create
      ∨ m ∈ timeMember "update_time" update := by
  intro m hm
  have hcreate := @mem_timeMember_or "create_time" m create o.createTime
  have hupdate := @mem_timeMember_or "update_time" m update o.updateTime
  simp only [Payload.declared, stamp, List.mem_append, List.mem_cons] at hm ⊢
  tauto

instance : LawfulPayload Occurrence where
  nodup_fieldNames := by decide
  sublist_declared := sublist_declared
  sound_declared := sound_declared
  times := times
  of_make? := of_make?
  make?_of_gives := make?_of_gives
  stamp := stamp
  details_stamp := rfl
  times_stamp := times_stamp
  declared_stamp := declared_stamp

end Occurrence

end Catalog.Record
