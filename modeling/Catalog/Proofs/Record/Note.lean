import Catalog.Proofs.Record.Payload
import Catalog.Record.Note

/-!
Notes are read back from what is written of them.
-/

namespace Catalog.Record

open Catalog.Json

lemma RelatedUrl.read?_eq {u : RelatedUrl} {s : Shape} (h : Shows s u.toJson) :
    read? s = some u := by
  obtain ⟨os, hos, hgives⟩ := exists_fields? h ["url", "label"]
  match os, hgives with
  | [url, label], .cons hurl (.cons hlabel .nil) =>
    simp at hurl hlabel
    simp [read?, hos, hurl.text, hlabel.text]

namespace Note

/-- The times in a note. -/
def times (n : Note) : List Time :=
  n.expirationTime.toList ++ n.createTime.toList ++ n.updateTime.toList

variable {n : Note}

lemma sublist_declared (n : Note) :
    ((Payload.declared n).map Prod.fst).Sublist fieldNames := by
  simp only [Payload.declared, List.map_append]
  exact ((((((((List.Sublist.refl ["name"]).append (sublist_textMember _ _)).append
    (sublist_textMember _ _)).append (.refl ["kind"])).append (sublist_listMember _ _ _)).append
    (sublist_timeMember _ _)).append (sublist_timeMember _ _)).append
    (sublist_timeMember _ _)).append (sublist_listMember _ _ _)

lemma sound_declared (n : Note) : ∀ m ∈ Payload.declared n, Sound m.2 := by
  simp only [Payload.declared, List.forall_mem_append, List.forall_mem_singleton]
  refine ⟨⟨⟨⟨⟨⟨⟨⟨.string _, sound_textMember _ _⟩, sound_textMember _ _⟩, .string _⟩,
    sound_listMember (fun u _ => ?_) _⟩, sound_timeMember _ _⟩, sound_timeMember _ _⟩,
    sound_timeMember _ _⟩, sound_listMember (fun s _ => .string s) _⟩
  exact .object (by simp) (by simpa using ⟨.string _, .string _⟩)

lemma of_make? {fields : List (Option Shape)} {ds : List (String × Json)}
    (h : Payload.make? fields ds = some n) : n.details = ds ∧ ∀ t ∈ n.times, t.IsValid := by
  simp only [Payload.make?] at h
  split at h
  · simp only [Option.bind_eq_bind, Option.bind_eq_some_iff, Option.pure_def,
      Option.some.injEq] at h
    obtain ⟨_, -, _, -, _, -, _, -, _, -, _, hexpiration, _, hcreate, _, hupdate, _, -, rfl⟩ := h
    refine ⟨rfl, ?_⟩
    simp only [times, List.forall_mem_append, Option.mem_toList]
    exact ⟨⟨isValid_of_optionalTime? hexpiration, isValid_of_optionalTime? hcreate⟩,
      isValid_of_optionalTime? hupdate⟩
  · cases h

lemma make?_of_gives {fields : List (Option Shape)} (ht : ∀ t ∈ n.times, t.IsValid)
    (h : List.Forall₂ (fun name o => Gives o (membersOf name (Payload.declared n))) fieldNames
      fields) : Payload.make? fields n.details = some n := by
  simp only [times, List.forall_mem_append, Option.mem_toList] at ht
  obtain ⟨⟨hexpires, hcreated⟩, hupdated⟩ := ht
  simp only [fieldNames, Payload.fieldNames, List.forall₂_cons_left_iff,
    List.forall₂_nil_left_iff] at h
  obtain ⟨_, _, hname, ⟨_, _, hshort, ⟨_, _, hlong, ⟨_, _, hkind, ⟨_, _, hurls, ⟨_, _, hexpiration,
    ⟨_, _, hcreate, ⟨_, _, hupdate, ⟨_, _, hnames, rfl, rfl⟩, rfl⟩, rfl⟩, rfl⟩, rfl⟩, rfl⟩, rfl⟩,
    rfl⟩, rfl⟩ := h
  simp [Payload.declared] at hname hshort hlong hkind hurls hexpiration hcreate hupdate hnames
  have hurls := hurls.listMember fun u _ s => RelatedUrl.read?_eq
  have hnames := hnames.listMember fun s _ sh => text?_of_shows
  simp [Payload.make?, hname.text, hshort.textMember, hlong.textMember, hkind.kind, hurls,
    hexpiration.timeMember hexpires, hcreate.timeMember hcreated, hupdate.timeMember hupdated,
    hnames]

/-- The note under another name, and with other times where these are given. -/
def stamp (name : String) (create update : Option Time) (n : Note) : Note :=
  { n with name := name, createTime := create.or n.createTime,
           updateTime := update.or n.updateTime }

lemma times_stamp {name : String} {create update : Option Time} :
    ∀ t ∈ (n.stamp name create update).times, t ∈ n.times ∨ t ∈ create ∨ t ∈ update := by
  intro t ht
  simp only [times, stamp, List.mem_append, Option.mem_toList, Option.mem_def,
    Option.or_eq_some_iff] at ht ⊢
  tauto

lemma declared_stamp {name : String} {create update : Option Time} :
    ∀ m ∈ Payload.declared (n.stamp name create update), m ∈ Payload.declared n
      ∨ m = ("name", .string name) ∨ m ∈ timeMember "create_time" create
      ∨ m ∈ timeMember "update_time" update := by
  intro m hm
  have hcreate := @mem_timeMember_or "create_time" m create n.createTime
  have hupdate := @mem_timeMember_or "update_time" m update n.updateTime
  simp only [Payload.declared, stamp, List.mem_append, List.mem_singleton] at hm ⊢
  tauto

instance : LawfulPayload Note where
  nodup_fieldNames := by decide
  sublist_declared := sublist_declared
  sound_declared := sound_declared
  times := times
  of_make? := of_make?
  make?_of_gives := make?_of_gives
  stamp := stamp
  details_stamp := rfl
  times_stamp := times_stamp
  declared_stamp := declared_stamp

end Note

end Catalog.Record
