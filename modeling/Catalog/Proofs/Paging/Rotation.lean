import Catalog.Proofs.Paging.Opening
import Catalog.Proofs.Paging.Spelling
import Mathlib.Logic.Function.Basic

/-!
Replicas that share a key and come to share another one. The new key is first added behind the old
one everywhere, then put in its place, with the old one behind it, and the old one is dropped when
its last tokens have expired. At no time is there a replica that does not know the key of a fresh
token.
-/

namespace Catalog.Paging

open Catalog.Cipher Catalog.Text

/-! ### Replicas -/

/-- How far a replica is with the rotation. -/
inductive Stage
  | waiting
  | added
  | switched
  | dropped
  deriving DecidableEq

def Stage.HasSwitched (stage : Stage) : Prop := stage = .switched ∨ stage = .dropped

lemma Stage.HasSwitched.ne_waiting {stage : Stage} (h : stage.HasSwitched) : stage ≠ .waiting := by
  rcases h with rfl | rfl <;> decide

lemma Stage.not_hasSwitched_added : ¬Stage.added.HasSwitched := by
  rintro (h | h) <;> cases h

/-- The keys are as they are written in the configuration. -/
structure Replica where
  primary : String
  previous : List String
  stage : Stage

namespace Replica

def texts (r : Replica) : List String := r.primary :: r.previous

/-- None of the texts spells a key that could be taken for this one by its signing half. -/
def Clear (k : Key) (texts : List String) : Prop :=
  ∀ text ∈ texts, ∀ k' : Key, k'.IsSpelledBy text → k'.signing = k.signing → k' = k

/-- The key is among the texts, and none before it could be taken for it. -/
def Offers (r : Replica) (k : Key) : Prop :=
  ∃ before text after, r.texts = before ++ text :: after ∧ k.IsSpelledBy text ∧ Clear k before

def IsConfigured (r : Replica) : Prop := ∀ text ∈ r.texts, ∃ k : Key, k.IsSpelledBy text

lemma IsConfigured.exists_cursor {r : Replica} (h : r.IsConfigured) :
    ∃ c : Cursor, List.Forall₂ Key.IsSpelledBy c.keys r.texts
      ∧ ∀ fresh, Cursor.ofConfig fresh (some r.primary) r.previous = .ok c := by
  obtain ⟨keys, hkeys⟩ := Key.exists_forall₂_isSpelledBy_iff.mpr h
  obtain ⟨primary, previous, -, -, rfl⟩ := List.forall₂_cons_right_iff.mp hkeys
  exact ⟨⟨primary, previous⟩, hkeys, fun fresh => Cursor.ofConfig_of_isSpelledBy fresh hkeys⟩

/-- A replica stays configured where a spelling of a key is put among the others. -/
lemma isConfigured_of_insert {k k' : Key} {primary text : String} {before after : List String}
    {stage : Stage} (hprimary : k.IsSpelledBy primary) (htext : k'.IsSpelledBy text)
    (hrest : ∀ t ∈ before ++ after, ∃ k : Key, k.IsSpelledBy t) :
    IsConfigured ⟨primary, before ++ text :: after, stage⟩ := by
  obtain ⟨hbefore, hafter⟩ := List.forall_mem_append.mp hrest
  exact List.forall_mem_cons.mpr ⟨⟨k, hprimary⟩,
    List.forall_mem_append.mpr ⟨hbefore, List.forall_mem_cons.mpr ⟨⟨k', htext⟩, hafter⟩⟩⟩

/-- What a function that fails for other signing halves finds in the keys. -/
lemma findSome?_of_clear {α : Type} {f : Key → Option α} {a : α} {k : Key} {keys : List Key}
    {before after : List String} {text : String}
    (hkeys : List.Forall₂ Key.IsSpelledBy keys (before ++ text :: after))
    (htext : k.IsSpelledBy text) (hclear : Clear k before) (hown : f k = some a)
    (hothers : ∀ k' ∈ keys, k'.signing ≠ k.signing → f k' = none) : keys.findSome? f = some a := by
  induction before generalizing keys with
  | nil =>
    obtain ⟨k', keys, hk', -, rfl⟩ := List.forall₂_cons_right_iff.mp hkeys
    rw [hk'.unique htext, List.findSome?_cons, hown]
  | cons first before ih =>
    obtain ⟨k', keys, hk', hrest, rfl⟩ := List.forall₂_cons_right_iff.mp hkeys
    rw [List.findSome?_cons]
    by_cases hsame : k'.signing = k.signing
    · rw [hclear first List.mem_cons_self k' hk' hsame, hown]
    · rw [hothers k' List.mem_cons_self hsame]
      exact ih hrest (fun text htext => hclear text (List.mem_cons_of_mem _ htext))
        fun k hk => hothers k (List.mem_cons_of_mem _ hk)

/-- The keys that a replica has at its stage. -/
def Follows (old new : Key) (r : Replica) : Prop :=
  match r.stage with
  | .waiting => old.IsSpelledBy r.primary
  | .added => old.IsSpelledBy r.primary ∧ r.Offers new
  | .switched => new.IsSpelledBy r.primary ∧ r.Offers old
  | .dropped => new.IsSpelledBy r.primary

lemma offers_of_isSpelledBy {r : Replica} {k : Key} (h : k.IsSpelledBy r.primary) : r.Offers k :=
  ⟨[], r.primary, r.previous, rfl, h, fun _ htext => nomatch htext⟩

/-- A key behind a primary key with another signing half is offered like one before all others. -/
lemma offers_of_previous {r : Replica} {k k' : Key} {before after : List String} {text : String}
    (hprimary : k'.IsSpelledBy r.primary) (hne : k'.signing ≠ k.signing)
    (hprevious : r.previous = before ++ text :: after) (htext : k.IsSpelledBy text)
    (hbefore : Clear k before) : r.Offers k := by
  refine ⟨r.primary :: before, text, after, by rw [texts, hprevious, List.cons_append], htext, ?_⟩
  refine List.forall_mem_cons.mpr ⟨fun k'' hk'' hsame => ?_, hbefore⟩
  obtain rfl := hk''.unique hprimary
  exact absurd hsame hne

lemma Follows.primary {old new : Key} {r : Replica} (h : r.Follows old new) :
    (¬r.stage.HasSwitched ∧ old.IsSpelledBy r.primary)
      ∨ (r.stage.HasSwitched ∧ new.IsSpelledBy r.primary) := by
  obtain ⟨primary, previous, stage⟩ := r
  cases stage with
  | waiting => exact .inl ⟨fun hlate => hlate.ne_waiting rfl, h⟩
  | added => exact .inl ⟨Stage.not_hasSwitched_added, h.1⟩
  | switched => exact .inr ⟨.inl rfl, h.1⟩
  | dropped => exact .inr ⟨.inr rfl, h⟩

lemma Follows.offers_old {old new : Key} {r : Replica} (h : r.Follows old new)
    (hstage : r.stage ≠ .dropped) : r.Offers old := by
  obtain ⟨primary, previous, stage⟩ := r
  cases stage with
  | waiting => exact offers_of_isSpelledBy h
  | added => exact offers_of_isSpelledBy h.1
  | switched => exact h.2
  | dropped => exact absurd rfl hstage

lemma Follows.offers_new {old new : Key} {r : Replica} (h : r.Follows old new)
    (hstage : r.stage ≠ .waiting) : r.Offers new := by
  obtain ⟨primary, previous, stage⟩ := r
  cases stage with
  | waiting => exact absurd rfl hstage
  | added => exact h.2
  | switched => exact offers_of_isSpelledBy h.1
  | dropped => exact offers_of_isSpelledBy h

end Replica

/-! ### Tokens and keys that do not go with them -/

/-- A token as it was handed out, and what it was made from. -/
structure Handout where
  text : String
  time : ℕ
  id : ℤ
  key : Key

namespace Handout

def IsGenuine (x : Handout) : Prop :=
  (∃ start, x.text = (Token.issue x.key start x.time (Cursor.asciiBytes (toString x.id))).text)
    ∧ 0 ≤ x.id ∧ x.id < 2 ^ 63 ∧ x.time < 2 ^ 64

/-- Under a key with another signing half than its own the token is not authentic. -/
def IsForeignTo (x : Handout) (k : Key) : Prop :=
  k.signing ≠ x.key.signing → ∀ t : Token, t.IsSpelledBy x.text →
    t.code ≠ Sha256.authenticate k.signing.toList t.signedBytes

/-- A replica that offers the key of a fresh token reads it. -/
lemma decode_eq_id {x : Handout} {r : Replica} {c : Cursor} {now : ℕ} (hx : x.IsGenuine)
    (hkeys : List.Forall₂ Key.IsSpelledBy c.keys r.texts) (hoffers : r.Offers x.key)
    (hforeign : ∀ k ∈ c.keys, x.IsForeignTo k) (hage : now ≤ x.time + 3600)
    (hskew : x.time ≤ now + 60) (default : ℤ) : c.decode now default x.text = x.id := by
  obtain ⟨⟨start, htext⟩, hid, hid', htime⟩ := hx
  have hspelled : (Token.issue x.key start x.time (Cursor.asciiBytes (toString x.id))).IsSpelledBy
      x.text := htext ▸ Token.parse?_eq_some_iff.mp (Token.parse?_issue _ _ htime _)
  generalize ht : Token.issue x.key start x.time (Cursor.asciiBytes (toString x.id)) = t
    at htext hspelled
  have hown : t.message? x.key = some (Cursor.asciiBytes (toString x.id)) :=
    ht ▸ Token.message?_issue _ _ _ _
  have hothers : ∀ k ∈ c.keys, k.signing ≠ x.key.signing → t.message? k = none := fun k hk hne => by
    rw [Token.message?, if_neg (hforeign k hk hne t hspelled)]
  have hfirst : c.keys.findSome? (fun k => t.message? k)
      = some (Cursor.asciiBytes (toString x.id)) := by
    obtain ⟨before, text, after, htexts, hkey, hclear⟩ := hoffers
    exact Replica.findSome?_of_clear (htexts ▸ hkeys) hkey hclear hown hothers
  have hopen : c.open? now x.text = some (Cursor.asciiBytes (toString x.id)) := by
    refine Cursor.open?_eq_some_iff.mpr ⟨t, hspelled, ?_, ?_, hfirst⟩
    · rw [← ht]
      exact hage
    · rw [← ht]
      exact hskew
  rw [Cursor.decode, hopen, Option.bind_some, Cursor.watermark?_asciiBytes hid hid',
    Option.getD_some]

end Handout

/-! ### A group of replicas -/

variable {ι : Type}

/-- Replicas with a common clock, and the tokens they have handed out. -/
structure Group (ι : Type) where
  replicas : ι → Replica
  now : ℕ
  /-- When a replica last changed its primary key. -/
  switchTime : ℕ
  issued : List Handout

namespace Group

/-- All replicas seal with the old key; other keys may stand behind it. -/
def IsStart (old : Key) (s : Group ι) : Prop :=
  (∀ i, old.IsSpelledBy (s.replicas i).primary ∧ (s.replicas i).IsConfigured
      ∧ (s.replicas i).stage = .waiting)
    ∧ s.now < 2 ^ 64 ∧ s.switchTime ≤ s.now ∧ s.issued = []

/-! ### What holds all along -/

variable {old new : Key} {s s' : Group ι} {i : ι}

/-- Tokens of the new key are handed out when all replicas know it, and those of the old key until
the last replica has switched. -/
def IsCovered (old new : Key) (s : Group ι) (x : Handout) : Prop :=
  (x.key = old ∧ ((∀ i, (s.replicas i).stage.HasSwitched) → x.time ≤ s.switchTime))
    ∨ (x.key = new ∧ ∀ i, (s.replicas i).stage ≠ .waiting)

structure Sound (old new : Key) (s : Group ι) : Prop where
  configured : ∀ i, (s.replicas i).IsConfigured
  follows : ∀ i, (s.replicas i).Follows old new
  now_lt : s.now < 2 ^ 64
  switchTime_le : s.switchTime ≤ s.now
  issued : ∀ x ∈ s.issued, x.IsGenuine ∧ x.time ≤ s.now ∧ IsCovered old new s x
  ready : ∀ i, (s.replicas i).stage.HasSwitched → ∀ j, (s.replicas j).stage ≠ .waiting
  expired : ∀ i, (s.replicas i).stage = .dropped →
    (∀ j, (s.replicas j).stage.HasSwitched) ∧ s.switchTime + 3600 < s.now

lemma Sound.isConfigured_previous (hs : Sound old new s) (i : ι) :
    ∀ t ∈ (s.replicas i).previous, ∃ k : Key, k.IsSpelledBy t :=
  fun t ht => hs.configured i t (List.mem_cons_of_mem _ ht)

lemma Sound.of_isStart (h : IsStart old s) : Sound old new s := by
  obtain ⟨hreplicas, hnow, hswitch, hissued⟩ := h
  have hwaiting : ∀ i, (s.replicas i).stage = .waiting := fun i => (hreplicas i).2.2
  refine ⟨fun i => (hreplicas i).2.1, fun i => ?_, hnow, hswitch, fun x hx => ?_,
    fun i hi => absurd (hwaiting i) hi.ne_waiting, fun i hi => ?_⟩
  · rw [Replica.Follows, hwaiting i]
    exact (hreplicas i).1
  · rw [hissued] at hx
    cases hx
  · rw [hwaiting i] at hi
    cases hi

/-- A replica that has not switched seals with the old key, and the others with the new one. -/
lemma Sound.isCovered_mint (hs : Sound old new s) {fresh : Key} {c : Cursor} {start : Block}
    {id : ℤ} {text : String}
    (config : Cursor.ofConfig fresh (some (s.replicas i).primary) (s.replicas i).previous = .ok c)
    (bound : id < 2 ^ 63) (token : c.encode start s.now id = .ok text) :
    Handout.IsGenuine ⟨text, s.now, id, c.primary⟩
      ∧ IsCovered old new s ⟨text, s.now, id, c.primary⟩ := by
  obtain ⟨c', hkeys, hconfig⟩ := (hs.configured i).exists_cursor
  obtain rfl : c' = c := Except.ok.inj ((hconfig fresh).symm.trans config)
  obtain ⟨hprimary, -⟩ := List.forall₂_cons.mp hkeys
  constructor
  · by_cases hid : id < 0
    · rw [Cursor.encode, if_pos hid] at token
      cases token
    · rw [Cursor.encode, if_neg hid] at token
      exact ⟨⟨start, (Except.ok.inj token).symm⟩, Int.not_lt.mp hid, bound, hs.now_lt⟩
  · rcases (hs.follows i).primary with ⟨hstage, hold⟩ | ⟨hstage, hnew⟩
    · exact .inl ⟨hprimary.unique hold, fun h => absurd (h i) hstage⟩
    · exact .inr ⟨hprimary.unique hnew, hs.ready i hstage⟩

/-- No replica is without the key of a fresh token. -/
lemma Sound.offers (hs : Sound old new s) {x : Handout} (hx : x ∈ s.issued)
    (hage : s.now ≤ x.time + 3600) (i : ι) : (s.replicas i).Offers x.key := by
  obtain ⟨-, -, ⟨hkey, hlast⟩ | ⟨hkey, hready⟩⟩ := hs.issued x hx
  · rw [hkey]
    refine (hs.follows i).offers_old fun hstage => ?_
    -- the old key is dropped an hour after its last token
    obtain ⟨hlate, hexpired⟩ := hs.expired i hstage
    have htime := hlast hlate
    omega
  · rw [hkey]
    exact (hs.follows i).offers_new (hready i)

/-! ### The course of a rotation -/

variable [DecidableEq ι]

/-- The group with one replica changed. -/
def put (s : Group ι) (i : ι) (r : Replica) : Group ι :=
  { s with replicas := Function.update s.replicas i r }

inductive Event (ι : Type)
  | mint (i : ι) (x : Handout)
  | read (i : ι) (text : String) (default answer : ℤ)
  | wait (seconds : ℕ)
  | add (i : ι)
  | switch (i : ι)
  | drop (i : ι)

/-- One event in a group that goes over from the old key to the new one. Where a replica gets a key
behind its primary one, that key may have any place at which it is the first with its signing
half. -/
inductive Step (old new : Key) (s : Group ι) : Event ι → Group ι → Prop
  | mint (i start id) {fresh c text}
      (config : Cursor.ofConfig fresh (some (s.replicas i).primary) (s.replicas i).previous = .ok c)
      (bound : id < 2 ^ 63)
      (token : c.encode start s.now id = .ok text) :
      Step old new s (.mint i ⟨text, s.now, id, c.primary⟩)
        { s with issued := ⟨text, s.now, id, c.primary⟩ :: s.issued }
  | read {i fresh c text default}
      (config : Cursor.ofConfig fresh (some (s.replicas i).primary) (s.replicas i).previous
        = .ok c) :
      Step old new s (.read i text default (c.decode s.now default text)) s
  | wait (seconds) (bound : s.now + seconds < 2 ^ 64) :
      Step old new s (.wait seconds) { s with now := s.now + seconds }
  | add (i before after) {text}
      (stage : (s.replicas i).stage = .waiting)
      (previous : (s.replicas i).previous = before ++ after)
      (spelled : new.IsSpelledBy text)
      (clear : Replica.Clear new before) :
      Step old new s (.add i)
        (s.put i ⟨(s.replicas i).primary, before ++ text :: after, .added⟩)
  | switch (i before after) {primary text}
      (stage : (s.replicas i).stage = .added)
      (ready : ∀ j, (s.replicas j).stage ≠ .waiting)
      (rest : (before ++ after).Sublist (s.replicas i).previous)
      (spelled : new.IsSpelledBy primary ∧ old.IsSpelledBy text)
      (clear : Replica.Clear old before) :
      Step old new s (.switch i)
        { s.put i ⟨primary, before ++ text :: after, .switched⟩ with switchTime := s.now }
  | drop {i previous}
      (stage : (s.replicas i).stage = .switched)
      (ready : ∀ j, (s.replicas j).stage.HasSwitched)
      (expired : s.switchTime + 3600 < s.now)
      (rest : previous.Sublist (s.replicas i).previous)
      (gone : ∀ text ∈ previous, ¬old.IsSpelledBy text) :
      Step old new s (.drop i) (s.put i ⟨(s.replicas i).primary, previous, .dropped⟩)

inductive Reachable (old new : Key) : Group ι → Prop
  | start {first} : IsStart old first → Reachable old new first
  | step {before e after} :
      Reachable old new before → Step old new before e after → Reachable old new after

lemma forall_put {P : Replica → Prop} {r : Replica} :
    (∀ j, P ((s.put i r).replicas j)) ↔ P r ∧ ∀ j, j ≠ i → P (s.replicas j) :=
  Function.forall_update_iff s.replicas fun _ => P

lemma Sound.add (hs : Sound old new s) (hne : old.signing ≠ new.signing)
    {before after : List String} {text : String} (stage : (s.replicas i).stage = .waiting)
    (previous : (s.replicas i).previous = before ++ after) (spelled : new.IsSpelledBy text)
    (clear : Replica.Clear new before) :
    Sound old new (s.put i ⟨(s.replicas i).primary, before ++ text :: after, .added⟩) := by
  have hold : old.IsSpelledBy (s.replicas i).primary := by
    have h := hs.follows i
    rwa [Replica.Follows, stage] at h
  have hlate : ∀ j, ¬((s.put i ⟨(s.replicas i).primary, before ++ text :: after,
      .added⟩).replicas j).stage.HasSwitched :=
    (forall_put (P := fun r => ¬r.stage.HasSwitched)).mpr
      ⟨Stage.not_hasSwitched_added, fun j _ hj => hs.ready j hj i stage⟩
  refine ⟨forall_put.mpr ⟨?_, fun j _ => hs.configured j⟩,
    forall_put.mpr ⟨?_, fun j _ => hs.follows j⟩, hs.now_lt, hs.switchTime_le, fun x hx => ?_,
    fun j hj => absurd hj (hlate j), fun j hj => absurd (.inr hj) (hlate j)⟩
  · exact Replica.isConfigured_of_insert hold spelled (previous ▸ hs.isConfigured_previous i)
  · exact ⟨hold, Replica.offers_of_previous hold hne rfl spelled clear⟩
  · obtain ⟨hgenuine, htime, hkey | hkey⟩ := hs.issued x hx
    · exact ⟨hgenuine, htime, .inl ⟨hkey.1, fun h => absurd (h i) (hlate i)⟩⟩
    · exact absurd stage (hkey.2 i)

lemma Sound.switch (hs : Sound old new s) (hne : old.signing ≠ new.signing) {primary text : String}
    {before after : List String} (stage : (s.replicas i).stage = .added)
    (ready : ∀ j, (s.replicas j).stage ≠ .waiting)
    (rest : (before ++ after).Sublist (s.replicas i).previous)
    (spelled : new.IsSpelledBy primary ∧ old.IsSpelledBy text) (clear : Replica.Clear old before) :
    Sound old new
      { s.put i ⟨primary, before ++ text :: after, .switched⟩ with switchTime := s.now } := by
  have hready : ∀ j, ((s.put i ⟨primary, before ++ text :: after, .switched⟩).replicas j).stage
      ≠ .waiting :=
    (forall_put (P := fun r => r.stage ≠ .waiting)).mpr ⟨nofun, fun j _ => ready j⟩
  have hkept : ∀ j, ((s.put i ⟨primary, before ++ text :: after, .switched⟩).replicas j).stage
      ≠ .dropped := by
    refine (forall_put (P := fun r => r.stage ≠ .dropped)).mpr ⟨nofun, fun j _ hj => ?_⟩
    exact Stage.not_hasSwitched_added (stage ▸ (hs.expired j hj).1 i)
  refine ⟨forall_put.mpr ⟨?_, fun j _ => hs.configured j⟩,
    forall_put.mpr ⟨?_, fun j _ => hs.follows j⟩, hs.now_lt, le_rfl, fun x hx => ?_,
    fun _ _ => hready, fun j hj => absurd hj (hkept j)⟩
  · exact Replica.isConfigured_of_insert spelled.1 spelled.2
      fun t ht => hs.isConfigured_previous i t (rest.subset ht)
  · exact ⟨spelled.1, Replica.offers_of_previous spelled.1 hne.symm rfl spelled.2 clear⟩
  · obtain ⟨hgenuine, htime, hkey | hkey⟩ := hs.issued x hx
    · exact ⟨hgenuine, htime, .inl ⟨hkey.1, fun _ => htime⟩⟩
    · exact ⟨hgenuine, htime, .inr ⟨hkey.1, hready⟩⟩

lemma Sound.drop (hs : Sound old new s) {previous : List String}
    (stage : (s.replicas i).stage = .switched) (ready : ∀ j, (s.replicas j).stage.HasSwitched)
    (expired : s.switchTime + 3600 < s.now)
    (rest : previous.Sublist (s.replicas i).previous) :
    Sound old new (s.put i ⟨(s.replicas i).primary, previous, .dropped⟩) := by
  have hnew : new.IsSpelledBy (s.replicas i).primary := by
    have h := hs.follows i
    rw [Replica.Follows, stage] at h
    exact h.1
  have hlate : ∀ j, ((s.put i ⟨(s.replicas i).primary, previous, .dropped⟩).replicas
      j).stage.HasSwitched :=
    (forall_put (P := fun r => r.stage.HasSwitched)).mpr ⟨.inr rfl, fun j _ => ready j⟩
  refine ⟨forall_put.mpr ⟨?_, fun j _ => hs.configured j⟩,
    forall_put.mpr ⟨hnew, fun j _ => hs.follows j⟩, hs.now_lt, hs.switchTime_le, fun x hx => ?_,
    fun _ _ j => (hlate j).ne_waiting, fun _ _ => ⟨hlate, expired⟩⟩
  · exact List.forall_mem_cons.mpr ⟨⟨new, hnew⟩,
      fun t ht => hs.isConfigured_previous i t (rest.subset ht)⟩
  · obtain ⟨hgenuine, htime, hkey | hkey⟩ := hs.issued x hx
    · exact ⟨hgenuine, htime, .inl ⟨hkey.1, fun _ => hkey.2 ready⟩⟩
    · exact ⟨hgenuine, htime, .inr ⟨hkey.1, fun j => (hlate j).ne_waiting⟩⟩

lemma Sound.step (hs : Sound old new s) (hne : old.signing ≠ new.signing) {e : Event ι}
    (h : Step old new s e s') : Sound old new s' := by
  cases h with
  | mint _ _ _ config bound token =>
    obtain ⟨hgenuine, hcovered⟩ := hs.isCovered_mint config bound token
    exact ⟨hs.configured, hs.follows, hs.now_lt, hs.switchTime_le,
      List.forall_mem_cons.mpr ⟨⟨hgenuine, le_rfl, hcovered⟩, hs.issued⟩, hs.ready, hs.expired⟩
  | read config => exact hs
  | wait _ bound =>
    refine ⟨hs.configured, hs.follows, bound, hs.switchTime_le.trans (Nat.le_add_right _ _),
      fun x hx => ?_, hs.ready, fun i hi => ?_⟩
    · obtain ⟨hgenuine, htime, hcovered⟩ := hs.issued x hx
      exact ⟨hgenuine, htime.trans (Nat.le_add_right _ _), hcovered⟩
    · obtain ⟨hlate, hexpired⟩ := hs.expired i hi
      exact ⟨hlate, hexpired.trans_le (Nat.le_add_right _ _)⟩
  | add _ _ _ stage previous spelled clear => exact hs.add hne stage previous spelled clear
  | switch _ _ _ stage ready rest spelled clear =>
    exact hs.switch hne stage ready rest spelled clear
  | drop stage ready expired rest => exact hs.drop stage ready expired rest

lemma Sound.of_reachable (hne : old.signing ≠ new.signing) (h : Reachable old new s) :
    Sound old new s := by
  induction h with
  | start hstart => exact .of_isStart hstart
  | step _ hstep ih => exact ih.step hne hstep

/-- **A rotation loses no fresh token.** Whatever the replicas have done so far, each of them can
read a token of the last hour, and its answer is the id that the token was made for. -/
theorem read_rotating {old new : Key} (hne : old.signing ≠ new.signing) {s : Group ι}
    (hs : Reachable old new s) {x : Handout} (hx : x ∈ s.issued) (hage : s.now ≤ x.time + 3600)
    (i : ι) (hforeign : ∀ fresh c, Cursor.ofConfig fresh (some (s.replicas i).primary)
      (s.replicas i).previous = .ok c → ∀ k ∈ c.keys, x.IsForeignTo k) (default : ℤ) :
    Step old new s (.read i x.text default x.id) s
      ∧ ∀ answer s', Step old new s (.read i x.text default answer) s' → answer = x.id := by
  have hsound := Sound.of_reachable hne hs
  obtain ⟨hgenuine, htime, -⟩ := hsound.issued x hx
  obtain ⟨c, hkeys, hconfig⟩ := (hsound.configured i).exists_cursor
  have hread : c.decode s.now default x.text = x.id :=
    Handout.decode_eq_id hgenuine hkeys (hsound.offers hx hage i) (hforeign x.key c (hconfig _))
      hage (htime.trans (Nat.le_add_right _ _)) default
  constructor
  · exact hread ▸ .read (hconfig x.key)
  · intro answer s' hstep
    cases hstep with
    | read config =>
      obtain rfl := Except.ok.inj ((hconfig _).symm.trans config)
      exact hread

lemma code_ne_authenticate :
    (Token.issue ⟨.replicate 16 1, .replicate 16 2⟩ (.replicate 16 0) 1700000000
        (Cursor.asciiBytes "42")).code
      ≠ Sha256.authenticate (Vector.replicate 16 0xff).toList
        (Token.issue ⟨.replicate 16 1, .replicate 16 2⟩ (.replicate 16 0) 1700000000
          (Cursor.asciiBytes "42")).signedBytes := by
  -- The message is encrypted once, and its cipher text is what the two codes are made from.
  have hcipher : encryptMessage (.replicate 16 2) (.replicate 16 0) (Cursor.asciiBytes "42")
      = [123, 178, 62, 240, 165, 172, 9, 205, 34, 206, 129, 241, 188, 66, 44, 37] := by
    decide +kernel
  rw [Token.issue, hcipher]
  decide +kernel

/-- A token of the old key, from one of two replicas, is read by the other, which has switched. -/
theorem read_rotating_switched :
    ∃ (old new : Key) (s : Group Bool) (x : Handout), old.signing ≠ new.signing
      ∧ Reachable old new s ∧ x ∈ s.issued ∧ x.key = old ∧ s.now = x.time + 60
      ∧ (s.replicas true).stage = .switched ∧ Step old new s (.read true x.text 0 x.id) s := by
  let old : Key := ⟨.replicate 16 1, .replicate 16 2⟩
  let new : Key := ⟨.replicate 16 0xff, .replicate 16 4⟩
  let start : Group Bool := ⟨fun _ => ⟨old.encode, [], .waiting⟩, 1700000000, 0, []⟩
  let token := (Token.issue old (.replicate 16 0) 1700000000 (Cursor.asciiBytes "42")).text
  have hne : old.signing ≠ new.signing := by decide
  have hstart : IsStart old start :=
    ⟨fun _ => ⟨old.isSpelledBy_encode,
      List.forall_mem_singleton.mpr ⟨old, old.isSpelledBy_encode⟩, rfl⟩, by decide, by decide, rfl⟩
  have hold (i : Bool) : ∀ fresh, Cursor.ofConfig fresh (some (start.replicas i).primary)
      (start.replicas i).previous = .ok ⟨old, []⟩ := fun fresh =>
    Cursor.ofConfig_of_isSpelledBy fresh (.cons old.isSpelledBy_encode .nil)
  have hmint : Reachable old new { start with issued := [⟨token, 1700000000, 42, old⟩] } :=
    (Reachable.start hstart).step
      (.mint false (.replicate 16 0) 42 (hold false old) (by decide) rfl)
  have hwait := hmint.step (.wait 60 (by decide))
  have hadd := hwait.step (.add false [] [] rfl rfl new.isSpelledBy_standard nofun)
  have hadd' := hadd.step (.add true [] [] rfl rfl new.isSpelledBy_standard nofun)
  have hswitch := hadd'.step (.switch true [] [] rfl (by decide) (List.nil_sublist _)
    ⟨new.isSpelledBy_standard, old.isSpelledBy_encode⟩ nofun)
  refine ⟨old, new, _, ⟨token, 1700000000, 42, old⟩, hne, hswitch, List.mem_singleton.mpr rfl, rfl,
    rfl, rfl, (read_rotating hne hswitch (List.mem_singleton.mpr rfl) (by decide) true ?_ 0).1⟩
  intro fresh c hconfig k hk hother t ht
  obtain rfl : (⟨new, [old]⟩ : Cursor) = c := Except.ok.inj
    ((Cursor.ofConfig_of_isSpelledBy fresh (.cons new.isSpelledBy_standard
      (.cons old.isSpelledBy_encode .nil))).symm.trans hconfig)
  have hissue := Token.parse?_issue old (.replicate 16 0) (show 1700000000 < 2 ^ 64 by decide)
    (Cursor.asciiBytes "42")
  obtain rfl := Option.some.inj (hissue.symm.trans (Token.parse?_eq_some_iff.mpr ht))
  rcases List.mem_pair.mp hk with rfl | rfl
  · exact code_ne_authenticate
  · exact absurd rfl hother

end Group

end Catalog.Paging
