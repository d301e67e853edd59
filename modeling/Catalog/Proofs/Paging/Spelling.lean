import Catalog.Paging.Cursor
import Catalog.Proofs.Except
import Catalog.Proofs.Text.Base64
import Mathlib.Data.List.Forall2

/-!
Keys in a configuration. A key may be written in either alphabet and with blanks around it; whatever
its spelling, it is read as the same key, and no other text is read as that key.
-/

namespace Catalog.Text

/-! ### Blanks at the ends of a text -/

lemma dropWhile_isBlank_append {blanks cs : List Char} (h : ∀ c ∈ blanks, isBlank c = true) :
    (blanks ++ cs).dropWhile isBlank = cs.dropWhile isBlank := by
  rw [List.dropWhile_append_of_pos h]

lemma dropWhile_isBlank_eq_self {cs : List Char} (h : ∀ c ∈ cs, isBlank c = false) (c : Char)
    (hc : c ∈ cs) (rest : List Char) : (cs ++ rest).dropWhile isBlank = cs ++ rest := by
  obtain ⟨first, cs, rfl⟩ := List.exists_cons_of_ne_nil (List.ne_nil_of_mem hc)
  rw [List.cons_append, List.dropWhile_cons_of_neg]
  simp [h first List.mem_cons_self]

lemma trim_ofList {left cs right : List Char} (hleft : ∀ c ∈ left, isBlank c = true)
    (hcs : ∀ c ∈ cs, isBlank c = false) (hne : cs ≠ []) (hright : ∀ c ∈ right, isBlank c = true) :
    trim (String.ofList (left ++ cs ++ right)) = String.ofList cs := by
  obtain ⟨c, hc⟩ := List.exists_mem_of_ne_nil cs hne
  have hback : (cs.reverse).dropWhile isBlank = cs.reverse := by
    have h := dropWhile_isBlank_eq_self (fun c (hc : c ∈ cs.reverse) =>
      hcs c (List.mem_reverse.mp hc)) c (List.mem_reverse.mpr hc) []
    rwa [List.append_nil] at h
  rw [trim, String.toList_ofList, trimStart, List.append_assoc, dropWhile_isBlank_append hleft,
    dropWhile_isBlank_eq_self hcs c hc, trimEnd, List.reverse_append,
    dropWhile_isBlank_append (fun c hc => hright c (List.mem_reverse.mp hc)), hback,
    List.reverse_reverse]

/-- What is trimmed are blanks. -/
lemma exists_eq_trim (s : String) : ∃ left right : List Char, (∀ c ∈ left, isBlank c = true)
    ∧ (∀ c ∈ right, isBlank c = true) ∧ s.toList = left ++ (trim s).toList ++ right := by
  refine ⟨s.toList.takeWhile isBlank, ((trimStart s.toList).reverse.takeWhile isBlank).reverse,
    fun c hc => List.mem_takeWhile_imp hc,
    fun c hc => List.mem_takeWhile_imp (List.mem_reverse.mp hc), ?_⟩
  have hend : trimStart s.toList
      = (trim s).toList ++ ((trimStart s.toList).reverse.takeWhile isBlank).reverse := by
    rw [trim, String.toList_ofList, trimEnd, ← List.reverse_append, List.takeWhile_append_dropWhile,
      List.reverse_reverse]
  rw [List.append_assoc, ← hend, trimStart, List.takeWhile_append_dropWhile]

lemma trim_eq_empty_iff {s : String} : trim s = "" ↔ isBlankText s = true := by
  rw [isBlankText, List.all_eq_true]
  constructor
  · intro h
    obtain ⟨left, right, hleft, hright, hs⟩ := exists_eq_trim s
    rw [h] at hs
    rw [hs]
    simpa [or_imp, forall_and] using ⟨hleft, hright⟩
  · intro h
    have hstart : trimStart s.toList = [] := List.dropWhile_eq_nil_iff.mpr h
    rw [trim, hstart]
    rfl

end Catalog.Text

namespace Catalog.Paging

open Catalog.Text

namespace Key

/-- The text spells the key, in one of the alphabets and with blanks around it or none. -/
def IsSpelledBy (k : Key) (text : String) : Prop :=
  ∃ (left right : List Char) (a : Base64.Alphabet), (∀ c ∈ left, isBlank c = true)
    ∧ (∀ c ∈ right, isBlank c = true)
    ∧ text.toList = left ++ Base64.encodePadded a k.toBytes ++ right

lemma length_toBytes (k : Key) : k.toBytes.length = 32 := by
  rw [toBytes, List.length_append, Vector.length_toList, Vector.length_toList]

lemma ofBytes?_eq_some_iff {bytes : List UInt8} {k : Key} :
    ofBytes? bytes = some k ↔ bytes = k.toBytes := by
  constructor
  · intro h
    unfold ofBytes? at h
    split at h
    · obtain rfl := Option.some.inj h
      exact (List.take_append_drop 16 bytes).symm
    · cases h
  · rintro rfl
    have h16 : k.signing.toList.length = 16 := k.signing.length_toList
    rw [ofBytes?, dif_pos k.length_toBytes]
    simp only [toBytes, List.take_left' h16, List.drop_left' h16]
    rfl

lemma toBytes_inj {k k' : Key} (h : k.toBytes = k'.toBytes) : k = k' :=
  Option.some.inj ((ofBytes?_eq_some_iff.mpr h).symm.trans (ofBytes?_eq_some_iff.mpr rfl)).symm

lemma encodePadded_toBytes_ne_nil (a : Base64.Alphabet) (k : Key) :
    Base64.encodePadded a k.toBytes ≠ [] := by
  intro h
  have hempty : Base64.encodePadded a [] = [] := by
    simp [Base64.encodePadded, Base64.encode, Base64.sextets, Base64.padding]
  have hbytes : k.toBytes = [] := Base64.encodePadded_inj (h.trans hempty.symm)
  have hlength := k.length_toBytes
  rw [hbytes] at hlength
  cases hlength

lemma isSpelledBy_iff_trim {k : Key} {text : String} :
    k.IsSpelledBy text ↔ ∃ a, (trim text).toList = Base64.encodePadded a k.toBytes := by
  constructor
  · rintro ⟨left, right, a, hleft, hright, htext⟩
    refine ⟨a, ?_⟩
    rw [← String.ofList_toList (s := text), htext, trim_ofList hleft
      (fun c hc => Base64.isBlank_of_mem_encodePadded hc) (encodePadded_toBytes_ne_nil a k) hright,
      String.toList_ofList]
  · rintro ⟨a, ha⟩
    obtain ⟨left, right, hleft, hright, htext⟩ := exists_eq_trim text
    exact ⟨left, right, a, hleft, hright, ha ▸ htext⟩

/-- **A key is read from its spellings** and from no other texts. -/
theorem parse_eq_ok_iff {text : String} {k : Key} : parse text = .ok k ↔ k.IsSpelledBy text := by
  have hbytes : parse text = .ok k
      ↔ (Base64.decodePadded? .urlSafe (trim text).toList).or
          (Base64.decodePadded? .standard (trim text).toList) = some k.toBytes := by
    simp only [parse]
    split
    · rename_i k' hk'
      obtain ⟨bytes, hor, hof⟩ := Option.bind_eq_some_iff.mp hk'
      rw [ofBytes?_eq_some_iff] at hof
      rw [hor, hof, Except.ok.injEq, Option.some.injEq]
      exact ⟨congrArg toBytes, toBytes_inj⟩
    · rename_i hnone
      refine iff_of_false (fun h => nomatch h) fun hor => ?_
      rw [hor, Option.bind_some, ofBytes?_eq_some_iff.mpr rfl] at hnone
      cases hnone
  rw [hbytes, isSpelledBy_iff_trim]
  constructor
  · intro h
    rcases Option.or_eq_some_iff.mp h with h | ⟨-, h⟩
    · exact ⟨.urlSafe, Base64.decodePadded?_eq_some_iff.mp h⟩
    · exact ⟨.standard, Base64.decodePadded?_eq_some_iff.mp h⟩
  · rintro ⟨a, ha⟩
    cases hurl : Base64.decodePadded? .urlSafe (trim text).toList with
    | some bytes =>
      -- what is read in one alphabet is no other key in the other
      have hsame := Base64.decodePadded?_eq_some_iff.mp hurl
      rw [Option.some_or, Base64.encodePadded_inj (hsame.symm.trans ha)]
    | none =>
      rw [Option.none_or]
      refine Base64.decodePadded?_eq_some_iff.mpr ?_
      cases a with
      | standard => exact ha
      | urlSafe =>
        rw [Base64.decodePadded?_eq_some_iff.mpr ha] at hurl
        cases hurl

lemma IsSpelledBy.unique {k k' : Key} {text : String} (h : k.IsSpelledBy text)
    (h' : k'.IsSpelledBy text) : k = k' :=
  Except.ok.inj ((parse_eq_ok_iff.mpr h).symm.trans (parse_eq_ok_iff.mpr h'))

/-- Blanks around a text make no difference. -/
lemma isSpelledBy_trim_iff {k : Key} {text : String} :
    k.IsSpelledBy (trim text) ↔ k.IsSpelledBy text := by
  constructor
  · rintro ⟨left, right, a, hleft, hright, htrim⟩
    obtain ⟨left', right', hleft', hright', htext⟩ := exists_eq_trim text
    refine ⟨left' ++ left, right ++ right', a, ?_, ?_, by rw [htext, htrim]; simp⟩
    · exact List.forall_mem_append.mpr ⟨hleft', hleft⟩
    · exact List.forall_mem_append.mpr ⟨hright, hright'⟩
  · intro h
    obtain ⟨a, ha⟩ := isSpelledBy_iff_trim.mp h
    exact ⟨[], [], a, by simp, by simp, by rw [ha]; simp⟩

lemma IsSpelledBy.not_isBlankText {k : Key} {text : String} (h : k.IsSpelledBy text) :
    ¬isBlankText text = true := by
  rw [← trim_eq_empty_iff]
  intro hempty
  obtain ⟨a, ha⟩ := isSpelledBy_iff_trim.mp h
  rw [hempty] at ha
  exact encodePadded_toBytes_ne_nil a k ha.symm

/-- Texts that all spell keys spell a list of them. -/
lemma exists_forall₂_isSpelledBy_iff {texts : List String} :
    (∃ keys, List.Forall₂ IsSpelledBy keys texts)
      ↔ ∀ text ∈ texts, ∃ k : Key, k.IsSpelledBy text := by
  induction texts with
  | nil => simp
  | cons text texts ih =>
    rw [List.forall_mem_cons, ← ih]
    simp only [List.forall₂_cons_right_iff]
    constructor
    · rintro ⟨-, k, keys, hk, hkeys, rfl⟩
      exact ⟨⟨k, hk⟩, keys, hkeys⟩
    · rintro ⟨⟨k, hk⟩, keys, hkeys⟩
      exact ⟨_, k, keys, hk, hkeys, rfl⟩

lemma isSpelledBy_encode (k : Key) : k.IsSpelledBy k.encode :=
  ⟨[], [], .urlSafe, by simp, by simp, by rw [encode, String.toList_ofList]; simp⟩

/-- The other alphabet will do as well, and blanks around the text. -/
lemma isSpelledBy_standard (k : Key) : k.IsSpelledBy
    (String.ofList ([' '] ++ Base64.encodePadded .standard k.toBytes ++ ['\n'])) :=
  ⟨[' '], ['\n'], .standard, by decide, by decide, String.toList_ofList⟩

end Key

namespace Cursor

lemma mapM_parse_eq_ok_iff {keys : List Key} {texts : List String} :
    texts.mapM Key.parse = .ok keys ↔ List.Forall₂ Key.IsSpelledBy keys texts := by
  induction texts generalizing keys with
  | nil =>
    rw [List.forall₂_nil_right_iff]
    exact ⟨fun h => (Except.ok.inj h).symm, fun h => h ▸ rfl⟩
  | cons text texts ih =>
    rw [List.mapM_cons, bind_eq_ok, List.forall₂_cons_right_iff]
    simp only [bind_eq_ok, Key.parse_eq_ok_iff, ih]
    constructor
    · rintro ⟨k, hk, keys', hkeys, heq⟩
      exact ⟨k, keys', hk, hkeys, (Except.ok.inj heq).symm⟩
    · rintro ⟨k, keys', hk, hkeys, rfl⟩
      exact ⟨k, hk, keys', hkeys, rfl⟩

/-- The key that tokens are sealed with: the one that is configured, or a fresh one where there is
none but blanks. -/
def IsPrimary (fresh : Key) (primary : Option String) (k : Key) : Prop :=
  (∀ text ∈ primary, isBlankText text = true) ∧ k = fresh ∨ ∃ text ∈ primary, k.IsSpelledBy text

lemma isPrimary_none {fresh k : Key} : IsPrimary fresh none k ↔ k = fresh := by
  simp [IsPrimary]

lemma isPrimary_some {fresh k : Key} {text : String} : IsPrimary fresh (some text) k
    ↔ isBlankText text = true ∧ k = fresh ∨ k.IsSpelledBy text := by
  simp [IsPrimary]

/-- The reading of the key that tokens are sealed with. -/
def parsePrimary (fresh : Key) (primary : Option String) : Except Error Key :=
  match primary.map trim with
  | none | some "" => .ok fresh
  | some text => Key.parse text

lemma ofConfig_eq (fresh : Key) (primary : Option String) (previous : List String) :
    ofConfig fresh primary previous = (parsePrimary fresh primary >>= fun key =>
      previous.mapM Key.parse >>= fun keys => .ok ⟨key, keys⟩) := by
  unfold ofConfig parsePrimary
  cases primary.map trim with
  | none => rfl
  | some text =>
    by_cases hempty : text = ""
    · rw [hempty]
      rfl
    · simp only
      rfl

lemma parsePrimary_eq_ok_iff {fresh k : Key} {primary : Option String} :
    parsePrimary fresh primary = .ok k ↔ IsPrimary fresh primary k := by
  cases primary with
  | none => rw [isPrimary_none, parsePrimary, Option.map_none, Except.ok.injEq, eq_comm]
  | some text =>
    rw [isPrimary_some, parsePrimary, Option.map_some]
    split
    · rename_i hnone
      cases hnone
    · rename_i hempty
      have hblank := trim_eq_empty_iff.mp (Option.some.inj hempty)
      have hno : ¬k.IsSpelledBy text := fun h => h.not_isBlankText hblank
      rw [Except.ok.injEq, iff_true_intro hblank, true_and, or_iff_left hno, eq_comm]
    · rename_i trimmed hne htrim
      obtain rfl := Option.some.inj htrim
      have hblank : ¬isBlankText text = true := fun h => hne (by rw [trim_eq_empty_iff.mpr h])
      rw [Key.parse_eq_ok_iff, Key.isSpelledBy_trim_iff, iff_false_intro hblank, false_and,
        false_or]

/-- **A configuration is read** key by key. -/
theorem ofConfig_eq_ok_iff {fresh : Key} {primary : Option String} {previous : List String}
    {c : Cursor} : ofConfig fresh primary previous = .ok c
      ↔ IsPrimary fresh primary c.primary ∧ List.Forall₂ Key.IsSpelledBy c.previous previous := by
  rw [ofConfig_eq]
  simp only [bind_eq_ok, parsePrimary_eq_ok_iff, mapM_parse_eq_ok_iff]
  constructor
  · rintro ⟨k, hk, keys, hkeys, hc⟩
    obtain rfl := Except.ok.inj hc
    exact ⟨hk, hkeys⟩
  · rintro ⟨hk, hkeys⟩
    exact ⟨c.primary, hk, c.previous, hkeys, rfl⟩

/-- A reader has the keys that its configuration spells. -/
lemma ofConfig_of_isSpelledBy (fresh : Key) {c : Cursor} {primary : String} {previous : List String}
    (h : List.Forall₂ Key.IsSpelledBy c.keys (primary :: previous)) :
    ofConfig fresh (some primary) previous = .ok c := by
  obtain ⟨hprimary, hprevious⟩ := List.forall₂_cons.mp h
  exact ofConfig_eq_ok_iff.mpr ⟨.inr ⟨primary, rfl, hprimary⟩, hprevious⟩

end Cursor

end Catalog.Paging
