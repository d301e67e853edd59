import Catalog.Proofs.Paging.Spelling

/-!
The keys of a configuration. There are two texts for a key, one in each alphabet, and blanks around
them do not matter. No other text is a key, and a configuration with another text in it is refused.
-/

namespace Catalog.Paging

open Catalog.Text

namespace Key

/-- The text is 256 bits in one of the alphabets, blanks at its ends aside. -/
def IsWritten (text : String) : Prop := ∃ a, Base64.Has256Bits a (trim text).toList

lemma exists_isSpelledBy_iff {text : String} :
    (∃ k : Key, k.IsSpelledBy text) ↔ IsWritten text := by
  simp only [isSpelledBy_iff_trim, IsWritten, ← Base64.exists_encodePadded_iff]
  constructor
  · rintro ⟨k, a, ha⟩
    exact ⟨a, k.toBytes, k.length_toBytes, ha⟩
  · rintro ⟨a, bytes, hlength, ha⟩
    have hk : ofBytes? bytes = some _ := dif_pos hlength
    exact ⟨_, a, ofBytes?_eq_some_iff.mp hk ▸ ha⟩

lemma parse_eq_error_iff {text : String} {e : Error} :
    parse text = .error e ↔ e = .invalidKey ∧ ¬IsWritten text := by
  rw [← exists_isSpelledBy_iff]
  simp only [← parse_eq_ok_iff]
  cases h : parse text with
  | ok k => simp
  | error e' =>
    obtain rfl : e' = .invalidKey := by
      simp only [parse] at h
      split at h
      · cases h
      · exact (Except.error.inj h).symm
    simp [eq_comm]

lemma IsWritten.not_isBlankText {text : String} (h : IsWritten text) :
    ¬isBlankText text = true := by
  obtain ⟨k, hk⟩ := exists_isSpelledBy_iff.mpr h
  exact hk.not_isBlankText

/-- The text of a key in the alphabet for addresses. -/
lemma IsSpelledBy.toList_encode {k : Key} {text : String} (h : k.IsSpelledBy text) :
    k.encode.toList = (trim text).toList.map Base64.toUrlSafe := by
  obtain ⟨a, ha⟩ := isSpelledBy_iff_trim.mp h
  rw [encode, String.toList_ofList, ha, Base64.map_toUrlSafe_encodePadded]

end Key

namespace Cursor

lemma parsePrimary_eq_error {fresh : Key} {primary : Option String} {e : Error}
    (h : parsePrimary fresh primary = .error e) : e = .invalidKey := by
  unfold parsePrimary at h
  split at h
  · cases h
  · cases h
  · exact (Key.parse_eq_error_iff.mp h).1

lemma ofConfig_eq_error {fresh : Key} {primary : Option String} {previous : List String}
    {e : Error} (h : ofConfig fresh primary previous = .error e) : e = .invalidKey := by
  rw [ofConfig_eq] at h
  rcases bind_eq_error.mp h with h | ⟨k, -, h⟩
  · exact parsePrimary_eq_error h
  · rcases bind_eq_error.mp h with h | ⟨keys, -, hnone⟩
    · obtain ⟨text, -, htext⟩ := mapM_eq_error h
      exact (Key.parse_eq_error_iff.mp htext).1
    · cases hnone

/-- The keys can be made out: the first where there is one, and all others. -/
def IsReadable (primary : Option String) (previous : List String) : Prop :=
  (∀ text ∈ primary, isBlankText text = true ∨ Key.IsWritten text)
    ∧ ∀ text ∈ previous, Key.IsWritten text

lemma exists_isPrimary_iff (fresh : Key) (primary : Option String) :
    (∃ k, IsPrimary fresh primary k)
      ↔ ∀ text ∈ primary, isBlankText text = true ∨ Key.IsWritten text := by
  cases primary with
  | none => simp [isPrimary_none]
  | some text => simp [isPrimary_some, exists_or, Key.exists_isSpelledBy_iff]

lemma exists_ofConfig_iff {fresh : Key} {primary : Option String} {previous : List String} :
    (∃ c, ofConfig fresh primary previous = .ok c) ↔ IsReadable primary previous := by
  rw [IsReadable, ← exists_isPrimary_iff fresh]
  simp only [ofConfig_eq_ok_iff, ← Key.exists_isSpelledBy_iff,
    ← Key.exists_forall₂_isSpelledBy_iff]
  exact ⟨fun ⟨c, hk, hkeys⟩ => ⟨⟨_, hk⟩, _, hkeys⟩,
    fun ⟨⟨k, hk⟩, keys, hkeys⟩ => ⟨⟨k, keys⟩, hk, hkeys⟩⟩

lemma ofConfig_of_not_isReadable {fresh : Key} {primary : Option String} {previous : List String}
    (h : ¬IsReadable primary previous) : ofConfig fresh primary previous = .error .invalidKey := by
  cases hc : ofConfig fresh primary previous with
  | ok c => exact absurd (exists_ofConfig_iff.mp ⟨c, hc⟩) h
  | error e => rw [ofConfig_eq_error hc]

end Cursor

/-- **Keys are read from their two texts,** in the one alphabet and in the other, whatever blanks
are around them. What is read from a text is written as that text again, in the alphabet for
addresses. All that is not 256 bits in one alphabet is refused, and so is a configuration unless its
first key is absent or blank or can be read and all others can be read. -/
theorem keys_read_from_texts (fresh : Key) (primary : Option String) (previous : List String) :
    (∀ (k : Key) a left right, (∀ c ∈ left, isBlank c = true) → (∀ c ∈ right, isBlank c = true)
      → Key.parse (String.ofList (left ++ Base64.encodePadded a k.toBytes ++ right)) = .ok k)
    ∧ (∀ text k, Key.parse text = .ok k
      → (∃ a, (trim text).toList = Base64.encodePadded a k.toBytes)
        ∧ k.encode.toList = (trim text).toList.map Base64.toUrlSafe)
    ∧ (∀ text, Key.IsWritten text → ∃ k, Key.parse text = .ok k)
    ∧ (∀ text, ¬Key.IsWritten text → Key.parse text = .error .invalidKey)
    ∧ (Cursor.IsReadable primary previous → ∃ c, Cursor.ofConfig fresh primary previous = .ok c
      ∧ Cursor.IsPrimary fresh primary c.primary ∧ c.previous.Forall₂ Key.IsSpelledBy previous)
    ∧ (¬Cursor.IsReadable primary previous
      → Cursor.ofConfig fresh primary previous = .error .invalidKey)
    ∧ ∀ text ∈ previous, isBlankText text = true
      → Cursor.ofConfig fresh primary previous = .error .invalidKey := by
  refine ⟨fun k a left right hleft hright => ?_, fun text k h => ?_, fun text h => ?_,
    fun text h => Key.parse_eq_error_iff.mpr ⟨rfl, h⟩, fun h => ?_,
    Cursor.ofConfig_of_not_isReadable, fun text htext hblank => ?_⟩
  · exact Key.parse_eq_ok_iff.mpr ⟨left, right, a, hleft, hright, String.toList_ofList⟩
  · have hspelled := Key.parse_eq_ok_iff.mp h
    exact ⟨Key.isSpelledBy_iff_trim.mp hspelled, hspelled.toList_encode⟩
  · obtain ⟨k, hk⟩ := Key.exists_isSpelledBy_iff.mpr h
    exact ⟨k, Key.parse_eq_ok_iff.mpr hk⟩
  · obtain ⟨c, hc⟩ := Cursor.exists_ofConfig_iff.mpr h
    exact ⟨c, hc, Cursor.ofConfig_eq_ok_iff.mp hc⟩
  · exact Cursor.ofConfig_of_not_isReadable fun hreadable =>
      (hreadable.2 text htext).not_isBlankText hblank

/-- The key of the sealing tests, with blanks around it. -/
theorem keys_read_from_texts_blanks : ∃ k : Key,
    Key.parse "\u2003XxoPtCUzrUv4JV5dS+yQ+MdW7yLEJnRMwigVY/bpgtQ=\n" = .ok k
      ∧ k.encode = "XxoPtCUzrUv4JV5dS-yQ-MdW7yLEJnRMwigVY_bpgtQ="
      ∧ Key.parse k.encode = .ok k
      ∧ Key.parse "INVALID_VALUE" = .error .invalidKey
      ∧ Cursor.ofConfig k (some " ") [k.encode] = .ok ⟨k, [k]⟩
      ∧ Cursor.ofConfig k (some "INVALID_VALUE") [] = .error .invalidKey
      ∧ Cursor.ofConfig k none ["\t"] = .error .invalidKey := by
  have hwritten : Key.IsWritten "\u2003XxoPtCUzrUv4JV5dS+yQ+MdW7yLEJnRMwigVY/bpgtQ=\n" :=
    ⟨.standard, "XxoPtCUzrUv4JV5dS+yQ+MdW7yLEJnRMwigVY/bpgt".toList, 'Q', 16, by decide +kernel⟩
  have hinvalid : ¬Key.IsWritten "INVALID_VALUE" := by
    rintro ⟨a, digits, last, n, htext, hlength, -⟩
    have htrim : (trim "INVALID_VALUE").toList.length = 13 := by decide +kernel
    rw [htext, List.length_append, hlength] at htrim
    cases htrim
  obtain ⟨-, -, hread, -⟩ :=
    keys_read_from_texts ⟨.replicate 16 0, .replicate 16 0⟩ none []
  obtain ⟨k, hk⟩ := hread _ hwritten
  obtain ⟨hspelled, hencode, -, hrefused, hconfig, -⟩ :=
    keys_read_from_texts k (some " ") [k.encode]
  have hreadable : Cursor.IsReadable (some " ") [k.encode] := by
    have hencoded := Key.exists_isSpelledBy_iff.mp ⟨k, k.isSpelledBy_encode⟩
    refine ⟨?_, List.forall_mem_singleton.mpr hencoded⟩
    rintro _ ⟨⟩
    exact .inl rfl
  obtain ⟨⟨first, rest⟩, hc, hprimary, hprevious⟩ := hconfig hreadable
  obtain rfl : first = k := by
    have hno : ¬first.IsSpelledBy " " := fun h => h.not_isBlankText rfl
    exact ((Cursor.isPrimary_some.mp hprimary).resolve_right hno).2
  obtain rfl : rest = [first] := by
    obtain ⟨k', rest', hk', hrest, rfl⟩ := List.forall₂_cons_right_iff.mp hprevious
    rw [hk'.unique first.isSpelledBy_encode, List.forall₂_nil_right_iff.mp hrest]
  refine ⟨first, hk, String.toList_injective ?_, ?_, hrefused _ hinvalid, hc, ?_, ?_⟩
  · rw [(hencode _ first hk).2]
    decide +kernel
  · simpa [Key.encode] using hspelled first .urlSafe [] [] (by simp) (by simp)
  · obtain ⟨-, -, -, -, -, hno, -⟩ := keys_read_from_texts first (some "INVALID_VALUE") []
    exact hno fun h => hinvalid ((h.1 _ rfl).resolve_left (by decide +kernel))
  · obtain ⟨-, -, -, -, -, -, hblank⟩ := keys_read_from_texts first none ["\t"]
    exact hblank "\t" List.mem_cons_self rfl

end Catalog.Paging
