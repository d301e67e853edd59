import Mathlib.Data.List.Induction
import Catalog.Proofs.Paging.RoundTrip

/-!
What is read from a token. A text stands for a row id exactly if it spells a token that is fresh,
and the first of the reader's keys that opens it finds the text of that id. Any other text is as
good as none.
-/

namespace Catalog.Paging

open Catalog.Cipher Catalog.Text

/-! ### Bytes of a token -/

namespace Token

lemma bigEndian_number (bytes : List UInt8) :
    Sha256.bigEndian bytes.length (number bytes) = bytes := by
  induction bytes using List.reverseRecOn with
  | nil => rfl
  | append_singleton bytes b ih =>
    have hb := b.toNat_lt
    have hdiv : (256 * number bytes + b.toNat) / 256 = number bytes := by omega
    have hbyte : UInt8.ofNat (256 * number bytes + b.toNat) = b := by
      rw [← UInt8.toNat_inj, UInt8.toNat_ofNat']
      omega
    rw [number_append, List.length_append, List.length_singleton, bigEndian_succ, hdiv, ih, hbyte]

lemma number_lt (bytes : List UInt8) : number bytes < 256 ^ bytes.length := by
  have h := number_bigEndian bytes.length (number bytes)
  rw [bigEndian_number] at h
  rw [h]
  exact Nat.mod_lt _ (Nat.pow_pos (by decide))

/-- Bytes are split into parts exactly if they are put together from them. -/
lemma ofBytes?_eq_some_iff {bytes : List UInt8} {t : Token} :
    ofBytes? bytes = some t ↔ bytes = t.toBytes ∧ t.time < 2 ^ 64 ∧ t.code.length = 32 := by
  constructor
  · intro h
    unfold ofBytes? at h
    split at h
    · cases h
    · rename_i first rest
      simp only at h
      split at h
      · rename_i hparts
        obtain ⟨rfl, hlength⟩ := hparts
        obtain rfl := Option.some.inj h
        have h8 : (rest.take 8).length = 8 := by simp; omega
        have htime : Sha256.bigEndian 8 (number (rest.take 8)) = rest.take 8 := by
          simpa only [h8] using bigEndian_number (rest.take 8)
        refine ⟨?_, ?_, ?_⟩
        · have hrest : rest = rest.take 8 ++ ((rest.drop 8).take 16 ++ rest.drop 24) := by
            rw [← List.drop_drop (i := 16) (j := 8), List.take_append_drop, List.take_append_drop]
          simp only [toBytes, signedBytes, htime, Vector.toList_mk, List.cons_append,
            List.append_assoc, List.take_append_drop]
          rw [← hrest]
        · have hlt := number_lt (rest.take 8)
          rw [h8] at hlt
          exact hlt
        · simp; omega
      · cases h
  · rintro ⟨rfl, htime, hcode⟩
    exact ofBytes?_toBytes htime hcode

/-- The text spells the token: its bytes in base64, and equals signs behind them or none. -/
def IsSpelledBy (t : Token) (text : String) : Prop :=
  t.time < 2 ^ 64 ∧ t.code.length = 32
    ∧ ∃ n, text.toList = Base64.encode .urlSafe t.toBytes ++ List.replicate n '='

lemma parse?_eq_some_iff {text : String} {t : Token} :
    parse? text = some t ↔ t.IsSpelledBy text := by
  simp only [parse?, Option.bind_eq_some_iff, Base64.decode?_stripPadding_eq_some_iff,
    ofBytes?_eq_some_iff, IsSpelledBy]
  constructor
  · rintro ⟨bytes, htext, rfl, htime, hcode⟩
    exact ⟨htime, hcode, htext⟩
  · rintro ⟨htime, hcode, htext⟩
    exact ⟨_, htext, rfl, htime, hcode⟩

/-- The key opens the token to the message: one half of it made the code, and with the other the
cipher text is of whole blocks, which hold the message with its padding. -/
structure Opens (key : Key) (t : Token) (message : List UInt8) : Prop where
  authentic : t.code = Sha256.authenticate key.signing.toList t.signedBytes
  decrypted : ∃ bs, t.cipher = join bs
    ∧ join (unchain (Aes.decrypt key.encryption) t.start bs) = pad message

lemma message?_eq_some_iff {key : Key} {t : Token} {message : List UInt8} :
    t.message? key = some message ↔ Opens key t message := by
  rw [message?, Option.ite_none_right_eq_some, decryptMessage?_eq_some_iff]
  exact ⟨fun h => ⟨h.1, h.2⟩, fun h => ⟨h.authentic, h.decrypted⟩⟩

lemma message?_eq_none_iff {key : Key} {t : Token} :
    t.message? key = none ↔ ∀ message, ¬Opens key t message := by
  simp only [Option.eq_none_iff_forall_ne_some, ne_eq, message?_eq_some_iff]

/-- What is left of a token when it is written: of its time, no more than goes into eight bytes. -/
def written (t : Token) : Token := { t with time := t.time % 2 ^ 64 }

lemma signedBytes_written (t : Token) : t.written.signedBytes = t.signedBytes := by
  have htime := bigEndian_number (Sha256.bigEndian 8 t.time)
  rw [length_bigEndian, number_bigEndian] at htime
  rw [signedBytes, signedBytes, written, show 2 ^ 64 = 256 ^ 8 from rfl, htime]

lemma text_written (t : Token) : t.written.text = t.text := by
  rw [text, text, toBytes, toBytes, signedBytes_written]
  rfl

/-- What is sealed is a token that the key opens to the message. -/
lemma exists_isSpelledBy_issue (key : Key) (start : Block) (time : ℕ) (message : List UInt8) :
    ∃ t : Token, t.IsSpelledBy (issue key start time message).text ∧ t.Opens key message := by
  have hopens := message?_eq_some_iff.mp (message?_issue key start time message)
  have hparse : parse? (issue key start time message).written.text
      = some (issue key start time message).written :=
    parse?_text (Nat.mod_lt _ (by decide)) (length_authenticate _ _)
  rw [text_written] at hparse
  refine ⟨_, parse?_eq_some_iff.mp hparse, ?_, hopens.decrypted⟩
  rw [signedBytes_written]
  exact hopens.authentic

end Token

/-! ### Ids in messages -/

namespace Cursor

/-- The message is the text of a row id. -/
def IsIdText (message : List UInt8) (id : Int) : Prop :=
  ∃ s : String, s.toUTF8 = message.toByteArray ∧ readWord? 64 s = some id ∧ 0 ≤ id

lemma utf8EncodeChar_of_lt {c : Char} (h : c.toNat < 128) :
    String.utf8EncodeChar c = [UInt8.ofNat c.toNat] := by
  rw [String.utf8EncodeChar]
  exact if_pos (Nat.le_of_lt_succ h)

/-- A text of ASCII characters has them as its bytes. -/
lemma toUTF8_eq {s : String} (h : ∀ c ∈ s.toList, c.toNat < 128) :
    s.toUTF8 = (asciiBytes s).toByteArray := by
  have hbytes : ∀ cs : List Char, (∀ c ∈ cs, c.toNat < 128) →
      cs.flatMap String.utf8EncodeChar = cs.map fun c => UInt8.ofNat c.toNat := by
    intro cs
    induction cs with
    | nil => exact fun _ => rfl
    | cons c cs ih =>
      intro hcs
      obtain ⟨hc, hcs⟩ := List.forall_mem_cons.mp hcs
      rw [List.flatMap_cons, utf8EncodeChar_of_lt hc, ih hcs]
      rfl
  rw [String.toUTF8_eq_toByteArray, ← String.ofList_toList (s := s), String.toByteArray_ofList,
    List.utf8Encode, hbytes _ h, asciiBytes, String.toList_ofList]

lemma toNat_ofNat_of_lt {n : ℕ} (h : n < 128) : (Char.ofNat n).toNat = n := by
  rw [Char.ofNat, dif_pos (.inl (by omega))]
  rfl

lemma asciiText?_eq_some_iff {bytes : List UInt8} {s : String} :
    asciiText? bytes = some s ↔ (∀ c ∈ s.toList, c.toNat < 128) ∧ asciiBytes s = bytes := by
  constructor
  · intro h
    obtain ⟨hbytes, hs⟩ := Option.ite_none_right_eq_some.mp h
    obtain rfl := Option.some.inj hs
    simp only [List.all_eq_true, decide_eq_true_iff, UInt8.lt_iff_toNat_lt] at hbytes
    have hchar : ∀ b ∈ bytes, (Char.ofNat b.toNat).toNat = b.toNat := fun b hb =>
      toNat_ofNat_of_lt (hbytes b hb)
    constructor
    · intro c hc
      rw [String.toList_ofList] at hc
      obtain ⟨b, hb, rfl⟩ := List.mem_map.mp hc
      exact (hchar b hb).trans_lt (hbytes b hb)
    · rw [asciiBytes, String.toList_ofList, List.map_map]
      refine (List.map_congr_left fun b hb => ?_).trans (List.map_id bytes)
      rw [Function.comp_apply, hchar b hb, UInt8.ofNat_toNat, id]
  · rintro ⟨hascii, rfl⟩
    exact asciiText?_asciiBytes hascii

lemma watermark?_eq_some_iff {message : List UInt8} {id : Int} :
    watermark? message = some id ↔ IsIdText message id := by
  simp only [watermark?, Option.filter_eq_some_iff, Option.bind_eq_some_iff,
    asciiText?_eq_some_iff, decide_eq_true_iff, IsIdText]
  constructor
  · rintro ⟨⟨s, ⟨hascii, rfl⟩, hread⟩, hid⟩
    exact ⟨s, toUTF8_eq hascii, hread, hid⟩
  · rintro ⟨s, hbytes, hread, hid⟩
    have hascii := lt_of_readWord? hread
    exact ⟨⟨s, ⟨hascii, List.toByteArray_inj.mp ((toUTF8_eq hascii).symm.trans hbytes)⟩, hread⟩,
      hid⟩

/-! ### What a text stands for -/

variable {c : Cursor} {now : ℕ} {text : String} {id : Int}

/-- The text spells a fresh token, and the first key in order that opens it finds the text of the
id. -/
def Grants (c : Cursor) (now : ℕ) (text : String) (id : Int) : Prop :=
  ∃ t : Token, t.IsSpelledBy text ∧ now ≤ t.time + 3600 ∧ t.time ≤ now + 60
    ∧ ∃ before key after message, c.primary :: c.previous = before ++ key :: after
      ∧ (∀ k ∈ before, ∀ m, ¬t.Opens k m) ∧ t.Opens key message ∧ IsIdText message id

lemma open?_eq_some_iff {message : List UInt8} :
    c.open? now text = some message
      ↔ ∃ t : Token, t.IsSpelledBy text ∧ now ≤ t.time + 3600 ∧ t.time ≤ now + 60
        ∧ c.keys.findSome? (fun k => t.message? k) = some message := by
  simp only [open?, Option.bind_eq_bind, Option.bind_eq_some_iff, Token.parse?_eq_some_iff,
    Option.ite_none_right_eq_some, isFresh_iff, and_assoc]

lemma bind_watermark?_eq_some_iff :
    (c.open? now text).bind watermark? = some id ↔ c.Grants now text id := by
  simp only [Option.bind_eq_some_iff, open?_eq_some_iff, List.findSome?_eq_some_iff,
    Token.message?_eq_some_iff, Token.message?_eq_none_iff, watermark?_eq_some_iff, Grants, keys]
  constructor
  · rintro ⟨message, ⟨t, htext, hold, hskew, before, key, after, hkeys, hopens, hbefore⟩, hid⟩
    exact ⟨t, htext, hold, hskew, before, key, after, message, hkeys, hbefore, hopens, hid⟩
  · rintro ⟨t, htext, hold, hskew, before, key, after, message, hkeys, hbefore, hopens, hid⟩
    exact ⟨message, ⟨t, htext, hold, hskew, before, key, after, hkeys, hopens, hbefore⟩, hid⟩

lemma Grants.nonneg (h : c.Grants now text id) : 0 ≤ id := by
  obtain ⟨-, -, -, -, -, -, -, -, -, -, -, -, -, -, hid⟩ := h
  exact hid

lemma decode_of_grants (h : c.Grants now text id) (default : Int) :
    c.decode now default text = id := by
  rw [decode, bind_watermark?_eq_some_iff.mpr h, Option.getD_some]

lemma decode_of_forall_not_grants (h : ∀ id, ¬c.Grants now text id) (default : Int) :
    c.decode now default text = default := by
  have hnone : (c.open? now text).bind watermark? = none :=
    Option.eq_none_iff_forall_ne_some.mpr fun id hid => h id (bind_watermark?_eq_some_iff.mp hid)
  rw [decode, hnone, Option.getD_none]

/-- The keys are tried no further than to one that opens the token. -/
lemma open?_congr {c' : Cursor} {t : Token} {before after after' : List Key} {key : Key}
    {message : List UInt8} (htext : t.IsSpelledBy text) (hopens : t.Opens key message)
    (hkeys : c.keys = before ++ key :: after) (hkeys' : c'.keys = before ++ key :: after') :
    c'.open? now text = c.open? now text := by
  have hsame : c'.keys.findSome? (fun k => t.message? k)
      = c.keys.findSome? (fun k => t.message? k) := by
    rw [hkeys, hkeys', List.findSome?_append, List.findSome?_append, List.findSome?_cons,
      List.findSome?_cons, Token.message?_eq_some_iff.mpr hopens]
  simp only [open?, Token.parse?_eq_some_iff.mpr htext, Option.bind_eq_bind, Option.bind_some,
    hsame]

/-- **Only an authentic, fresh token moves a listing on.** A reader takes an id from a text exactly
if the text grants it, and that id is not negative; from any other text it takes the default. The
keys behind one that opens the token make no difference. -/
theorem decode_grants (c : Cursor) (now : ℕ) (text : String) :
    (∀ default, c.decode now default text = default ∨ 0 ≤ c.decode now default text)
      ∧ (∀ id, (∀ default, c.decode now default text = id) ↔ c.Grants now text id)
      ∧ ((∀ id, ¬c.Grants now text id) → ∀ default, c.decode now default text = default)
      ∧ ∀ (t : Token) (before : List Key) (key : Key) (message : List UInt8),
        t.IsSpelledBy text → t.Opens key message → ∀ c' : Cursor,
          (∃ after, c.primary :: c.previous = before ++ key :: after) →
          (∃ after, c'.primary :: c'.previous = before ++ key :: after) →
          ∀ default, c'.decode now default text = c.decode now default text := by
  refine ⟨fun default => ?_, fun id => ⟨fun hread => ?_, decode_of_grants⟩,
    decode_of_forall_not_grants, ?_⟩
  · by_cases h : ∃ id, c.Grants now text id
    · obtain ⟨id, h⟩ := h
      right
      rw [decode_of_grants h]
      exact h.nonneg
    · exact .inl (decode_of_forall_not_grants (not_exists.mp h) default)
  · by_contra hnot
    -- a reading that depends on the default is not an id
    have hnone : ∀ id', ¬c.Grants now text id' := fun id' h => by
      obtain rfl : id' = id := (decode_of_grants h 0).symm.trans (hread 0)
      exact hnot h
    have heq : id + 1 = id :=
      (decode_of_forall_not_grants hnone (id + 1)).symm.trans (hread (id + 1))
    omega
  · rintro t before key message htext hopens c' ⟨after, hkeys⟩ ⟨after', hkeys'⟩ default
    rw [decode, decode, open?_congr htext hopens hkeys hkeys']

/-- A token that a former key sealed, for a reader that has the key and for one with a further key
behind it, and no token at all. -/
theorem decode_grants_previous :
    Cursor.decode ⟨⟨.replicate 16 3, .replicate 16 4⟩,
        [⟨.replicate 16 1, .replicate 16 2⟩, ⟨.replicate 16 5, .replicate 16 6⟩]⟩ 1700000000 5
        (Token.issue ⟨.replicate 16 1, .replicate 16 2⟩ (.replicate 16 0) 1700000000
          (asciiBytes "42")).text
      = Cursor.decode ⟨⟨.replicate 16 3, .replicate 16 4⟩, [⟨.replicate 16 1, .replicate 16 2⟩]⟩
        1700000000 5 (Token.issue ⟨.replicate 16 1, .replicate 16 2⟩ (.replicate 16 0) 1700000000
          (asciiBytes "42")).text
      ∧ Cursor.decode ⟨⟨.replicate 16 3, .replicate 16 4⟩, []⟩ 1700000000 5 "" = 5 := by
  constructor
  · exact (decode_grants _ _ _).2.2.2 _ [⟨.replicate 16 3, .replicate 16 4⟩]
      ⟨.replicate 16 1, .replicate 16 2⟩ (asciiBytes "42")
      (Token.parse?_eq_some_iff.mp (Token.parse?_issue _ _ (by decide) _))
      (Token.message?_eq_some_iff.mp (Token.message?_issue _ _ _ _)) _ ⟨[], rfl⟩ ⟨_, rfl⟩ 5
  · refine (decode_grants _ _ _).2.2.1 (fun id ⟨t, htext, _⟩ => ?_) 5
    have hparse := Token.parse?_eq_some_iff.mpr htext
    rw [Token.parse?_empty] at hparse
    cases hparse

/-! ### What a token was sealed for -/

/-- The text spells a token that was sealed with the first key, and its message is the id. -/
def Carries (c : Cursor) (text : String) (id : Int) : Prop :=
  0 ≤ id ∧ ∃ t : Token, t.IsSpelledBy text ∧ t.Opens c.primary (asciiBytes (toString id))

lemma carries_of_encode {start : Block} {time : ℕ} (h : c.encode start time id = .ok text) :
    c.Carries text id := by
  rw [encode] at h
  split at h
  · cases h
  · rename_i hid
    obtain rfl := Except.ok.inj h
    exact ⟨Int.not_lt.mp hid, Token.exists_isSpelledBy_issue _ _ _ _⟩

end Cursor

end Catalog.Paging
