import Catalog.Paging.Cursor
import Catalog.Proofs.Cipher.Chain
import Catalog.Proofs.Text.Base64
import Catalog.Proofs.Text.Integer

/-!
The id in a token is the id it was issued for, as long as the token is fresh and its key is still
in use.
-/

namespace Catalog.Paging

open Catalog.Cipher Catalog.Text

/-! ### Numbers in bytes -/

namespace Token

lemma number_append (bytes : List UInt8) (b : UInt8) :
    number (bytes ++ [b]) = 256 * number bytes + b.toNat := by
  simp [number]

lemma bigEndian_succ (count n : ℕ) :
    Sha256.bigEndian (count + 1) n = Sha256.bigEndian count (n / 256) ++ [UInt8.ofNat n] := by
  simp only [Sha256.bigEndian, List.range_succ, List.map_append, List.map_cons, List.map_nil]
  congr 1
  · refine List.map_congr_left fun i hi => ?_
    have hlt := List.mem_range.mp hi
    have hpower : count + 1 - 1 - i = (count - 1 - i) + 1 := by omega
    have hfactor : Nat.pow 256 (count - 1 - i + 1) = 256 * Nat.pow 256 (count - 1 - i) :=
      Nat.pow_succ'
    rw [hpower, hfactor, ← Nat.div_div_eq_div_mul]
  · simp

lemma number_bigEndian (count n : ℕ) : number (Sha256.bigEndian count n) = n % 256 ^ count := by
  induction count generalizing n with
  | zero => simp [Sha256.bigEndian, number, Nat.mod_one]
  | succ count ih =>
    have hpower : 256 ^ (count + 1) = 256 * 256 ^ count := Nat.pow_succ'
    rw [bigEndian_succ, number_append, ih, UInt8.toNat_ofNat', hpower, Nat.mod_mul]
    exact Nat.add_comm _ _

/-! ### Parts of a token -/

lemma length_bigEndian (count n : ℕ) : (Sha256.bigEndian count n).length = count := by
  simp [Sha256.bigEndian]

lemma length_authenticate (key message : List UInt8) :
    (Sha256.authenticate key message).length = 32 := by
  simp [Sha256.authenticate, Sha256.hash, Sha256.wordBytes]

/-- A token is put together from its parts, and taken apart again. -/
lemma ofBytes?_toBytes {t : Token} (htime : t.time < 2 ^ 64) (hcode : t.code.length = 32) :
    ofBytes? t.toBytes = some t := by
  obtain ⟨time, start, cipher, code⟩ := t
  have hnumber : number (Sha256.bigEndian 8 time) = time := by
    rw [number_bigEndian]
    exact Nat.mod_eq_of_lt htime
  have h8 := length_bigEndian 8 time
  have h16 : start.toList.length = 16 := start.length_toList
  have hbytes : toBytes ⟨time, start, cipher, code⟩
      = version :: (Sha256.bigEndian 8 time ++ (start.toList ++ (cipher ++ code))) := by
    simp [toBytes, signedBytes]
  have h24 : List.drop 24 (Sha256.bigEndian 8 time ++ (start.toList ++ (cipher ++ code)))
      = cipher ++ code := by
    rw [← List.append_assoc]
    exact List.drop_left' (by simp [h8])
  have hbody : (cipher ++ code).length - 32 = cipher.length := by
    simp [hcode]
  rw [hbytes, ofBytes?]
  simp only [List.take_left' h8, List.drop_left' h8, List.take_left' h16, h24, hbody,
    List.take_left, List.drop_left, hnumber]
  rw [dif_pos ⟨trivial, by simp [h8, hcode]; omega⟩]
  rfl

lemma parse?_text {t : Token} (htime : t.time < 2 ^ 64) (hcode : t.code.length = 32) :
    parse? t.text = some t := by
  rw [parse?, text, String.toList_ofList, Base64.stripPadding_encodePadded, Base64.decode?_encode,
    Option.bind_some, ofBytes?_toBytes htime hcode]

lemma parse?_issue (key : Key) (start : Block) {time : ℕ} (htime : time < 2 ^ 64)
    (message : List UInt8) :
    parse? (issue key start time message).text = some (issue key start time message) :=
  parse?_text htime (length_authenticate _ _)

lemma parse?_empty : parse? "" = none := rfl

lemma message?_issue (key : Key) (start : Block) (time : ℕ) (message : List UInt8) :
    message? key (issue key start time message) = some message := by
  rw [message?, if_pos (by rfl)]
  exact decryptMessage?_encryptMessage _ _ _

end Token

/-! ### Ids -/

namespace Cursor

lemma asciiText?_asciiBytes {s : String} (h : ∀ c ∈ s.toList, c.toNat < 128) :
    asciiText? (asciiBytes s) = some s := by
  have hbyte : ∀ c ∈ s.toList, (UInt8.ofNat c.toNat).toNat = c.toNat := by
    intro c hc
    have hlt := h c hc
    rw [UInt8.toNat_ofNat']
    omega
  have hall : (asciiBytes s).all (· < 0x80) := by
    simp only [asciiBytes, List.all_map, List.all_eq_true, Function.comp_apply, decide_eq_true_iff,
      UInt8.lt_iff_toNat_lt]
    intro c hc
    rw [hbyte c hc]
    exact h c hc
  have hback : s.toList.map (fun c => Char.ofNat (UInt8.ofNat c.toNat).toNat) = s.toList := by
    conv_rhs => rw [← List.map_id s.toList]
    refine List.map_congr_left fun c hc => ?_
    rw [hbyte c hc, Char.ofNat_toNat, id]
  rw [asciiText?, if_pos hall, asciiBytes, List.map_map, Function.comp_def, hback,
    String.ofList_toList]

lemma asciiText?_toString {id : Int} (hid : 0 ≤ id) :
    asciiText? (asciiBytes (toString id)) = some (toString id) := by
  obtain ⟨n, rfl⟩ := Int.eq_ofNat_of_zero_le hid
  refine asciiText?_asciiBytes fun c hc => ?_
  have hdigit := isDigit_toDigits (toList_toString n ▸ hc)
  simp only [Char.isDigit, Bool.and_eq_true, decide_eq_true_iff] at hdigit
  have hle := UInt32.le_iff_toNat_le.mp hdigit.2
  exact hle.trans_lt (by decide)

lemma watermark?_asciiBytes {id : Int} (hid : 0 ≤ id) (hlt : id < 2 ^ 63) :
    watermark? (asciiBytes (toString id)) = some id := by
  rw [watermark?, asciiText?_toString hid, Option.bind_some]
  obtain ⟨n, rfl⟩ := Int.eq_ofNat_of_zero_le hid
  rw [readWord?_toString (by omega)]
  simp [Option.filter]

/-! ### Tokens -/

lemma open?_issue (c : Cursor) (start : Block) {time : ℕ} (htime : time < 2 ^ 64) {now : ℕ}
    (message : List UInt8)
    (hfresh : (Token.issue c.primary start time message).isFresh now = true) :
    c.open? now (Token.issue c.primary start time message).text = some message := by
  rw [open?, Token.parse?_issue c.primary start htime]
  simp only [Option.bind_eq_bind, Option.bind_some, hfresh, if_true, keys, List.findSome?_cons,
    Token.message?_issue]

/-- **A token** stands for the id it was issued for. -/
theorem decode_issue (c : Cursor) (start : Block) {time : ℕ} (htime : time < 2 ^ 64) {now : ℕ}
    {id default : Int} (hid : 0 ≤ id) (hlt : id < 2 ^ 63)
    (hfresh : (Token.issue c.primary start time (asciiBytes (toString id))).isFresh now = true) :
    c.decode now default (Token.issue c.primary start time (asciiBytes (toString id))).text
      = id := by
  rw [decode, open?_issue c start htime _ hfresh, Option.bind_some, watermark?_asciiBytes hid hlt,
    Option.getD_some]

lemma encode_of_nonneg (c : Cursor) (start : Block) (time : ℕ) {id : Int} (hid : 0 ≤ id) :
    c.encode start time id
      = .ok (Token.issue c.primary start time (asciiBytes (toString id))).text := by
  rw [encode, if_neg (Int.not_lt.mpr hid)]

/-- A token says how long it is good. -/
lemma isFresh_iff {t : Token} {now : ℕ} :
    t.isFresh now = true ↔ now ≤ t.time + 3600 ∧ t.time ≤ now + 60 := by
  rw [Token.isFresh, Bool.and_eq_true, decide_eq_true_iff, decide_eq_true_iff, timeToLive,
    clockSkew]

lemma decode_issue_of_not_isFresh (c : Cursor) (key : Key) (start : Block) {time : ℕ}
    (htime : time < 2 ^ 64) {now : ℕ} (default : Int) {message : List UInt8}
    (hstale : ¬(Token.issue key start time message).isFresh now = true) :
    c.decode now default (Token.issue key start time message).text = default := by
  rw [decode, open?, Token.parse?_issue key start htime]
  simp only [Option.bind_eq_bind, Option.bind_some, if_neg hstale, Option.bind_none,
    Option.getD_none]

/-- **A token is good for an hour**, and for clocks that are a minute behind. Read by then it is the
id that it was made for, and later or earlier the default, whatever other keys the reader has. There
is no token for a negative id. -/
theorem decode_encode (c : Cursor) (start : Block) {time : ℕ} (htime : time + 3600 < 2 ^ 64)
    (id : Int) :
    (0 ≤ id → id < 2 ^ 63 → ∃ token, c.encode start time id = .ok token
      ∧ ∀ (now : ℕ) (default : Int), now + 60 < 2 ^ 64 → c.decode now default token
        = if now ≤ time + 3600 ∧ time ≤ now + 60 then id else default)
      ∧ (id < 0 → c.encode start time id = .error (.negativeWatermark id)) := by
  have hlt : time < 2 ^ 64 := by omega
  constructor
  · intro hid hbound
    refine ⟨(Token.issue c.primary start time (asciiBytes (toString id))).text,
      c.encode_of_nonneg start time hid, fun now default _ => ?_⟩
    by_cases hwindow : now ≤ time + 3600 ∧ time ≤ now + 60
    · rw [if_pos hwindow]
      exact c.decode_issue start hlt hid hbound (isFresh_iff.mpr hwindow)
    · rw [if_neg hwindow]
      exact c.decode_issue_of_not_isFresh c.primary start hlt default (mt isFresh_iff.mp hwindow)
  · intro hid
    rw [encode, if_pos hid]

/-- A token for the greatest id, in its last second and in the one after it. -/
theorem decode_encode_last_second :
    ∃ token, Cursor.encode ⟨⟨.replicate 16 1, .replicate 16 2⟩, []⟩ (.replicate 16 0) 1700000000
        9223372036854775807 = .ok token
      ∧ Cursor.decode ⟨⟨.replicate 16 1, .replicate 16 2⟩, []⟩ 1700003600 5 token
        = 9223372036854775807
      ∧ Cursor.decode ⟨⟨.replicate 16 1, .replicate 16 2⟩, []⟩ 1700003601 5 token = 5 := by
  obtain ⟨token, htoken, hdecode⟩ := (decode_encode ⟨⟨.replicate 16 1, .replicate 16 2⟩, []⟩
    (.replicate 16 0) (show 1700000000 + 3600 < 2 ^ 64 by decide) 9223372036854775807).1 (by decide)
    (by decide)
  exact ⟨token, htoken, hdecode 1700003600 5 (by decide), hdecode 1700003601 5 (by decide)⟩

/-- Without a token, a listing starts at the default. -/
lemma decode_empty (c : Cursor) (now : ℕ) (default : Int) : c.decode now default "" = default := by
  rfl

end Cursor

end Catalog.Paging
