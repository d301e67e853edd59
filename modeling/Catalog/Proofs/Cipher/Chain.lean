import Catalog.Cipher.Chain
import Catalog.Proofs.Cipher.Aes

/-!
A message that was encrypted is decrypted to itself: its padding tells its own length, cutting
undoes joining, and every block of cipher text is there when the next one is undone.
-/

namespace Catalog.Cipher

/-! ### Padding -/

lemma dvd_length_pad (message : List UInt8) : 16 ∣ (pad message).length := by
  simp only [pad, List.length_append, List.length_replicate]
  omega

lemma unpad?_pad (message : List UInt8) : unpad? (pad message) = some message := by
  have hlt : message.length % 16 < 16 := Nat.mod_lt _ (by decide)
  obtain ⟨n, hn⟩ : ∃ n, 16 - message.length % 16 = n + 1 := ⟨15 - message.length % 16, by omega⟩
  have hbyte : (UInt8.ofNat (n + 1)).toNat = n + 1 := by
    rw [UInt8.toNat_ofNat']
    omega
  have hlast : (pad message).getLast? = some (UInt8.ofNat (n + 1)) := by
    simp [pad, hn, List.getLast?_append, List.getLast?_replicate]
  have hkept : (pad message).length - (n + 1) = message.length := by
    simp [pad, hn]
  simp only [unpad?, hlast, Option.bind_eq_bind, Option.bind_some, hbyte, hkept]
  rw [if_pos ⟨by omega, by omega, by simp [pad, hn]⟩]
  simp [pad]

/-- What is taken off whole blocks is the padding of what is left. -/
lemma unpad?_eq_some_iff {bytes message : List UInt8} (h : 16 ∣ bytes.length) :
    unpad? bytes = some message ↔ bytes = pad message := by
  constructor
  · intro hunpad
    obtain ⟨last, -, hunpad⟩ := Option.bind_eq_some_iff.mp hunpad
    simp only [Option.ite_none_right_eq_some, Option.some.injEq] at hunpad
    obtain ⟨⟨hpos, hle, hdrop⟩, htake⟩ := hunpad
    have hcount : bytes.length - (bytes.length - last.toNat) = last.toNat := by
      simpa using congrArg List.length hdrop
    have hlength : message.length = bytes.length - last.toNat := by
      simp [← htake]
    have hmissing : 16 - message.length % 16 = last.toNat := by omega
    rw [pad, hmissing, UInt8.ofNat_toNat, ← hdrop, ← htake, List.take_append_drop]
  · rintro rfl
    exact unpad?_pad message

/-! ### Blocks -/

lemma blocks?_join (bs : List Block) : blocks? (join bs) = some bs := by
  induction bs with
  | nil => rw [join, List.flatMap_nil, blocks?]
  | cons b bs ih =>
    obtain ⟨a, rest, hb⟩ : ∃ a rest, b.toList = a :: rest :=
      List.exists_cons_of_length_eq_add_one b.length_toList
    have hrest : rest.length = 15 := by
      simpa [hb] using b.length_toList
    have hjoin : join (b :: bs) = a :: (rest ++ join bs) := by
      simp [join, hb]
    have htake : (rest ++ join bs).take 15 = rest := List.take_left' hrest
    have hdrop : (rest ++ join bs).drop 15 = join bs := List.drop_left' hrest
    rw [hjoin, blocks?, dif_pos (by rw [htake]; simp [hrest])]
    simp only [hdrop, ih, Option.map_some, htake, ← hb]
    rfl

lemma blocks?_eq_some_iff {bytes : List UInt8} {bs : List Block} :
    blocks? bytes = some bs ↔ bytes = join bs := by
  constructor
  · intro h
    fun_induction blocks? bytes generalizing bs with
    | case1 => exact Option.some.inj h ▸ rfl
    | case2 b rest hlength ih =>
      obtain ⟨tail, htail, rfl⟩ := Option.map_eq_some_iff.mp h
      have hrest : rest = rest.take 15 ++ join tail := by
        rw [← ih htail, List.take_append_drop]
      exact congrArg (b :: ·) hrest
    | case3 => cases h
  · rintro rfl
    exact blocks?_join bs

lemma join_cons (b : Block) (bs : List Block) : join (b :: bs) = b.toList ++ join bs := rfl

lemma dvd_length_join (bs : List Block) : 16 ∣ (join bs).length := by
  induction bs with
  | nil => exact Nat.dvd_zero 16
  | cons b bs ih =>
    rw [join_cons, List.length_append, Vector.length_toList]
    exact Nat.dvd_add (Nat.dvd_refl 16) ih

/-- Bytes that fill whole blocks can be cut into them. -/
lemma exists_join {bytes : List UInt8} (h : 16 ∣ bytes.length) : ∃ bs, join bs = bytes := by
  obtain ⟨n, hn⟩ := h
  induction n generalizing bytes with
  | zero =>
    obtain rfl := List.length_eq_zero_iff.mp hn
    exact ⟨[], rfl⟩
  | succ n ih =>
    have hrest : (bytes.drop 16).length = 16 * n := by
      rw [List.length_drop]
      omega
    obtain ⟨bs, hbs⟩ := ih hrest
    have hfirst : (bytes.take 16).toArray.size = 16 := by simp; omega
    refine ⟨⟨(bytes.take 16).toArray, hfirst⟩ :: bs, ?_⟩
    rw [join_cons, hbs]
    exact List.take_append_drop 16 bytes

/-! ### Chaining -/

lemma unchain_chain {encrypt decrypt : Block → Block} (h : ∀ b, decrypt (encrypt b) = b)
    (before : Block) (bs : List Block) :
    unchain decrypt before (chain encrypt before bs) = bs := by
  induction bs generalizing before with
  | nil => rfl
  | cons b bs ih => rw [chain, unchain, ih, h, Block.xor_xor]

/-- A cipher text has a message if it is of whole blocks that hold the message with its padding. -/
lemma decryptMessage?_eq_some_iff {key start : Block} {bytes message : List UInt8} :
    decryptMessage? key start bytes = some message
      ↔ ∃ bs, bytes = join bs ∧ join (unchain (Aes.decrypt key) start bs) = pad message := by
  simp only [decryptMessage?, Option.bind_eq_bind, Option.bind_eq_some_iff, blocks?_eq_some_iff,
    unpad?_eq_some_iff (dvd_length_join _)]

/-- **Decryption** of the cipher text of a message gives back the message. -/
theorem decryptMessage?_encryptMessage (key start : Block) (message : List UInt8) :
    decryptMessage? key start (encryptMessage key start message) = some message := by
  obtain ⟨bs, hjoin⟩ := exists_join (dvd_length_pad message)
  have hbs : blocks? (pad message) = some bs := by rw [← hjoin, blocks?_join]
  rw [decryptMessage?, encryptMessage, blocks?_join, hbs]
  simp only [Option.bind_eq_bind, Option.bind_some, Option.getD_some]
  rw [unchain_chain (Aes.decrypt_encrypt key), hjoin, unpad?_pad]

end Catalog.Cipher
