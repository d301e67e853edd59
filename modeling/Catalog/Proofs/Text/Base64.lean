import Catalog.Text.Base64
import Catalog.Text.Ranges
import Mathlib.Data.List.TakeWhile

/-!
Base64 text is read back to the bytes it was made from, and no other text is read at all.
-/

namespace Catalog.Text.Base64

/-! ### Characters -/

lemma value?_char (a : Alphabet) : ∀ n < 64, a.value? (a.char n) = some n := by
  cases a <;> decide +kernel

/-- A character that stands for bits is the one for them. -/
lemma char_of_value? {a : Alphabet} {c : Char} {n : ℕ} (h : a.value? c = some n) :
    n < 64 ∧ a.char n = c := by
  have hof {k m : ℕ} (hk : k = c.toNat - m) (hm : m ≤ c.toNat) : Char.ofNat (m + k) = c := by
    rw [hk, Nat.add_sub_cancel' hm, Char.ofNat_toNat]
  have hle {x y : Char} : x ≤ y ↔ x.toNat ≤ y.toNat := Iff.rfl
  unfold Alphabet.value? at h
  simp only [hle] at h
  split_ifs at h with hupper hlower hdigit hfirst hsecond <;> obtain rfl := Option.some.inj h
  · have hZ : 'Z'.toNat = 'A'.toNat + 25 := rfl
    refine ⟨by omega, ?_⟩
    rw [Alphabet.char, if_pos (by omega), hof rfl hupper.1]
  · have hz : 'z'.toNat = 'a'.toNat + 25 := rfl
    refine ⟨by omega, ?_⟩
    rw [Alphabet.char, if_neg (by omega), if_pos (by omega), hof (by omega) hlower.1]
  · have h9 : '9'.toNat = '0'.toNat + 9 := rfl
    refine ⟨by omega, ?_⟩
    rw [Alphabet.char, if_neg (by omega), if_neg (by omega), if_pos (by omega),
      hof (by omega) hdigit.1]
  · exact ⟨by decide, hfirst.symm⟩
  · exact ⟨by decide, hsecond.symm⟩

/-- The alphabets have no character for different bits. -/
lemma value?_or_value?_char (a : Alphabet) :
    ∀ n < 64, (Alphabet.value? .urlSafe (a.char n)).or (Alphabet.value? .standard (a.char n))
      = some n := by
  cases a <;> decide +kernel

lemma isBlank_char (a : Alphabet) : ∀ n < 64, isBlank (a.char n) = false := by
  cases a <;> decide +kernel

lemma char_ne_padding (a : Alphabet) : ∀ n < 64, a.char n ≠ '=' := by
  cases a <;> decide +kernel

/-! ### Groups of bits -/

lemma lt_of_mem_sextets (bs : List UInt8) : ∀ n ∈ sextets bs, n < 64 := by
  fun_induction sextets bs with
  | case1 => simp
  | case2 a =>
    have ha := a.toNat_lt
    simp
    omega
  | case3 a b =>
    have ha := a.toNat_lt
    have hb := b.toNat_lt
    simp
    omega
  | case4 a b c rest ih =>
    have ha := a.toNat_lt
    have hb := b.toNat_lt
    have hc := c.toNat_lt
    simp only [List.mem_cons, forall_eq_or_imp]
    exact ⟨by omega, by omega, by omega, by omega, ih⟩

/-- A byte is the number it was cut from. -/
lemma ofNat_eq {n : ℕ} {a : UInt8} (h : n = a.toNat) : UInt8.ofNat n = a := by
  rw [h, UInt8.ofNat_toNat]

lemma bytes?_sextets (bs : List UInt8) : bytes? (sextets bs) = some bs := by
  fun_induction sextets bs with
  | case1 => rfl
  | case2 a =>
    have ha := a.toNat_lt
    rw [bytes?, if_pos (by omega), ofNat_eq (a := a) (by omega)]
  | case3 a b =>
    have ha := a.toNat_lt
    have hb := b.toNat_lt
    rw [bytes?, if_pos (by omega), ofNat_eq (a := a) (by omega), ofNat_eq (a := b) (by omega)]
  | case4 a b c rest ih =>
    have ha := a.toNat_lt
    have hb := b.toNat_lt
    have hc := c.toNat_lt
    rw [bytes?, ih, ofNat_eq (a := a) (by omega), ofNat_eq (a := b) (by omega),
      ofNat_eq (a := c) (by omega)]
    rfl

lemma toNat_ofNat {n : ℕ} (h : n < 256) : (UInt8.ofNat n).toNat = n := by
  rw [UInt8.toNat_ofNat', Nat.mod_eq_of_lt h]

/-- Nothing is lost where what fills up the last group is zero. -/
lemma sextets_of_bytes? {ns : List ℕ} (hns : ∀ n ∈ ns, n < 64) {bs : List UInt8}
    (h : bytes? ns = some bs) : sextets bs = ns := by
  fun_induction bytes? ns generalizing bs with
  | case1 => exact Option.some.inj h ▸ rfl
  | case2 | case4 | case6 => cases h
  | case3 p q hq =>
    obtain rfl := Option.some.inj h
    simp only [List.forall_mem_cons] at hns
    rw [sextets, toNat_ofNat (by omega)]
    simp only [List.cons.injEq, and_true]
    omega
  | case5 p q r hr =>
    obtain rfl := Option.some.inj h
    simp only [List.forall_mem_cons] at hns
    rw [sextets, toNat_ofNat (by omega), toNat_ofNat (by omega)]
    simp only [List.cons.injEq, and_true]
    omega
  | case7 p q r s rest ih =>
    obtain ⟨tail, htail, rfl⟩ := Option.map_eq_some_iff.mp h
    simp only [List.forall_mem_cons] at hns
    obtain ⟨hp, hq, hr, hs, hrest⟩ := hns
    rw [sextets, toNat_ofNat (by omega), toNat_ofNat (by omega), toNat_ofNat (by omega),
      ih hrest htail]
    simp only [List.cons.injEq, and_true]
    omega

/-! ### Text -/

lemma mapM_value? (a : Alphabet) {ns : List ℕ} (h : ∀ n ∈ ns, n < 64) :
    (ns.map a.char).mapM a.value? = some ns := by
  induction ns with
  | nil => rfl
  | cons n ns ih =>
    obtain ⟨hn, hns⟩ := List.forall_mem_cons.mp h
    rw [List.map_cons, List.mapM_cons, value?_char a n hn, ih hns]
    rfl

/-- Characters that stand for bits are those for them. -/
lemma map_char_of_mapM {a : Alphabet} {cs : List Char} {ns : List ℕ}
    (h : cs.mapM a.value? = some ns) : (∀ n ∈ ns, n < 64) ∧ ns.map a.char = cs := by
  induction cs generalizing ns with
  | nil =>
    obtain rfl := Option.some.inj h
    simp
  | cons c cs ih =>
    simp only [List.mapM_cons, Option.bind_eq_bind, Option.bind_eq_some_iff, Option.pure_def,
      Option.some.injEq] at h
    obtain ⟨n, hn, rest, hrest, rfl⟩ := h
    obtain ⟨hlts, hmap⟩ := ih hrest
    obtain ⟨hlt, hchar⟩ := char_of_value? hn
    exact ⟨List.forall_mem_cons.mpr ⟨hlt, hlts⟩, by rw [List.map_cons, hchar, hmap]⟩

lemma decode?_encode (a : Alphabet) (bs : List UInt8) : decode? a (encode a bs) = some bs := by
  rw [decode?, encode, mapM_value? a (lt_of_mem_sextets bs), Option.bind_some, bytes?_sextets]

/-- **Decoding** reads what was encoded, and nothing else. -/
theorem decode?_eq_some_iff {a : Alphabet} {cs : List Char} {bs : List UInt8} :
    decode? a cs = some bs ↔ cs = encode a bs := by
  constructor
  · intro h
    obtain ⟨ns, hns, hbytes⟩ := Option.bind_eq_some_iff.mp h
    obtain ⟨hlt, hmap⟩ := map_char_of_mapM hns
    rw [encode, sextets_of_bytes? hlt hbytes, hmap]
  · rintro rfl
    exact decode?_encode a bs

/-- Bytes are not mistaken for others, in whichever alphabet they are written. -/
lemma encode_inj {a b : Alphabet} {bs bs' : List UInt8} (h : encode a bs = encode b bs') :
    bs = bs' := by
  have hvalues : ∀ (a : Alphabet) (bs : List UInt8),
      (encode a bs).map (fun c => (Alphabet.value? .urlSafe c).or (Alphabet.value? .standard c))
        = (sextets bs).map some := fun a bs => by
    rw [encode, List.map_map]
    exact List.map_congr_left fun n hn => value?_or_value?_char a n (lt_of_mem_sextets bs n hn)
  have hsextets : sextets bs = sextets bs' := by
    refine List.map_inj_right (fun _ _ => Option.some.inj) |>.mp ?_
    rw [← hvalues a, ← hvalues b, h]
  exact Option.some.inj (by rw [← bytes?_sextets bs, ← bytes?_sextets bs', hsextets])

lemma padding_not_mem_encode (a : Alphabet) (bs : List UInt8) : '=' ∉ encode a bs := by
  intro h
  obtain ⟨n, hn, heq⟩ := List.mem_map.mp h
  exact char_ne_padding a n (lt_of_mem_sextets bs n hn) heq

/-- Only equals signs are stripped, and all that stand at the end. -/
lemma stripPadding_append_replicate (a : Alphabet) (bs : List UInt8) (n : ℕ) :
    stripPadding (encode a bs ++ List.replicate n '=') = encode a bs := by
  have hkeep : ((encode a bs).reverse.dropWhile (· = '=')) = (encode a bs).reverse := by
    rw [List.dropWhile_eq_self_iff]
    intro hlen heq
    have hmem := List.mem_reverse.mp (List.getElem_mem hlen)
    rw [of_decide_eq_true heq] at hmem
    exact padding_not_mem_encode a bs hmem
  rw [stripPadding, List.reverse_append, List.reverse_replicate,
    List.dropWhile_append_of_pos (by simp), hkeep, List.reverse_reverse]

lemma stripPadding_encodePadded (a : Alphabet) (bs : List UInt8) :
    stripPadding (encodePadded a bs) = encode a bs :=
  stripPadding_append_replicate a bs _

lemma decodePadded?_eq_some_iff {a : Alphabet} {cs : List Char} {bs : List UInt8} :
    decodePadded? a cs = some bs ↔ cs = encodePadded a bs := by
  rw [decodePadded?, Option.ite_none_right_eq_some, decode?_eq_some_iff]
  constructor
  · rintro ⟨hcs, hstrip⟩
    rw [hstrip] at hcs
    exact hcs
  · rintro rfl
    rw [stripPadding_encodePadded]
    exact ⟨rfl, rfl⟩

lemma encodePadded_inj {a b : Alphabet} {bs bs' : List UInt8}
    (h : encodePadded a bs = encodePadded b bs') : bs = bs' := by
  refine encode_inj (a := a) (b := b) ?_
  rw [← stripPadding_encodePadded, h, stripPadding_encodePadded]

lemma isBlank_of_mem_encodePadded {a : Alphabet} {bs : List UInt8} {c : Char}
    (h : c ∈ encodePadded a bs) : isBlank c = false := by
  rcases List.mem_append.mp h with h | h
  · obtain ⟨n, hn, rfl⟩ := List.mem_map.mp h
    exact isBlank_char a n (lt_of_mem_sextets bs n hn)
  · rw [List.eq_of_mem_replicate h]
    rfl

/-- What is stripped are equals signs. -/
lemma exists_eq_stripPadding (cs : List Char) :
    ∃ n, cs = stripPadding cs ++ List.replicate n '=' := by
  have hsigns : ∀ c ∈ cs.reverse.takeWhile (· = '='), c = '=' := fun c hc => by
    simpa using List.mem_takeWhile_imp hc
  refine ⟨(cs.reverse.takeWhile (· = '=')).length, ?_⟩
  calc cs = (cs.reverse.takeWhile (· = '=') ++ cs.reverse.dropWhile (· = '=')).reverse := by
        rw [List.takeWhile_append_dropWhile, List.reverse_reverse]
    _ = stripPadding cs ++ List.replicate _ '=' := by
        rw [List.reverse_append, List.eq_replicate_of_mem hsigns, List.reverse_replicate,
          List.length_replicate, stripPadding]

/-- Whatever its padding, the text is read that encodes the bytes. -/
lemma decode?_stripPadding_eq_some_iff {a : Alphabet} {cs : List Char} {bs : List UInt8} :
    decode? a (stripPadding cs) = some bs
      ↔ ∃ n, cs = encode a bs ++ List.replicate n '=' := by
  rw [decode?_eq_some_iff]
  constructor
  · intro h
    obtain ⟨n, hn⟩ := exists_eq_stripPadding cs
    exact ⟨n, h ▸ hn⟩
  · rintro ⟨n, rfl⟩
    exact stripPadding_append_replicate a bs n

/-! ### Texts of 256 bits -/

lemma length_sextets (bs : List UInt8) : (sextets bs).length = (4 * bs.length + 2) / 3 := by
  fun_induction sextets bs with
  | case1 | case2 | case3 => simp
  | case4 a b c rest ih =>
    simp only [List.length_cons, ih]
    omega

/-- A last group of three stands for two bytes, and for two more bits that must be zero. -/
lemma exists_bytes?_iff : ∀ {ns : List ℕ}, ns.length % 4 = 2 → ∀ n,
    (∃ bs, bytes? (ns ++ [n]) = some bs) ↔ n % 4 = 0
  | [p, q], _, n => by simp [bytes?]
  | p :: q :: r :: s :: rest, h, n => by
    have hlength : rest.length % 4 = 2 := by
      simp only [List.length_cons] at h
      omega
    simp only [List.cons_append, bytes?, Option.map_eq_some_iff, ← exists_bytes?_iff hlength n]
    exact ⟨fun ⟨_, bs, hbs, _⟩ => ⟨bs, hbs⟩, fun ⟨bs, hbs⟩ => ⟨_, bs, hbs, rfl⟩⟩

lemma exists_mapM_value? {a : Alphabet} {cs : List Char} (h : ∀ c ∈ cs, (a.value? c).isSome) :
    ∃ ns, cs.mapM a.value? = some ns := by
  induction cs with
  | nil => exact ⟨[], rfl⟩
  | cons c cs ih =>
    obtain ⟨hc, hcs⟩ := List.forall_mem_cons.mp h
    obtain ⟨n, hn⟩ := Option.isSome_iff_exists.mp hc
    obtain ⟨ns, hns⟩ := ih hcs
    exact ⟨n :: ns, by rw [List.mapM_cons, hn, hns]; rfl⟩

/-- The text is of 43 characters of the alphabet, the last of which stands for no more than four
bits, and an equals sign. -/
def Has256Bits (a : Alphabet) (cs : List Char) : Prop :=
  ∃ (digits : List Char) (last : Char) (n : ℕ), cs = digits ++ [last, '='] ∧ digits.length = 42
    ∧ (∀ c ∈ digits, (a.value? c).isSome) ∧ a.value? last = some n ∧ n % 4 = 0

lemma encodePadded_of_length {a : Alphabet} {bs : List UInt8} (h : bs.length = 32) :
    encodePadded a bs = encode a bs ++ ['='] := by
  have hlength : (encode a bs).length = 43 := by simp [encode, length_sextets, h]
  rw [encodePadded, hlength]
  rfl

lemma has256Bits_encodePadded (a : Alphabet) {bs : List UInt8} (h : bs.length = 32) :
    Has256Bits a (encodePadded a bs) := by
  have hlength : (sextets bs).length = 43 := by rw [length_sextets, h]
  obtain ⟨ns, n, hns⟩ := (List.eq_nil_or_concat (sextets bs)).resolve_left
    (List.ne_nil_of_length_pos (by omega))
  rw [List.concat_eq_append] at hns
  rw [hns, List.length_append, List.length_singleton] at hlength
  have hlt := lt_of_mem_sextets bs
  rw [hns] at hlt
  refine ⟨ns.map a.char, a.char n, n, ?_, by simpa using hlength, fun c hc => ?_,
    value?_char a n (hlt n (by simp)), ?_⟩
  · rw [encodePadded_of_length h, encode, hns]
    simp
  · obtain ⟨m, hm, rfl⟩ := List.mem_map.mp hc
    rw [value?_char a m (hlt m (List.mem_append_left _ hm))]
    rfl
  · exact (exists_bytes?_iff (by omega) n).mp ⟨bs, hns ▸ bytes?_sextets bs⟩

/-- **Texts of 256 bits**, and no others, are what 32 bytes are written as. -/
theorem exists_encodePadded_iff {a : Alphabet} {cs : List Char} :
    (∃ bs : List UInt8, bs.length = 32 ∧ cs = encodePadded a bs) ↔ Has256Bits a cs := by
  constructor
  · rintro ⟨bs, hbs, rfl⟩
    exact has256Bits_encodePadded a hbs
  · rintro ⟨digits, last, n, rfl, hlength, hdigits, hlast, hn⟩
    obtain ⟨ns, hns⟩ := exists_mapM_value? hdigits
    have hcount : ns.length = 42 := by
      rw [← List.length_map (f := a.char), (map_char_of_mapM hns).2, hlength]
    obtain ⟨bs, hbs⟩ := (exists_bytes?_iff (by rw [hcount]) n).mpr hn
    have hdecode : decode? a (digits ++ [last]) = some bs := by
      simp [decode?, List.mapM_append, hns, hlast, hbs]
    have hencode : digits ++ [last] = encode a bs := decode?_eq_some_iff.mp hdecode
    have hbytes : bs.length = 32 := by
      have h := congrArg List.length hencode
      simp only [List.length_append, List.length_singleton, hlength, encode, List.length_map,
        length_sextets] at h
      omega
    refine ⟨bs, hbytes, ?_⟩
    rw [encodePadded_of_length hbytes, ← hencode, List.append_assoc, List.singleton_append]

/-! ### From one alphabet to the other -/

/-- The character of the other alphabet for the same bits. -/
def toUrlSafe (c : Char) : Char := if c = '+' then '-' else if c = '/' then '_' else c

lemma toUrlSafe_char (a : Alphabet) : ∀ n < 64, toUrlSafe (a.char n) = Alphabet.urlSafe.char n := by
  cases a <;> decide +kernel

lemma map_toUrlSafe_encodePadded (a : Alphabet) (bs : List UInt8) :
    (encodePadded a bs).map toUrlSafe = encodePadded .urlSafe bs := by
  have hencode : (encode a bs).map toUrlSafe = encode .urlSafe bs := by
    rw [encode, List.map_map]
    exact List.map_congr_left fun n hn => toUrlSafe_char a n (lt_of_mem_sextets bs n hn)
  have hlength : (encode a bs).length = (encode .urlSafe bs).length := by simp [encode]
  simp [encodePadded, hencode, hlength, padding, toUrlSafe]

end Catalog.Text.Base64
