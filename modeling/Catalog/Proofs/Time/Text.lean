import Mathlib.Data.List.TakeWhile
import Mathlib.Data.Nat.Digits.Defs
import Catalog.Proofs.Text.Class
import Catalog.Proofs.Text.Integer
import Catalog.Proofs.Time.Calendar
import Catalog.Time.Text

/-!
A time is read back from its text, and every time that is read is one that can be written.
-/

namespace Catalog.Time

open Catalog.Text

/-- The day is one of the calendar, and a leap second ends a minute. -/
structure IsValid (t : Time) : Prop where
  date : t.date.isValid = true
  nanos : t.nanos < 2 * nanosPerSecond
  leap : nanosPerSecond ≤ t.nanos → t.seconds % 60 = 59

/-! ### Digits -/

lemma trimStart_of_isDigit {c : Char} (h : c.isDigit = true) (cs : List Char) :
    trimStart (c :: cs) = c :: cs :=
  List.dropWhile_cons_of_neg (by simp [isBlank_of_isDigit h])

lemma toList_repr (n : ℕ) : (Nat.repr n).toList = Nat.toDigits 10 n := by
  rw [Nat.repr_eq_ofList_toDigits, String.toList_ofList]

lemma isDigit_padded {width n : ℕ} {c : Char} (h : c ∈ padded width n) : c.isDigit = true := by
  rw [padded, toList_repr] at h
  rcases List.mem_append.mp h with h | h
  · rw [List.eq_of_mem_replicate h]
    decide
  · exact isDigit_toDigits h

lemma padded_ne_nil (width n : ℕ) : padded width n ≠ [] := by
  simp [padded, Nat.toDigits_ne_nil]

lemma length_padded {width n : ℕ} (hwidth : 0 < width) (h : n < 10 ^ width) :
    (padded width n).length = width := by
  have hlength := Nat.toDigits_length 10 n width hwidth h
  rw [padded, toList_repr, List.length_append, List.length_replicate]
  omega

lemma ofDigitChars_padded (width n : ℕ) : Nat.ofDigitChars 10 (padded width n) 0 = n := by
  rw [padded, toList_repr, Nat.ofDigitChars_append, Nat.ofDigitChars_replicate_zero, Nat.mul_zero,
    Nat.ofDigitChars_ten_toDigits]

/-- No digit comes next. -/
def EndsNumber (cs : List Char) : Prop := ∀ c ∈ cs.head?, c.isDigit = false

lemma takeWhile_digits {ds rest : List Char} {max : ℕ} (hds : ∀ c ∈ ds, c.isDigit = true)
    (hlength : ds.length ≤ max) (hend : ds.length = max ∨ EndsNumber rest) :
    ((ds ++ rest).take max).takeWhile Char.isDigit = ds := by
  have hrest : (rest.take (max - ds.length)).takeWhile Char.isDigit = [] := by
    rcases hend with hend | hend
    · simp [hend]
    · cases rest with
      | nil => simp
      | cons c cs =>
        have hc : c.isDigit = false := hend c rfl
        cases max - ds.length <;> simp [hc]
  rw [List.take_append, List.take_of_length_le hlength, List.takeWhile_append_of_pos hds, hrest,
    List.append_nil]

/-- A number is read back from its digits. -/
lemma readNumber?_append {ds rest : List Char} {max : ℕ} (hne : ds ≠ [])
    (hds : ∀ c ∈ ds, c.isDigit = true) (hlength : ds.length ≤ max)
    (hend : ds.length = max ∨ EndsNumber rest) :
    readNumber? max (ds ++ rest) = some (Nat.ofDigitChars 10 ds 0, rest) := by
  simp only [readNumber?, takeWhile_digits hds hlength hend, List.isEmpty_eq_false_iff.mpr hne,
    Bool.false_eq_true, if_false, List.drop_left]

lemma trimStart_padded (width n : ℕ) (rest : List Char) :
    trimStart (padded width n ++ rest) = padded width n ++ rest := by
  obtain ⟨c, cs, hc⟩ := List.exists_cons_of_ne_nil (padded_ne_nil width n)
  have hdigit : c.isDigit = true := isDigit_padded (by rw [hc]; exact List.mem_cons_self)
  rw [hc, List.cons_append, trimStart_of_isDigit hdigit]

lemma readNumber?_padded {width n : ℕ} (hwidth : 0 < width) (h : n < 10 ^ width)
    (rest : List Char) : readNumber? width (padded width n ++ rest) = some (n, rest) := by
  have hlength := length_padded hwidth h
  rw [readNumber?_append (padded_ne_nil width n) (fun c hc => isDigit_padded hc) hlength.le
    (.inl hlength), ofDigitChars_padded]

/-! ### Parts -/

lemma readPart?_padded {low high n : ℕ} (hlow : low ≤ n) (hhigh : n ≤ high) (h : n < 100)
    (rest : List Char) : readPart? low high (padded 2 n ++ rest) = some (n, rest) := by
  rw [readPart?, trimStart_padded, readNumber?_padded (by decide) h, Option.filter_some, if_pos]
  simpa using ⟨hlow, hhigh⟩

lemma readMark?_cons {mark : Char} (h : isBlank mark = false) (cs : List Char) :
    readMark? mark (mark :: cs) = some cs := by
  have htrim : trimStart (mark :: cs) = mark :: cs := List.dropWhile_cons_of_neg (by simp [h])
  rw [readMark?, htrim]
  exact if_pos rfl

lemma readYear?_render (year : Int) (cs : List Char) :
    readYear? (renderYear year ++ '-' :: cs) = some (year, '-' :: cs) := by
  have hend : EndsNumber ('-' :: cs) := by simp [EndsNumber]
  -- behind a sign, all digits are the year's
  have hsigned : readNumber? (padded 4 year.natAbs ++ '-' :: cs).length
      (padded 4 year.natAbs ++ '-' :: cs) = some (year.natAbs, '-' :: cs) := by
    rw [readNumber?_append (padded_ne_nil _ _) (fun c hc => isDigit_padded hc)
      (by rw [List.length_append]; exact Nat.le_add_right _ _) (.inr hend), ofDigitChars_padded]
  unfold renderYear
  split
  · rename_i hrange
    simp only [Bool.and_eq_true, decide_eq_true_eq] at hrange
    obtain ⟨c, ds, hc⟩ := List.exists_cons_of_ne_nil (padded_ne_nil 4 year.toNat)
    have hdigit : c.isDigit = true := isDigit_padded (by rw [hc]; exact List.mem_cons_self)
    rw [readYear?, trimStart_padded, hc, List.cons_append]
    split
    · rename_i heq
      exact absurd ((List.cons.inj heq).1 ▸ hdigit) (by decide)
    · rename_i heq
      exact absurd ((List.cons.inj heq).1 ▸ hdigit) (by decide)
    · rw [← List.cons_append, ← hc, readNumber?_padded (by decide) (by omega)]
      simp only [Option.map_some, Option.some.injEq, Prod.mk.injEq, and_true]
      omega
  · rename_i hrange
    simp only [Bool.and_eq_true, decide_eq_true_eq, not_and_or, not_le] at hrange
    rw [List.cons_append]
    rcases lt_or_ge year 0 with hneg | hpos
    · have htrim : trimStart ('-' :: (padded 4 year.natAbs ++ '-' :: cs))
          = '-' :: (padded 4 year.natAbs ++ '-' :: cs) := rfl
      simp only [if_pos hneg, readYear?, htrim, hsigned, Option.map_some, Option.some.injEq,
        Prod.mk.injEq, and_true]
      omega
    · have htrim : trimStart ('+' :: (padded 4 year.natAbs ++ '-' :: cs))
          = '+' :: (padded 4 year.natAbs ++ '-' :: cs) := rfl
      simp only [if_neg (not_lt.mpr hpos), readYear?, htrim, hsigned, Option.map_some,
        Option.some.injEq, Prod.mk.injEq, and_true]
      omega

lemma readDate?_render {d : Date} (h : d.isValid = true) (cs : List Char) :
    readDate? (renderYear d.year ++ '-' :: padded 2 d.month ++ '-' :: padded 2 d.day ++ 'T' :: cs)
      = some (d, 'T' :: cs) := by
  have hparts := h
  simp only [Date.isValid, Bool.and_eq_true, decide_eq_true_eq] at hparts
  obtain ⟨⟨⟨⟨⟨-, -⟩, hmonth⟩, hmonth'⟩, hday⟩, hday'⟩ := hparts
  have hlength : d.day ≤ 31 := hday'.trans (by unfold Date.monthLength; split_ifs <;> decide)
  simp only [List.append_assoc, List.cons_append, readDate?, readYear?_render,
    readMark?_cons (show isBlank '-' = false by decide), readPart?_padded hmonth hmonth' (by omega),
    readPart?_padded hday hlength (by omega), Option.bind_eq_bind, Option.bind_some, h, if_true]
  rfl

/-- A fraction is read back, however many digits show it. -/
lemma readFraction?_digits {width n : ℕ} (hwidth : 0 < width) (hle : width ≤ 9)
    (h : n < 10 ^ width) :
    readFraction? ('.' :: padded width n ++ ['Z']) = some (n * 10 ^ (9 - width), ['Z']) := by
  have hdigits : ∀ c ∈ padded width n, c.isDigit = true := fun c hc => isDigit_padded hc
  have hlength := length_padded hwidth h
  have hend : EndsNumber ['Z'] := by simp [EndsNumber]
  have hdrop : (padded width n ++ ['Z']).dropWhile Char.isDigit = ['Z'] := by
    rw [List.dropWhile_append_of_pos hdigits]
    rfl
  simp only [List.cons_append, readFraction?,
    readNumber?_append (padded_ne_nil width n) hdigits (hlength.le.trans hle) (.inr hend),
    takeWhile_digits hdigits (hlength.le.trans hle) (.inr hend), ofDigitChars_padded, hlength,
    hdrop, Option.bind_eq_bind, Option.bind_some]
  rfl

lemma readFraction?_render {n : ℕ} (h : n < nanosPerSecond) :
    readFraction? (renderFraction n ++ ['Z']) = some (n, ['Z']) := by
  rw [nanosPerSecond] at h
  unfold renderFraction
  split
  · rename_i hzero
    rw [hzero]
    rfl
  · split
    · rw [readFraction?_digits (by decide) (by decide) (by omega)]
      congr 2
      omega
    · split
      · rw [readFraction?_digits (by decide) (by decide) (by omega)]
        congr 2
        omega
      · rw [readFraction?_digits (by decide) (by decide) (by omega)]
        rw [Nat.sub_self, Nat.pow_zero, Nat.mul_one]

/-- The second of a clock that may show a sixtieth one. -/
lemma readClock?_render {hour minute second nanos : ℕ} (hhour : hour ≤ 23) (hminute : minute ≤ 59)
    (hsecond : second ≤ 60) (hnanos : nanos < nanosPerSecond) :
    readClock? (padded 2 hour ++ ':' :: padded 2 minute ++ ':' :: padded 2 second
        ++ renderFraction nanos ++ ['Z'])
      = some (if second = 60 then (hour * 3600 + minute * 60 + 59, nanosPerSecond + nanos, ['Z'])
          else (hour * 3600 + minute * 60 + second, nanos, ['Z'])) := by
  simp only [List.append_assoc, List.cons_append, readClock?,
    readMark?_cons (show isBlank ':' = false by decide),
    readPart?_padded (Nat.zero_le _) hhour (by omega),
    readPart?_padded (Nat.zero_le _) hminute (by omega),
    readPart?_padded (Nat.zero_le _) hsecond (by omega), readFraction?_render hnanos,
    Option.bind_eq_bind, Option.bind_some]
  split <;> rfl

/-! ### Times -/

/-- The seconds of a day, as a clock shows them. -/
lemma secondOfDay_lt (t : Time) : t.secondOfDay < 86400 := by
  rw [secondOfDay, secondsPerDay]
  omega

lemma seconds_eq (t : Time) : t.seconds = t.date.toDays * secondsPerDay + t.secondOfDay := by
  have hday : t.date.toDays = t.seconds / secondsPerDay := Date.toDays_ofDays _
  rw [hday, secondOfDay, secondsPerDay]
  omega

lemma Date.toDays_lt {d : Date} (h : d.isValid = true) : d.toDays < 2 ^ 40 := by
  simp only [isValid, Bool.and_eq_true, decide_eq_true_eq] at h
  obtain ⟨⟨⟨⟨⟨-, hyear⟩, -⟩, hmonth⟩, -⟩, hday⟩ := h
  rw [maxYear] at hyear
  have hlength : monthLength d.year d.month ≤ 31 := by
    unfold monthLength
    split_ifs <;> omega
  unfold toDays
  dsimp only
  split_ifs <;> omega

/-- The seconds of a valid time fit into eight bytes. -/
lemma IsValid.unixSeconds_lt {t : Time} (h : t.IsValid) : t.unixSeconds < 2 ^ 64 := by
  have hdays := Date.toDays_lt h.date
  have hseconds := seconds_eq t
  have hclock := secondOfDay_lt t
  rw [secondsPerDay] at hseconds
  rw [unixSeconds]
  omega

/-- What a clock reads is the second of the day, or the one that the leap second has the number
of, and the nanoseconds. -/
lemma readClock?_of_isValid {t : Time} (h : t.IsValid) :
    readClock? (padded 2 (t.secondOfDay / 3600) ++ ':' :: padded 2 (t.secondOfDay / 60 % 60)
        ++ ':' :: padded 2 (t.secondOfDay % 60 + t.nanos / nanosPerSecond)
        ++ renderFraction (t.nanos % nanosPerSecond) ++ ['Z'])
      = some (t.secondOfDay, t.nanos, ['Z']) := by
  have hbounds := t.secondOfDay_lt
  have hnanos := h.nanos
  have hleap : nanosPerSecond ≤ t.nanos → t.secondOfDay % 60 = 59 := by
    intro hle
    have := h.leap hle
    rw [secondOfDay, secondsPerDay]
    omega
  rw [readClock?_render (by omega) (by omega) (by rw [nanosPerSecond] at *; omega)
    (Nat.mod_lt _ (by decide))]
  rw [nanosPerSecond] at *
  split
  · have hparts : t.secondOfDay / 3600 * 3600 + t.secondOfDay / 60 % 60 * 60 + 59 = t.secondOfDay
        ∧ 1000000000 + t.nanos % 1000000000 = t.nanos := by omega
    rw [hparts.1, hparts.2]
  · have hparts : t.secondOfDay / 3600 * 3600 + t.secondOfDay / 60 % 60 * 60
          + (t.secondOfDay % 60 + t.nanos / 1000000000) = t.secondOfDay
        ∧ t.nanos % 1000000000 = t.nanos := by omega
    rw [hparts.1, hparts.2]

/-- **A time is read back** from its text. -/
theorem read?_render {t : Time} (h : t.IsValid) : read? t.render = some t := by
  have htext : t.render.toList = renderYear t.date.year ++ '-' :: padded 2 t.date.month
      ++ '-' :: padded 2 t.date.day ++ 'T' :: (padded 2 (t.secondOfDay / 3600)
        ++ ':' :: padded 2 (t.secondOfDay / 60 % 60)
        ++ ':' :: padded 2 (t.secondOfDay % 60 + t.nanos / nanosPerSecond)
        ++ renderFraction (t.nanos % nanosPerSecond) ++ ['Z']) := by
    simp [render]
  have hoffset : readOffset? (trimStart ['Z']) = some (0, []) := by decide
  have hseconds : t.date.toDays * secondsPerDay + t.secondOfDay - 0 = t.seconds := by
    rw [sub_zero, ← seconds_eq]
  simp only [read?, htext, readDate?_render h.date, readClock?_of_isValid h, hoffset,
    Option.bind_eq_bind, Option.bind_some, hseconds]
  rw [if_pos ⟨by decide, rfl, h.date⟩]
  rfl

/-! ### Times that are read -/

lemma ofDigitChars_lt {ds : List Char} (h : ∀ c ∈ ds, c.isDigit = true) :
    Nat.ofDigitChars 10 ds 0 < 10 ^ ds.length := by
  induction ds with
  | nil => simp
  | cons c ds ih =>
    have hc : c.toNat - '0'.toNat ≤ 9 := by
      have hdigit := h c List.mem_cons_self
      obtain ⟨-, hhigh⟩ : 48 ≤ c.toNat ∧ c.toNat ≤ 57 := by
        simpa [Char.isDigit, UInt32.le_iff_toNat_le] using hdigit
      have hzero : '0'.toNat = 48 := rfl
      omega
    have hds := ih fun c hc => h c (List.mem_cons_of_mem _ hc)
    rw [Nat.ofDigitChars_cons, Nat.ofDigitChars_eq_ofDigitChars_zero, Nat.mul_zero, Nat.zero_add,
      List.length_cons, Nat.pow_succ]
    calc 10 ^ ds.length * (c.toNat - '0'.toNat) + Nat.ofDigitChars 10 ds 0
        < 10 ^ ds.length * 9 + 10 ^ ds.length :=
          Nat.add_lt_add_of_le_of_lt (Nat.mul_le_mul_left _ hc) hds
      _ = 10 ^ ds.length * 10 := by ring

lemma readFraction?_lt {cs rest : List Char} {n : ℕ} (h : readFraction? cs = some (n, rest)) :
    n < nanosPerSecond := by
  unfold readFraction? at h
  split at h
  · rename_i cs'
    simp only [Option.bind_eq_bind, Option.bind_eq_some_iff, Prod.exists, Option.pure_def,
      Option.some.injEq, Prod.mk.injEq] at h
    obtain ⟨m, rest', hm, rfl, -⟩ := h
    obtain ⟨ds, hds⟩ : ∃ ds, ds = (cs'.take 9).takeWhile Char.isDigit := ⟨_, rfl⟩
    have hlength : ds.length ≤ 9 := by
      rw [hds]
      exact ((List.takeWhile_sublist _).length_le).trans (List.length_take_le _ _)
    have hlt : Nat.ofDigitChars 10 ds 0 < 10 ^ ds.length :=
      ofDigitChars_lt fun c hc => List.mem_takeWhile_imp (hds ▸ hc)
    simp only [readNumber?, ← hds] at hm
    split at hm
    · simp at hm
    · obtain ⟨rfl, -⟩ := Prod.mk.inj (Option.some.inj hm)
      rw [← hds]
      calc Nat.ofDigitChars 10 ds 0 * Nat.pow 10 (9 - ds.length)
          < 10 ^ ds.length * 10 ^ (9 - ds.length) :=
            Nat.mul_lt_mul_of_pos_right hlt (Nat.pow_pos (by decide))
        _ = nanosPerSecond := by rw [← Nat.pow_add, Nat.add_sub_cancel' hlength]; rfl
  · obtain ⟨rfl, -⟩ := Prod.mk.inj (Option.some.inj h)
    decide

/-- A clock shows a leap second only at the end of a minute. -/
lemma readClock?_leap {cs rest : List Char} {second nanos : ℕ}
    (h : readClock? cs = some (second, nanos, rest)) :
    nanos < 2 * nanosPerSecond ∧ (nanosPerSecond ≤ nanos → second % 60 = 59) := by
  simp only [readClock?, Option.bind_eq_bind, Option.bind_eq_some_iff, Prod.exists] at h
  obtain ⟨hour, _, -, _, -, minute, _, -, _, -, shown, _, -, fraction, _, hfraction, h⟩ := h
  have hlt := readFraction?_lt hfraction
  split at h
  · obtain ⟨rfl, hrest⟩ := Prod.mk.inj (Option.some.inj h)
    obtain ⟨rfl, -⟩ := Prod.mk.inj hrest
    omega
  · obtain ⟨-, hrest⟩ := Prod.mk.inj (Option.some.inj h)
    obtain ⟨rfl, -⟩ := Prod.mk.inj hrest
    omega

lemma readOffsetSize?_mod {cs rest : List Char} {n : ℕ} (h : readOffsetSize? cs = some (n, rest)) :
    n % 60 = 0 := by
  unfold readOffsetSize? at h
  split at h
  · split at h
    · split at h
      · obtain ⟨rfl, -⟩ := Prod.mk.inj (Option.some.inj h)
        omega
      · simp at h
    · simp at h
  · simp at h

/-- Offsets are whole minutes. -/
lemma readOffset?_mod {cs rest : List Char} {n : Int} (h : readOffset? cs = some (n, rest)) :
    n % 60 = 0 := by
  have hsize : ∀ {cs' : List Char} (f : ℕ → Int), (∀ m, m % 60 = 0 → f m % 60 = 0) →
      (readOffsetSize? cs').map (fun read => (f read.1, read.2)) = some (n, rest) → n % 60 = 0 := by
    intro cs' f hf hmap
    obtain ⟨⟨m, r⟩, hm, heq⟩ := Option.map_eq_some_iff.mp hmap
    obtain ⟨rfl, -⟩ := Prod.mk.inj heq
    exact hf m (readOffsetSize?_mod hm)
  unfold readOffset? at h
  split at h
  · obtain ⟨rfl, -⟩ := Prod.mk.inj (Option.some.inj h)
    rfl
  · split at h
    · obtain ⟨rfl, -⟩ := Prod.mk.inj (Option.some.inj h)
      rfl
    · obtain ⟨rfl, -⟩ := Prod.mk.inj (Option.some.inj h)
      rfl
    · exact hsize (fun m => (m : Int)) (fun m hm => by omega) h
    · exact hsize (fun m => -(m : Int)) (fun m hm => by omega) h
    · exact hsize (fun m => -(m : Int)) (fun m hm => by omega) h
    · simp at h

/-- Every time that is read can be written. -/
theorem isValid_of_read? {s : String} {t : Time} (h : read? s = some t) : t.IsValid := by
  obtain ⟨⟨date, cs⟩, -, h⟩ := Option.bind_eq_some_iff.mp h
  simp only at h
  split at h
  case h_4 => simp at h
  all_goals
    obtain ⟨⟨second, nanos, cs'⟩, hclock, h⟩ := Option.bind_eq_some_iff.mp h
    obtain ⟨⟨offset, cs''⟩, hoffset, h⟩ := Option.bind_eq_some_iff.mp h
    obtain ⟨hnanos, hleap⟩ := readClock?_leap hclock
    have hmod := readOffset?_mod hoffset
    split at h
    · rename_i hvalid
      obtain rfl := Option.some.inj h
      refine ⟨hvalid.2.2, hnanos, fun hle => ?_⟩
      have hsecond := hleap hle
      simp only [secondsPerDay]
      omega
    · simp at h

end Catalog.Time
