import Mathlib.Algebra.Order.Ring.Rat
import Mathlib.Tactic.FieldSimp
import Mathlib.Tactic.Ring
import Catalog.Number.Reading
import Catalog.Proofs.Text.Integer
import Catalog.Sql.Term

/-!
JSON documents as a database holds them: what is found at a path, which text it has, and that the
text of a number is read back as the number.
-/

namespace Catalog.Sql

open Catalog.Number Catalog.Text

/-- A number with a fixed count of decimal places, of which it counts the last ones. -/
structure Numeric where
  units : ℤ
  places : ℕ
  deriving DecidableEq

def Numeric.value (n : Numeric) : ℚ := n.units / 10 ^ n.places

/-- Digits with all of the places, and a point before them if there are any. -/
def Numeric.digits (n : Numeric) : List Char :=
  let whole := Nat.toDigits 10 (n.units.natAbs / 10 ^ n.places)
  let rest := Nat.toDigits 10 (n.units.natAbs % 10 ^ n.places)
  if n.places = 0 then whole
  else whole ++ '.' :: (List.replicate (n.places - rest.length) '0' ++ rest)

def Numeric.text (n : Numeric) : List Char :=
  if n.units < 0 then '-' :: n.digits else n.digits

inductive Document
  | null
  | bool (b : Bool)
  | number (n : Numeric)
  | string (s : String)
  | array (elements : List Document)
  | object (members : List (String × Document))

namespace Document

/-- The member of an object, and nothing where there is no object or no such member. -/
def member? (d : Document) (name : String) : Option Document :=
  match d with
  | object members => (members.find? (·.1 = name)).map (·.2)
  | _ => none

/-- The element of an array, from its end if the position is negative. -/
def element? (d : Document) (i : ℤ) : Option Document :=
  match d with
  | array elements =>
    if 0 ≤ i then elements[i.toNat]?
    else if -i ≤ elements.length then elements[(elements.length + i).toNat]?
    else none
  | _ => none

def step? (d : Document) : Step → Option Document
  | .key name => d.member? name
  | .position i => d.element? i.toInt

/-- The value at a path. -/
def value? (d : Document) : Path → Option Document
  | .root s => d.step? s
  | .child p s => (d.value? p).bind (·.step? s)

/-- The kind of a value by name. -/
def kind : Document → String
  | null => "null"
  | bool _ => "boolean"
  | number _ => "number"
  | string _ => "string"
  | array _ => "array"
  | object _ => "object"

/-- The text of a value, where arrays and objects have the texts that `shown` says. Null has no
text. -/
def text? (shown : Document → String) : Document → Option String
  | null => none
  | bool b => some (if b then "true" else "false")
  | number n => some (String.ofList n.text)
  | string s => some s
  | d => some (shown d)

def number? : Document → Option ℚ
  | number n => some n.value
  | _ => none

end Document

/-! ### Numbers as text -/

/-- The number that a text without a sign stands for: digits, maybe with a point and a power of
ten. -/
def readDecimal? (cs : List Char) : Option ℚ :=
  let (whole, rest) := digitsOf cs
  let (fraction, rest) := match rest with
    | '.' :: more => digitsOf more
    | _ => ([], rest)
  if whole.isEmpty && fraction.isEmpty then none
  else (readScale? rest).map fun scale : ℤ =>
    Nat.ofDigitChars 10 (whole ++ fraction) 0 * (10 : ℚ) ^ (scale - fraction.length)

def readNumeric? : List Char → Option ℚ
  | '-' :: cs => (readDecimal? cs).map (- ·)
  | '+' :: cs => readDecimal? cs
  | cs => readDecimal? cs

lemma digitsOf_append {ds rest : List Char} (hds : ∀ c ∈ ds, c.isDigit)
    (hrest : ∀ c ∈ rest.head?, c.isDigit = false) : digitsOf (ds ++ rest) = (ds, rest) := by
  have htake : rest.takeWhile Char.isDigit = [] := by
    cases rest with
    | nil => rfl
    | cons c rest => simp [hrest c rfl]
  have hdrop : rest.dropWhile Char.isDigit = rest := by
    cases rest with
    | nil => rfl
    | cons c rest => simp [hrest c rfl]
  rw [digitsOf, List.takeWhile_append_of_pos hds, List.dropWhile_append_of_pos hds, htake, hdrop,
    List.append_nil]

lemma digitsOf_of_forall {ds : List Char} (h : ∀ c ∈ ds, c.isDigit) : digitsOf ds = (ds, []) := by
  have happend : digitsOf (ds ++ []) = (ds, []) := digitsOf_append h (by simp)
  rwa [List.append_nil] at happend

/-- A whole number is read back. -/
lemma readDecimal?_toDigits (n : ℕ) : readDecimal? (Nat.toDigits 10 n) = some (n : ℚ) := by
  have hread : digitsOf (Nat.toDigits 10 n) = (Nat.toDigits 10 n, []) :=
    digitsOf_of_forall fun c => isDigit_toDigits
  simp [readDecimal?, hread, readScale?]

/-- The digits of a fraction, with zeros in front of them. -/
lemma ofDigitChars_padded (whole : ℕ) {rest places : ℕ} (hplaces : 0 < places)
    (h : rest < 10 ^ places) :
    let digits := Nat.toDigits 10 rest
    let fraction := List.replicate (places - digits.length) '0' ++ digits
    fraction.length = places ∧
      Nat.ofDigitChars 10 (Nat.toDigits 10 whole ++ fraction) 0 = whole * 10 ^ places + rest := by
  intro digits fraction
  have hlen : digits.length ≤ places :=
    (Nat.length_toDigits_le_iff (by decide) hplaces).mpr h
  have hfraction : fraction.length = places := by
    simp only [fraction, List.length_append, List.length_replicate]
    omega
  refine ⟨hfraction, ?_⟩
  rw [Nat.ofDigitChars_append, Nat.ofDigitChars_ten_toDigits, Nat.ofDigitChars_eq_ofDigitChars_zero,
    hfraction, Nat.ofDigitChars_append, Nat.ofDigitChars_replicate_zero, Nat.mul_zero,
    Nat.ofDigitChars_ten_toDigits, Nat.mul_comm]

lemma readDecimal?_digits (n : Numeric) :
    readDecimal? n.digits = some ((n.units.natAbs : ℚ) / 10 ^ n.places) := by
  obtain ⟨units, places⟩ := n
  generalize hm : units.natAbs = m
  by_cases hzero : places = 0
  · subst hzero
    simp [Numeric.digits, hm, readDecimal?_toDigits]
  · have hlt : m % 10 ^ places < 10 ^ places := Nat.mod_lt _ (Nat.pow_pos (by decide))
    obtain ⟨hlen, hvalue⟩ :=
      ofDigitChars_padded (m / 10 ^ places) (Nat.pos_of_ne_zero hzero) hlt
    simp only [Numeric.digits, hm, if_neg hzero]
    generalize hfraction : List.replicate (places - (Nat.toDigits 10 (m % 10 ^ places)).length) '0'
      ++ Nat.toDigits 10 (m % 10 ^ places) = fraction at *
    have hdigits : ∀ c ∈ fraction, c.isDigit := by
      intro c hc
      rw [← hfraction, List.mem_append, List.mem_replicate] at hc
      rcases hc with ⟨-, rfl⟩ | hc
      · decide
      · exact isDigit_toDigits hc
    have hwhole : digitsOf (Nat.toDigits 10 (m / 10 ^ places) ++ '.' :: fraction)
        = (Nat.toDigits 10 (m / 10 ^ places), '.' :: fraction) :=
      digitsOf_append (fun c => isDigit_toDigits) (by simp)
    have hrest : digitsOf fraction = (fraction, []) := digitsOf_of_forall hdigits
    simp only [readDecimal?, hwhole, hrest, hvalue, hlen, Nat.div_add_mod']
    simp [readScale?, div_eq_mul_inv]

lemma Numeric.head?_digits (n : Numeric) : ∃ c cs, n.digits = c :: cs ∧ c.isDigit := by
  obtain ⟨c, cs, hwhole⟩ :=
    List.exists_cons_of_ne_nil (Nat.toDigits_ne_nil (b := 10) (n := n.units.natAbs / 10 ^ n.places))
  have hc : c.isDigit := isDigit_toDigits (hwhole ▸ List.mem_cons_self)
  unfold Numeric.digits
  split
  · exact ⟨c, cs, hwhole, hc⟩
  · exact ⟨c, _, by rw [hwhole, List.cons_append], hc⟩

/-- The text of a number is read back as its value. -/
theorem readNumeric?_text (n : Numeric) : readNumeric? n.text = some n.value := by
  unfold Numeric.text Numeric.value
  split
  · rename_i hneg
    have habs : (n.units.natAbs : ℚ) = -n.units := by
      rw [Nat.cast_natAbs, abs_of_neg hneg, Int.cast_neg]
    rw [readNumeric?, readDecimal?_digits, Option.map_some, habs, neg_div, neg_neg]
  · rename_i hpos
    have habs : (n.units.natAbs : ℚ) = n.units := by
      rw [Nat.cast_natAbs, abs_of_nonneg (not_lt.mp hpos)]
    obtain ⟨c, cs, hcs, hc⟩ := n.head?_digits
    have hunsigned : readNumeric? n.digits = readDecimal? n.digits := by
      rw [hcs, readNumeric?]
      all_goals
        rintro _ ⟨⟩
        simp at hc
    rw [hunsigned, readDecimal?_digits, habs]

end Catalog.Sql
