import Catalog.Json.Numeral
import Catalog.Text.Integer

/-!
The tokens of a JSON text.

A string whose escapes do not spell characters is a token all the same: what is passed over is
not looked at closely.
-/

namespace Catalog.Json

open Catalog.Text

inductive Bracket
  | square
  | curly
  deriving DecidableEq, Repr

inductive Token
  | opening (b : Bracket)
  | closing (b : Bracket)
  | comma
  | colon
  | null
  | bool (b : Bool)
  | number (n : Numeral)
  /-- Nothing, if an escape is half of a surrogate pair without the other half. -/
  | string (s : Option String)
  deriving DecidableEq

/-- How many characters a token holds, besides the marks around them. -/
def Token.weight : Token → Nat
  | string (some s) => s.length
  | _ => 0

/-- The blanks of JSON. -/
def isSpace (c : Char) : Bool := c = ' ' || c = '\n' || c = '\t' || c = '\r'

/-! ### Strings -/

def hexDigit? (c : Char) : Option Nat :=
  if '0' ≤ c ∧ c ≤ '9' then some (c.toNat - '0'.toNat)
  else if 'a' ≤ c ∧ c ≤ 'f' then some (c.toNat - 'a'.toNat + 10)
  else if 'A' ≤ c ∧ c ≤ 'F' then some (c.toNat - 'A'.toNat + 10)
  else none

/-- The sixteen-bit unit that four hexadecimal digits spell. -/
def hexUnit? (a b c d : Char) : Option Nat := do
  return (((← hexDigit? a) * 16 + (← hexDigit? b)) * 16 + (← hexDigit? c)) * 16 + (← hexDigit? d)

/-- The character that an escape of one letter stands for. -/
def unescape? : Char → Option Char
  | '"' => some '"'
  | '\\' => some '\\'
  | '/' => some '/'
  | 'b' => some '\x08'
  | 'f' => some '\x0c'
  | 'n' => some '\n'
  | 'r' => some '\r'
  | 't' => some '\t'
  | _ => none

/-- What stands in a string: a character, or a sixteen-bit unit. -/
inductive Unit16
  | char (c : Char)
  | unit (n : Nat)

/-- The parts of a string up to its closing quote, and what follows. -/
def stringUnits : List Char → Option (List Unit16 × List Char)
  | [] => none
  | '"' :: rest => some ([], rest)
  | '\\' :: 'u' :: a :: b :: c :: d :: rest =>
    match hexUnit? a b c d with
    | none => none
    | some n => (stringUnits rest).map fun (us, r) => (.unit n :: us, r)
  | '\\' :: e :: rest =>
    match unescape? e with
    | none => none
    | some c => (stringUnits rest).map fun (us, r) => (.char c :: us, r)
  | c :: rest =>
    if c.toNat < 0x20 || c = '\\' then none
    else (stringUnits rest).map fun (us, r) => (.char c :: us, r)

def isHighSurrogate (n : Nat) : Bool := 0xd800 ≤ n && n < 0xdc00

def isLowSurrogate (n : Nat) : Bool := 0xdc00 ≤ n && n < 0xe000

/-- The text that the parts spell, unless half of a surrogate pair stands alone. -/
def spell? : List Unit16 → Option (List Char)
  | [] => some []
  | .char c :: us => (spell? us).map (c :: ·)
  | .unit n :: us =>
    if isHighSurrogate n then
      match us with
      | .unit m :: rest =>
        if isLowSurrogate m then
          (spell? rest).map (Char.ofNat (0x10000 + (n - 0xd800) * 0x400 + (m - 0xdc00)) :: ·)
        else none
      | _ => none
    else if isLowSurrogate n then none
    else (spell? us).map (Char.ofNat n :: ·)

/-! ### Numbers -/

/-- The digits at the front, at least one, and what follows. -/
def someDigits? (cs : List Char) : Option (List Char × List Char) :=
  let ds := cs.takeWhile Char.isDigit
  if ds.isEmpty then none else some (ds, cs.dropWhile Char.isDigit)

/-- The digits before a point: a zero stands alone. -/
def wholeDigits? (cs : List Char) : Option (List Char × List Char) :=
  match someDigits? cs with
  | some ('0' :: _ :: _, _) => none
  | r => r

def fraction? : List Char → Option (List Char × List Char)
  | '.' :: cs => someDigits? cs
  | cs => some ([], cs)

/-- A power of ten; without one, the text stays as it is. -/
def scale? : List Char → Option (Int × List Char)
  | [] => some (0, [])
  | c :: cs =>
    if c = 'e' || c = 'E' then
      match cs with
      | '-' :: ds => (someDigits? ds).map fun (ds, r) => (-(Nat.ofDigitChars 10 ds 0 : Int), r)
      | '+' :: ds => (someDigits? ds).map fun (ds, r) => (Nat.ofDigitChars 10 ds 0, r)
      | ds => (someDigits? ds).map fun (ds, r) => (Nat.ofDigitChars 10 ds 0, r)
    else some (0, c :: cs)

def numeral? (negative : Bool) (cs : List Char) : Option (Numeral × List Char) := do
  let (whole, afterWhole) ← wholeDigits? cs
  let (fraction, afterFraction) ← fraction? afterWhole
  let (scale, rest) ← scale? afterFraction
  return (⟨negative, whole, fraction, scale, rest.length = afterWhole.length⟩, rest)

/-! ### The whole text -/

/-- The token that starts with `c`, which is not blank, and what follows. -/
def token? (c : Char) (cs : List Char) : Option (Token × List Char) :=
  match c with
  | '[' => some (.opening .square, cs)
  | ']' => some (.closing .square, cs)
  | '\x7b' => some (.opening .curly, cs)
  | '\x7d' => some (.closing .curly, cs)
  | ',' => some (.comma, cs)
  | ':' => some (.colon, cs)
  | '"' => (stringUnits cs).map fun (us, rest) => (.string ((spell? us).map String.ofList), rest)
  | '-' => (numeral? true cs).map fun (n, rest) => (.number n, rest)
  | 'n' =>
    match cs with
    | 'u' :: 'l' :: 'l' :: rest => some (.null, rest)
    | _ => none
  | 't' =>
    match cs with
    | 'r' :: 'u' :: 'e' :: rest => some (.bool true, rest)
    | _ => none
  | 'f' =>
    match cs with
    | 'a' :: 'l' :: 's' :: 'e' :: rest => some (.bool false, rest)
    | _ => none
  | _ => (numeral? false (c :: cs)).map fun (n, rest) => (.number n, rest)

/-! ### Every token takes its characters and at least one more -/

theorem stringUnits_length {cs rest : List Char} {us : List Unit16}
    (h : stringUnits cs = some (us, rest)) : us.length + rest.length < cs.length := by
  fun_induction stringUnits cs generalizing us with
  | case1 => simp at h
  | case2 => simp_all
  | case3 => simp at h
  | case4 a b c d rest' n _ ih =>
    obtain ⟨⟨vs, r⟩, hv, he⟩ := Option.map_eq_some_iff.1 h
    obtain ⟨rfl, rfl⟩ := Prod.mk.inj he
    have := ih hv
    simp only [List.length_cons] at this ⊢
    omega
  | case5 => simp at h
  | case6 e rest' _ c _ ih =>
    obtain ⟨⟨vs, r⟩, hv, he⟩ := Option.map_eq_some_iff.1 h
    obtain ⟨rfl, rfl⟩ := Prod.mk.inj he
    have := ih hv
    simp only [List.length_cons] at this ⊢
    omega
  | case7 => simp at h
  | case8 c rest' _ _ _ _ ih =>
    obtain ⟨⟨vs, r⟩, hv, he⟩ := Option.map_eq_some_iff.1 h
    obtain ⟨rfl, rfl⟩ := Prod.mk.inj he
    have := ih hv
    simp only [List.length_cons] at this ⊢
    omega

theorem spell?_length {us : List Unit16} {cs : List Char} (h : spell? us = some cs) :
    cs.length ≤ us.length := by
  fun_induction spell? us generalizing cs with
  | case1 =>
    obtain rfl := Option.some.inj h
    exact Nat.le_refl _
  | case2 c us ih =>
    obtain ⟨ds, hds, rfl⟩ := Option.map_eq_some_iff.1 h
    exact Nat.succ_le_succ (ih hds)
  | case3 n _ m us _ ih =>
    obtain ⟨ds, hds, rfl⟩ := Option.map_eq_some_iff.1 h
    have := ih hds
    simp only [List.length_cons]
    omega
  | case4 | case5 | case6 => cases h
  | case7 n us _ _ ih =>
    obtain ⟨ds, hds, rfl⟩ := Option.map_eq_some_iff.1 h
    exact Nat.succ_le_succ (ih hds)

theorem someDigits?_length {cs ds rest : List Char} (h : someDigits? cs = some (ds, rest)) :
    rest.length < cs.length := by
  unfold someDigits? at h
  simp only at h
  split at h
  · simp at h
  · rename_i hne
    obtain ⟨rfl, rfl⟩ := Prod.mk.inj (Option.some.inj h)
    have := congrArg List.length (List.takeWhile_append_dropWhile (p := Char.isDigit) (l := cs))
    rw [List.length_append] at this
    have : 0 < (cs.takeWhile Char.isDigit).length := by simpa [List.length_pos_iff] using hne
    omega

theorem wholeDigits?_length {cs ds rest : List Char} (h : wholeDigits? cs = some (ds, rest)) :
    rest.length < cs.length := by
  unfold wholeDigits? at h
  split at h
  · simp at h
  · exact someDigits?_length h

theorem fraction?_length {cs ds rest : List Char} (h : fraction? cs = some (ds, rest)) :
    rest.length ≤ cs.length := by
  unfold fraction? at h
  split at h
  · have := someDigits?_length h
    simp only [List.length_cons]
    omega
  · obtain ⟨-, rfl⟩ := Prod.mk.inj (Option.some.inj h)
    exact Nat.le_refl _

theorem scale?_length {cs rest : List Char} {n : Int} (h : scale? cs = some (n, rest)) :
    rest.length ≤ cs.length := by
  unfold scale? at h
  split at h
  · simp_all
  · split at h
    · split at h
      all_goals
        obtain ⟨⟨ds, r⟩, hd, he⟩ := Option.map_eq_some_iff.1 h
        obtain ⟨-, rfl⟩ := Prod.mk.inj he
        have := someDigits?_length hd
        simp only [List.length_cons] at this ⊢
        omega
    · obtain ⟨-, rfl⟩ := Prod.mk.inj (Option.some.inj h)
      exact Nat.le_refl _

theorem numeral?_length {negative : Bool} {cs rest : List Char} {n : Numeral}
    (h : numeral? negative cs = some (n, rest)) : rest.length < cs.length := by
  simp only [numeral?, bind, Option.bind_eq_some_iff, Prod.exists, pure, Option.some.injEq,
    Prod.mk.injEq] at h
  obtain ⟨_, _, hw, _, _, hf, _, _, hs, -, rfl⟩ := h
  have := wholeDigits?_length hw
  have := fraction?_length hf
  have := scale?_length hs
  omega

theorem token?_length {c : Char} {cs rest : List Char} {t : Token}
    (h : token? c cs = some (t, rest)) : t.weight + rest.length < (c :: cs).length := by
  unfold token? at h
  rw [List.length_cons]
  split at h
  case h_1 | h_2 | h_3 | h_4 | h_5 | h_6 =>
    obtain ⟨rfl, rfl⟩ := Prod.mk.inj (Option.some.inj h)
    simp [Token.weight]
  case h_7 =>
    obtain ⟨⟨us, r⟩, hu, he⟩ := Option.map_eq_some_iff.1 h
    obtain ⟨rfl, rfl⟩ := Prod.mk.inj he
    have := stringUnits_length hu
    cases hs : spell? us with
    | none =>
      simp only [Option.map_none, Token.weight]
      omega
    | some ds =>
      have := spell?_length hs
      simp only [Option.map_some, Token.weight, String.length_ofList]
      omega
  case h_8 =>
    obtain ⟨⟨n, r⟩, hn, he⟩ := Option.map_eq_some_iff.1 h
    obtain ⟨rfl, rfl⟩ := Prod.mk.inj he
    have := numeral?_length hn
    simp only [Token.weight]
    omega
  case h_9 | h_10 | h_11 =>
    split at h
    · obtain ⟨rfl, rfl⟩ := Prod.mk.inj (Option.some.inj h)
      simp only [Token.weight, List.length_cons]
      omega
    · simp at h
  case h_12 =>
    obtain ⟨⟨n, r⟩, hn, he⟩ := Option.map_eq_some_iff.1 h
    obtain ⟨rfl, rfl⟩ := Prod.mk.inj he
    have := numeral?_length hn
    simp only [Token.weight, List.length_cons] at this ⊢
    omega

def tokens? : List Char → Option (List Token)
  | [] => some []
  | c :: cs =>
    if isSpace c then tokens? cs
    else
      match _h : token? c cs with
      | none => none
      | some (t, rest) => (tokens? rest).map (t :: ·)
termination_by cs => cs.length
decreasing_by
  · simp
  · exact Nat.lt_of_le_of_lt (Nat.le_add_left _ _) (token?_length (by assumption))

end Catalog.Json
