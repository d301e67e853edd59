import Catalog.Filter.Error
import Catalog.Number.Reading

/-!
From filter text to tokens. Blanks separate tokens and mean nothing else; the whole text is read
before any of it is understood, so a fault in its characters outweighs every other.
-/

namespace Catalog.Filter

open Catalog.Number Catalog.Text
open Catalog.Sql (Comparison)

/-- One lexeme, its length in bytes, and the text after it. -/
structure Scan where
  lexeme : Lexeme
  width : Nat
  rest : List Char

def byteLength (cs : List Char) : Nat := cs.foldl (fun n c => n + c.utf8Size) 0

/-! ### Words -/

def isWordStart (c : Char) : Bool := isAlphabetic c || c = '_'

def isWordChar (c : Char) : Bool := isAlphanumeric c || c = '_'

def wordLexeme (word : String) : Lexeme :=
  if word = "AND" then .connect .and
  else if word = "OR" then .connect .or
  else if word = "true" then .const (.bool true)
  else if word = "false" then .const (.bool false)
  else .ident word

def scanWord (cs : List Char) : Scan :=
  let word := cs.takeWhile isWordChar
  ⟨wordLexeme (String.ofList word), byteLength word, cs.dropWhile isWordChar⟩

/-! ### Strings -/

/-- The character that an escape stands for. -/
def unescape? : Char → Option Char
  | 'n' => some '\n'
  | 't' => some '\t'
  | 'r' => some '\r'
  | '\\' => some '\\'
  | '"' => some '"'
  | '\'' => some '\''
  | _ => none

/-- The text of a string, the bytes it takes with its closing quote, and what follows. -/
structure StringBody where
  text : List Char
  width : Nat
  rest : List Char

def StringBody.cons (c : Char) (bytes : Nat) (b : StringBody) : StringBody :=
  ⟨c :: b.text, bytes + b.width, b.rest⟩

def scanStringBody (delimiter : Char) : List Char → Except SyntaxFault StringBody
  | [] => .error .unterminatedString
  | '\\' :: [] => .error .unterminatedString
  | '\\' :: e :: cs =>
    match unescape? e with
    | none => .error (.invalidEscape e)
    | some c => (scanStringBody delimiter cs).map (.cons c 2)
  | c :: cs =>
    if c = delimiter then .ok ⟨[], 1, cs⟩
    else (scanStringBody delimiter cs).map (.cons c c.utf8Size)

def scanString (delimiter : Char) (cs : List Char) : Except SyntaxFault Scan :=
  (scanStringBody delimiter cs).map fun b =>
    ⟨.const (.string (String.ofList b.text)), b.width + 1, b.rest⟩

/-! ### Numbers -/

/-- The letter before a power of ten. -/
def isScaleMark (c : Char) : Bool := c = 'e' || c = 'E'

structure NumberBody where
  text : List Char
  isDouble : Bool
  rest : List Char

/-- The longest text that may continue a number, and what follows. A point belongs to the number
only before a digit, a sign only after the mark of a power of ten; a point or a mark makes it a
double. -/
def scanNumberBody (isDouble afterMark : Bool) : List Char → NumberBody
  | [] => ⟨[], isDouble, []⟩
  | c :: cs =>
    let point := c = '.' && !isDouble && cs.head?.any Char.isDigit
    let sign := afterMark && (c = '+' || c = '-')
    if c.isDigit || point || sign || isScaleMark c then
      let b := scanNumberBody (isDouble || point || isScaleMark c) (isScaleMark c) cs
      ⟨c :: b.text, b.isDouble, b.rest⟩
    else ⟨[], isDouble, c :: cs⟩

/-- The number that starts with `sign`, which is a minus or nothing. -/
def scanNumber (sign cs : List Char) : Except SyntaxFault Scan :=
  let b := scanNumberBody false false cs
  let text := String.ofList (sign ++ b.text)
  let width := byteLength (sign ++ b.text)
  if b.text.isEmpty then .error .missingNumber
  else if b.isDouble then
    match readDouble? (sign ++ b.text) with
    | some d => .ok ⟨.const (.double d), width, b.rest⟩
    | none => .error (.invalidDouble text)
  else
    match b.rest with
    | 'u' :: rest =>
      match readUnsigned? (maxUnsigned 64) text with
      | some n => .ok ⟨.const (.uint64 (UInt64.ofNat n)), width + 1, rest⟩
      | none => .error (.invalidUint text)
    | rest =>
      match readWord? 64 text with
      | some i => .ok ⟨.const (.int64 (Int64.ofInt i)), width, rest⟩
      | none => .error (.invalidInt text)

/-! ### The next lexeme -/

/-- An operator of one character, or of two when `=` follows. -/
def scanComparison (short long : Comparison) : List Char → Scan
  | '=' :: rest => ⟨.compare long, 2, rest⟩
  | rest => ⟨.compare short, 1, rest⟩

/-- Reads the lexeme that starts with the character `c`, which is not blank. -/
def scan (c : Char) (cs : List Char) : Except SyntaxFault Scan :=
  match c with
  | '(' => .ok ⟨.opening .paren, 1, cs⟩
  | ')' => .ok ⟨.closing .paren, 1, cs⟩
  | '[' => .ok ⟨.opening .square, 1, cs⟩
  | ']' => .ok ⟨.closing .square, 1, cs⟩
  | '.' => .ok ⟨.dot, 1, cs⟩
  | ':' => .ok ⟨.colon, 1, cs⟩
  | '=' => .ok (scanComparison .eq .eq cs)
  | '<' => .ok (scanComparison .lt .le cs)
  | '>' => .ok (scanComparison .gt .ge cs)
  | '!' =>
    match cs with
    | '=' :: rest => .ok ⟨.compare .ne, 2, rest⟩
    | _ => .error .loneExclamation
  | '"' => scanString '"' cs
  | '\'' => scanString '\'' cs
  | '-' => scanNumber ['-'] cs
  | _ =>
    if c.isDigit then scanNumber [] (c :: cs)
    else if isWordStart c then .ok (scanWord (c :: cs))
    else .error (.unexpectedChar c)

/-! ### Every lexeme takes at least one character -/

theorem scanStringBody_length {delimiter : Char} {cs : List Char} {b : StringBody}
    (h : scanStringBody delimiter cs = .ok b) : b.rest.length < cs.length := by
  fun_induction scanStringBody delimiter cs generalizing b with
  | case1 => simp at h
  | case2 => simp at h
  | case3 => simp at h
  | case4 e cs v hv ih =>
    match hb : scanStringBody delimiter cs with
    | .error _ => simp [hb, Except.map] at h
    | .ok r =>
      have hr := ih hb
      simp only [hb, Except.map, Except.ok.injEq] at h
      subst h
      simp only [StringBody.cons, List.length_cons]
      omega
  | case5 =>
    simp only [Except.ok.injEq] at h
    subst h
    simp
  | case6 c cs _ _ _ ih =>
    match hb : scanStringBody delimiter cs with
    | .error _ => simp [hb, Except.map] at h
    | .ok r =>
      have hr := ih hb
      simp only [hb, Except.map, Except.ok.injEq] at h
      subst h
      simp only [StringBody.cons, List.length_cons]
      omega

theorem scanNumberBody_append (isDouble afterMark : Bool) (cs : List Char) :
    (scanNumberBody isDouble afterMark cs).text ++ (scanNumberBody isDouble afterMark cs).rest
      = cs := by
  fun_induction scanNumberBody isDouble afterMark cs with
  | case1 => rfl
  | case2 _ _ _ _ _ _ _ _ ih => simpa using ih
  | case3 => rfl

theorem scanNumber_length {sign cs : List Char} {t : Scan} (h : scanNumber sign cs = .ok t) :
    t.rest.length < cs.length := by
  have happ := congrArg List.length (scanNumberBody_append false false cs)
  rw [List.length_append] at happ
  unfold scanNumber at h
  simp only at h
  split at h
  · simp at h
  · rename_i hne
    have hpos : 0 < (scanNumberBody false false cs).text.length := by
      simpa [List.length_pos_iff] using hne
    split at h
    · split at h
      · obtain rfl := Except.ok.inj h
        simp only
        omega
      · simp at h
    · split at h
      · rename_i hr
        split at h
        · obtain rfl := Except.ok.inj h
          rw [hr, List.length_cons] at happ
          simp only
          omega
        · simp at h
      · split at h
        · obtain rfl := Except.ok.inj h
          simp only
          omega
        · simp at h

theorem scan_length {c : Char} {cs : List Char} {t : Scan} (h : scan c cs = .ok t) :
    t.rest.length < (c :: cs).length := by
  have hcomp (short long : Comparison) :
      (scanComparison short long cs).rest.length ≤ cs.length := by
    unfold scanComparison
    split <;> simp
  have hstring (d : Char) (h : scanString d cs = .ok t) : t.rest.length < cs.length := by
    unfold scanString at h
    match hb : scanStringBody d cs with
    | .error _ => simp [hb, Except.map] at h
    | .ok b =>
      simp only [hb, Except.map, Except.ok.injEq] at h
      subst h
      exact scanStringBody_length hb
  unfold scan at h
  rw [List.length_cons]
  split at h
  -- brackets, the point and the colon
  case h_1 | h_2 | h_3 | h_4 | h_5 | h_6 => obtain rfl := Except.ok.inj h; simp
  case h_7 | h_8 | h_9 => obtain rfl := Except.ok.inj h; exact Nat.lt_succ_of_le (hcomp _ _)
  case h_10 =>
    split at h
    · obtain rfl := Except.ok.inj h; simp only [List.length_cons]; omega
    · simp at h
  case h_11 | h_12 => exact Nat.lt_succ_of_lt (hstring _ h)
  case h_13 => exact Nat.lt_succ_of_lt (scanNumber_length h)
  case h_14 =>
    split at h
    · simpa using scanNumber_length h
    · split at h
      · rename_i hw
        obtain rfl := Except.ok.inj h
        have hc : isWordChar c = true := by
          simp only [isWordStart, isWordChar, isAlphanumeric, Bool.or_eq_true] at hw ⊢
          exact hw.imp_left .inl
        simp only [scanWord, List.dropWhile_cons_of_pos hc]
        exact Nat.lt_succ_of_le (List.dropWhile_sublist _).length_le
      · simp at h

/-! ### The whole text -/

/-- The tokens of a text that stands at a byte offset. -/
def tokensFrom (offset : Nat) : List Char → Except Error (List Token)
  | [] => .ok []
  | c :: cs =>
    if isBlank c then tokensFrom (offset + c.utf8Size) cs
    else
      match _h : scan c cs with
      | .error fault => .error (.parse offset fault)
      | .ok t => (tokensFrom (offset + t.width) t.rest).map (⟨t.lexeme, offset⟩ :: ·)
termination_by cs => cs.length
decreasing_by
  · simp
  · exact scan_length (by assumption)

def tokenize (text : String) : Except Error (List Token) := tokensFrom 0 text.toList

end Catalog.Filter
