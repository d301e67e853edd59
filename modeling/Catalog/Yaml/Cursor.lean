/-!
Places in a YAML text. A line feed ends a line, as do the two separators U+2028 and U+2029; the
other line breaks are read as line feeds before anything else is.
-/

namespace Catalog.Yaml

/-- Characters that may stand in a text. -/
def isAllowed (c : Char) : Bool :=
  let n := c.toNat
  n = 0x09 || n = 0x0a || n = 0x0d || (0x20 ≤ n && n ≤ 0x7e) || n = 0x85
    || (0xa0 ≤ n && n ≤ 0xfffd) || 0x10000 ≤ n

/-- A carriage return, with or without a line feed behind it, and U+0085 stand for a line feed. -/
def unifyBreaks : List Char → List Char
  | [] => []
  | '\r' :: '\n' :: cs => '\n' :: unifyBreaks cs
  | c :: cs => (if c = '\r' ∨ c = '\u0085' then '\n' else c) :: unifyBreaks cs

def isBreak (c : Char) : Bool := c = '\n' || c = '\u2028' || c = '\u2029'

def isSpace (c : Char) : Bool := c = ' ' || c = '\t'

/-- A blank, a line break, or the end of the text. -/
def endsWord : List Char → Bool
  | [] => true
  | c :: _ => isSpace c || isBreak c

/-- What is left of a text, and where it stands. -/
structure Cursor where
  rest : List Char
  line : Nat
  column : Nat

namespace Cursor

def start (text : String) : Cursor := ⟨unifyBreaks text.toList, 0, 0⟩

/-- One character further. -/
def next (p : Cursor) : Cursor :=
  match p.rest with
  | [] => p
  | c :: cs => if isBreak c then ⟨cs, p.line + 1, 0⟩ else ⟨cs, p.line, p.column + 1⟩

def skip (p : Cursor) (count : Nat) : Cursor := count.repeat next p

theorem next_length_le (p : Cursor) : p.next.rest.length ≤ p.rest.length := by
  unfold next
  split
  · simp_all
  · split <;> simp_all

theorem next_length_lt {p : Cursor} (h : p.rest ≠ []) : p.next.rest.length < p.rest.length := by
  unfold next
  split
  · simp_all
  · split <;> simp_all

theorem skip_length (p : Cursor) (n : Nat) : (p.skip n).rest.length ≤ p.rest.length := by
  induction n with
  | zero => exact Nat.le_refl _
  | succ n ih => exact Nat.le_trans (next_length_le _) ih

/-- The text starts with a mark between documents. -/
def atMark (p : Cursor) : Bool :=
  p.column = 0 &&
    match p.rest with
    | '-' :: '-' :: '-' :: rest => endsWord rest
    | '.' :: '.' :: '.' :: rest => endsWord rest
    | _ => false

end Cursor

end Catalog.Yaml
