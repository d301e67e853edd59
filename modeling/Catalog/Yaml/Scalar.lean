import Catalog.Yaml.Cursor

/-!
Scalars of a YAML text: plain ones, and those in single or double quotes. A scalar may go on over
several lines; a single line break counts as a space, and of more the first is dropped.
-/

namespace Catalog.Yaml

/-! ### Blanks inside a scalar -/

/-- Blanks seen since the last word: spaces on its line, or line breaks. -/
inductive Gap
  | spaces (cs : List Char)
  /-- The first line break, unless it is escaped, and those after it. -/
  | breaks (first : Option Char) (more : List Char)

namespace Gap

def none : Gap := .spaces []

/-- An escaped line break, which stands for nothing. -/
def joined : Gap := .breaks Option.none []

/-- What the gap stands for between two words. -/
def text : Gap → List Char
  | spaces cs => cs
  | breaks (some '\n') [] => [' ']
  | breaks (some '\n') more => more
  | breaks first more => first.toList ++ more

def add (g : Gap) (c : Char) : Gap :=
  match g with
  | spaces cs => if isBreak c then breaks (some c) [] else spaces (cs ++ [c])
  | breaks first more => if isBreak c then breaks first (more ++ [c]) else g

def isMultiline : Gap → Bool
  | spaces _ => false
  | breaks .. => true

end Gap

/-- The blanks at the front. Behind a line break no tab may stand to the left of column
`indent`. -/
def takeGap (indent : Int) (p : Cursor) (g : Gap) : Option (Cursor × Gap) :=
  match _h : p.rest with
  | [] => some (p, g)
  | c :: _ =>
    if c = '\t' && g.isMultiline && p.column < indent then none
    else if isSpace c || isBreak c then takeGap indent p.next (g.add c)
    else some (p, g)
termination_by p.rest.length
decreasing_by exact Cursor.next_length_lt (by simp_all)

theorem takeGap_length {indent : Int} {p q : Cursor} {g h : Gap}
    (e : takeGap indent p g = some (q, h)) : q.rest.length ≤ p.rest.length := by
  fun_induction takeGap indent p g with
  | case1 => simp_all
  | case2 => simp at e
  | case3 p g c cs _ _ _ ih => exact Nat.le_trans (ih e) (Cursor.next_length_le p)
  | case4 => simp_all

/-! ### Plain scalars -/

def isFlowMark (c : Char) : Bool :=
  c = ',' || c = '[' || c = ']' || c = '\x7b' || c = '\x7d'

/-- The text may not go on here as a plain scalar; `flow` inside brackets. -/
def endsPlain (flow : Bool) : List Char → Bool
  | ':' :: rest => endsWord rest || (flow && rest.head?.any fun c => isFlowMark c || c = '?')
  | c :: _ => flow && isFlowMark c
  | [] => true

/-- The characters up to a blank or to the end of the scalar. -/
def plainWord (flow : Bool) (p : Cursor) : List Char × Cursor :=
  match _h : p.rest with
  | [] => ([], p)
  | c :: _ =>
    if isSpace c || isBreak c || endsPlain flow p.rest then ([], p)
    else (c :: (plainWord flow p.next).1, (plainWord flow p.next).2)
termination_by p.rest.length
decreasing_by all_goals exact Cursor.next_length_lt (by simp_all)

theorem plainWord_length (flow : Bool) (p : Cursor) :
    (plainWord flow p).1.length + (plainWord flow p).2.rest.length ≤ p.rest.length := by
  fun_induction plainWord flow p with
  | case1 => simp
  | case2 => simp
  | case3 p c cs h _ ih =>
    have := Cursor.next_length_lt (p := p) (by simp_all)
    simp only [List.length_cons]
    omega

/-- A plain scalar, after `gap`; outside brackets its lines start at column `indent` or to the
right of it. Also whether it goes on over several lines. -/
def plainScalar (flow : Bool) (indent : Int) (gap : Gap) (p : Cursor) :
    Option (List Char × Bool × Cursor) :=
  let word := (plainWord flow p).1
  if _h : word = [] ∨ p.atMark ∨ p.rest.head? = some '#' then some ([], gap.isMultiline, p)
  else
    match _g : takeGap indent (plainWord flow p).2 .none with
    | none => none
    | some (q, after) =>
      if !flow && q.column < indent then some (gap.text ++ word, after.isMultiline, q)
      else
        (plainScalar flow indent after q).map fun (more, multiline, last) =>
          (gap.text ++ word ++ more, multiline, last)
termination_by p.rest.length
decreasing_by
  have h1 := plainWord_length flow p
  have h2 := takeGap_length _g
  have h3 : 0 < (plainWord flow p).1.length := List.length_pos_iff.2 fun e => _h (Or.inl e)
  omega

/-! ### Quoted scalars -/

/-- The text up to the closing quote, after `gap`; a quote written twice is a quote. -/
def singleQuoted (gap : Gap) (p : Cursor) : Option (List Char × Cursor) :=
  match _h : p.rest with
  | [] => none
  | c :: cs =>
    if p.atMark then none
    else if isSpace c || isBreak c then singleQuoted (gap.add c) p.next
    else if c = '\'' && cs.head? != some '\'' then some (gap.text, p.next)
    else if c = '\'' then
      (singleQuoted .none p.next.next).map fun (text, last) => (gap.text ++ c :: text, last)
    else (singleQuoted .none p.next).map fun (text, last) => (gap.text ++ c :: text, last)
termination_by p.rest.length
decreasing_by
  · exact Cursor.next_length_lt (by simp_all)
  · have := Cursor.next_length_lt (p := p) (by simp_all)
    have := Cursor.next_length_le p.next
    omega
  · exact Cursor.next_length_lt (by simp_all)

/-- The character that an escape of one letter stands for. -/
def escaped? : Char → Option Char
  | '0' => some '\x00'
  | 'a' => some '\x07'
  | 'b' => some '\x08'
  | 't' => some '\t'
  | '\t' => some '\t'
  | 'n' => some '\n'
  | 'v' => some '\x0b'
  | 'f' => some '\x0c'
  | 'r' => some '\r'
  | 'e' => some '\x1b'
  | ' ' => some ' '
  | '"' => some '"'
  | '/' => some '/'
  | '\\' => some '\\'
  | 'N' => some '\u0085'
  | '_' => some '\u00a0'
  | 'L' => some '\u2028'
  | 'P' => some '\u2029'
  | _ => none

/-- How many hexadecimal digits follow the letter of an escape. -/
def escapeDigits : Char → Nat
  | 'x' => 2
  | 'u' => 4
  | 'U' => 8
  | _ => 0

def hexValue? (cs : List Char) : Option Nat :=
  cs.foldl (fun n c => do
    let n ← n
    if '0' ≤ c ∧ c ≤ '9' then some (n * 16 + (c.toNat - '0'.toNat))
    else if 'a' ≤ c ∧ c ≤ 'f' then some (n * 16 + (c.toNat - 'a'.toNat + 10))
    else if 'A' ≤ c ∧ c ≤ 'F' then some (n * 16 + (c.toNat - 'A'.toNat + 10))
    else none) (some 0)

/-- The character of a code point written in hexadecimal digits. -/
def codePoint? (count : Nat) (cs : List Char) : Option Char := do
  if cs.length < count then none
  else
    let n ← hexValue? (cs.take count)
    if n.isValidChar then some (Char.ofNat n) else none

/-- What stands for the escape whose letter is `c`, before `cs`, and how many characters it
takes with its backslash. -/
def escape? (c : Char) (cs : List Char) : Option (Char × Nat) :=
  if escapeDigits c = 0 then (escaped? c).map (·, 2)
  else (codePoint? (escapeDigits c) cs).map (·, 2 + escapeDigits c)

/-- The text up to the closing quote, after `gap`. -/
def doubleQuoted (gap : Gap) (p : Cursor) : Option (List Char × Cursor) :=
  match _h : p.rest with
  | [] => none
  | '\\' :: c :: cs =>
    if isBreak c then
      (doubleQuoted .joined p.next.next).map fun (text, last) => (gap.text ++ text, last)
    else
      match escape? c cs with
      | none => none
      | some (v, count) =>
        (doubleQuoted .none (p.next.skip (count - 1))).map fun (text, last) =>
          (gap.text ++ v :: text, last)
  | c :: _ =>
    if p.atMark then none
    else if isSpace c || isBreak c then doubleQuoted (gap.add c) p.next
    else if c = '"' then some (gap.text, p.next)
    else (doubleQuoted .none p.next).map fun (text, last) => (gap.text ++ c :: text, last)
termination_by p.rest.length
decreasing_by
  · have := Cursor.next_length_lt (p := p) (by simp_all)
    have := Cursor.next_length_le p.next
    omega
  · have := Cursor.next_length_lt (p := p) (by simp_all)
    have := Cursor.skip_length p.next (count - 1)
    omega
  · exact Cursor.next_length_lt (by simp_all)
  · exact Cursor.next_length_lt (by simp_all)

end Catalog.Yaml
