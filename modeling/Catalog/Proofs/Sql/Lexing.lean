import Mathlib.Data.List.DropRight
import Mathlib.Data.List.SplitBy
import Catalog.Proofs.Sql.Term

/-!
The lexemes of a condition. Outside of literals, characters of one kind that stand together are
read together: words and numbers, and operators, of which the longest spelling counts, unless
it would end in a sign.
-/

namespace Catalog.Sql

open Catalog.Text

/-- Operators between two operands. -/
inductive BinaryOp
  /-- A member or an element of a JSON value, as JSON. -/
  | json
  /-- A member or an element of a JSON value, as text. -/
  | text
  | like
  | compare (c : Comparison)
  | connect (k : Connective)
  deriving DecidableEq

/-- The words CASE, WHEN, THEN and END. -/
inductive Keyword
  | case | when | result | finish
  deriving DecidableEq

inductive Lexeme
  | word (w : List Char)
  | keyword (k : Keyword)
  | number (n : ℕ)
  | literal (s : List Char)
  | operator (op : BinaryOp)
  | minus
  | cast
  | opening
  | closing
  | comma
  deriving DecidableEq

/-! ### Runs of characters -/

inductive Kind
  | blank
  | word
  | operator
  | colon
  /-- A character that is never part of a run. -/
  | mark
  deriving DecidableEq

def operatorChars : List Char := "+-*/<>=~!@#%^&|`?".toList

def kind (c : Char) : Kind :=
  if c.isWhitespace then .blank
  else if c.isAlphanum || c = '_' then .word
  else if operatorChars.contains c then .operator
  else if c = ':' then .colon
  else .mark

/-- The two belong to one run. -/
def Glyph.joins : Glyph → Glyph → Bool
  | .char c, .char d => kind c = kind d && kind c ≠ .mark
  | _, _ => false

/-- Words, whatever case their letters have. -/
def wordLexeme (w : List Char) : Lexeme :=
  let w := w.map Char.toLower
  if w = "case".toList then .keyword .case
  else if w = "when".toList then .keyword .when
  else if w = "then".toList then .keyword .result
  else if w = "end".toList then .keyword .finish
  else if w = "like".toList then .operator .like
  else if w = "and".toList then .operator (.connect .and)
  else if w = "or".toList then .operator (.connect .or)
  else .word w

def symbol? : List Char → Option Lexeme
  | ['-', '>'] => some (.operator .json)
  | ['-', '>', '>'] => some (.operator .text)
  | ['='] => some (.operator (.compare .eq))
  | ['!', '='] | ['<', '>'] => some (.operator (.compare .ne))
  | ['>'] => some (.operator (.compare .gt))
  | ['>', '='] => some (.operator (.compare .ge))
  | ['<'] => some (.operator (.compare .lt))
  | ['<', '='] => some (.operator (.compare .le))
  | ['-'] => some .minus
  | _ => none

def isSign (c : Char) : Bool := c = '+' || c = '-'

/-- Where operators end: one of several characters ends in a sign only if it has a character of
the second list. -/
def splitOperators (run : List Char) : List (List Char) :=
  if run.any ("~!@#%^&|`?".toList.contains ·) then [run]
  else match run.rdropWhile isSign with
    | [] => run.map ([·])
    | operator => operator :: (run.rtakeWhile isSign).map ([·])

/-- The lexemes of one run. No comment may start in it. -/
def runLexemes? (run : List Char) : Option (List Lexeme) :=
  match run with
  | [] => none
  | c :: _ =>
    match kind c with
    | .blank => some []
    | .word =>
      match readDigits? run with
      | some n => some [.number n]
      | none => if c.isDigit then none else some [wordLexeme run]
    | .operator =>
      if ['-', '-'] <:+: run ∨ ['/', '*'] <:+: run then none
      else (splitOperators run).mapM symbol?
    | .colon => if run = [':', ':'] then some [.cast] else none
    | .mark =>
      match run with
      | ['('] => some [.opening]
      | [')'] => some [.closing]
      | [','] => some [.comma]
      | _ => none

def Glyph.char? : Glyph → Option Char
  | .char c => some c
  | .literal _ => none

/-- The lexemes of glyphs that belong together. -/
def groupLexemes? : List Glyph → Option (List Lexeme)
  | [.literal s] => some [.literal s]
  | gs => runLexemes? (gs.filterMap Glyph.char?)

/-- The lexemes of a text, if all of it is known. -/
def lexemes? (gs : List Glyph) : Option (List Lexeme) :=
  ((gs.splitBy Glyph.joins).mapM groupLexemes?).map List.flatten

/-! ### Texts side by side -/

variable {gs hs : List Glyph} {ls ms : List Lexeme}

/-- No run goes on from one text to the next. -/
def Border (gs hs : List Glyph) : Prop := ∀ g ∈ gs.getLast?, ∀ h ∈ hs.head?, g.joins h = false

lemma lexemes?_append (hg : lexemes? gs = some ls) (hh : lexemes? hs = some ms)
    (hb : Border gs hs) : lexemes? (gs ++ hs) = some (ls ++ ms) := by
  obtain ⟨lss, hlss, rfl⟩ := Option.map_eq_some_iff.mp hg
  obtain ⟨mss, hmss, rfl⟩ := Option.map_eq_some_iff.mp hh
  rw [lexemes?, List.splitBy_append hb, List.mapM_append, hlss, hmss]
  simp

end Catalog.Sql
