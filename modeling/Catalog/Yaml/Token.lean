import Catalog.Yaml.Scalar

/-!
Tokens of a YAML text. Besides its marks and scalars there are tokens for the collections that
indentation opens and closes, and one in front of each key of a mapping.

That a scalar or a collection is a key shows only at the colon behind it. The scanner keeps the
places that may turn out to be keys, one for each level of brackets, and puts the missing tokens
in when a colon comes.
-/

namespace Catalog.Yaml

inductive Token
  | documentStart
  | documentEnd
  /-- A collection that indentation opens. -/
  | blockList
  | blockMap
  | blockEnd
  | flowList
  | flowListEnd
  | flowMap
  | flowMapEnd
  | entry
  | comma
  | key
  | value
  | scalar (plain : Bool) (text : String)
  deriving DecidableEq

/-- A place that is a key if a colon follows on its line. -/
structure Candidate where
  /-- How many tokens stand before it. -/
  index : Nat
  line : Nat
  column : Nat
  /-- How much of the text is left from it on. -/
  left : Nat
  /-- Nothing but a key may stand here. -/
  required : Bool

structure Scanner where
  place : Cursor
  tokens : Array Token
  /-- The columns of the open block collections, innermost first. -/
  indents : List Int
  /-- A key may start here. -/
  keyAllowed : Bool
  /-- The candidate at each open bracket, innermost first, and outside all brackets. -/
  candidates : List (Option Candidate)

/-! ### Blanks and comments between tokens -/

def toLineEnd (p : Cursor) : Cursor :=
  match _h : p.rest with
  | [] => p
  | c :: _ => if isBreak c then p else toLineEnd p.next
termination_by p.rest.length
decreasing_by exact Cursor.next_length_lt (by simp_all)

theorem toLineEnd_length (p : Cursor) : (toLineEnd p).rest.length ≤ p.rest.length := by
  fun_induction toLineEnd p with
  | case1 => exact Nat.le_refl _
  | case2 => exact Nat.le_refl _
  | case3 p c cs h _ ih => exact Nat.le_trans ih (Cursor.next_length_le p)

/-- Where the next token starts, and whether it may be a key; outside brackets a new line makes
it so. A tab is no indentation. A byte order mark may start a line, and takes a column of it. -/
def skipBlanks (flow keyAllowed : Bool) (p : Cursor) : Cursor × Bool :=
  match _h : p.rest with
  | [] => (p, keyAllowed)
  | c :: _ =>
    if c = ' ' || (c = '\t' && (flow || !keyAllowed)) || (c = '\ufeff' && p.column = 0) then
      skipBlanks flow keyAllowed p.next
    else if isBreak c then skipBlanks flow (keyAllowed || !flow) p.next
    else if c = '#' then skipBlanks flow keyAllowed (toLineEnd p.next)
    else (p, keyAllowed)
termination_by p.rest.length
decreasing_by
  · exact Cursor.next_length_lt (by simp_all)
  · exact Cursor.next_length_lt (by simp_all)
  · have h := Cursor.next_length_lt (p := p) (by simp_all)
    exact Nat.lt_of_le_of_lt (toLineEnd_length _) h

namespace Scanner

def start (text : String) : Scanner := ⟨.start text, #[], [-1], true, [none]⟩

def isFlow (s : Scanner) : Bool := s.candidates.length > 1

def indent (s : Scanner) : Int := s.indents.headD (-1)

def put (s : Scanner) (t : Token) : Scanner := { s with tokens := s.tokens.push t }

/-! ### Indentation -/

/-- Closes the block collections to the right of a column. -/
def closeBlocks (s : Scanner) (column : Int) : Scanner :=
  if s.isFlow then s
  else
    let closed := s.indents.takeWhile (column < ·)
    { s with indents := s.indents.drop closed.length
             tokens := s.tokens ++ (closed.map fun _ => Token.blockEnd).toArray }

/-- Opens a block collection at a column if none is open there, as token number `index`. -/
def openBlock (s : Scanner) (column index : Nat) (t : Token) : Scanner :=
  if s.isFlow || s.indent ≥ column then s
  else { s with indents := (column : Int) :: s.indents
                tokens := s.tokens.insertIdxIfInBounds index t }

/-! ### Keys that have no key token yet -/

/-- Candidates on an earlier line, or too far back, are none. -/
def dropStale (s : Scanner) : Option Scanner := do
  let candidates ← s.candidates.mapM fun c =>
    match c with
    | none => some none
    | some c =>
      if c.line < s.place.line || s.place.rest.length + 1024 < c.left then
        if c.required then none else some none
      else some (some c)
  return { s with candidates := candidates }

/-- Gives up the innermost candidate. -/
def dropCandidate (s : Scanner) : Option Scanner :=
  match s.candidates with
  | some c :: rest => if c.required then none else some { s with candidates := none :: rest }
  | _ => some s

/-- Takes the present place for a candidate. -/
def addCandidate (s : Scanner) : Option Scanner :=
  if !s.keyAllowed then some s
  else do
    let s ← s.dropCandidate
    let here : Candidate :=
      ⟨s.tokens.size, s.place.line, s.place.column, s.place.rest.length,
        !s.isFlow && s.indent == s.place.column⟩
    return { s with candidates := some here :: s.candidates.tail }

/-! ### Tokens -/

def advance (s : Scanner) (count : Nat) : Scanner := { s with place := s.place.skip count }

def documentMark (s : Scanner) (t : Token) : Option Scanner := do
  let s ← (s.closeBlocks (-1)).dropCandidate
  return ({ s with keyAllowed := false }.put t).advance 3

def openBracket (s : Scanner) (t : Token) : Option Scanner := do
  let s ← s.addCandidate
  return ({ s with candidates := none :: s.candidates, keyAllowed := true }.put t).advance 1

def closeBracket (s : Scanner) (t : Token) : Option Scanner := do
  let s ← s.dropCandidate
  let outer := if s.isFlow then s.candidates.tail else s.candidates
  return ({ s with candidates := outer, keyAllowed := false }.put t).advance 1

def comma (s : Scanner) : Option Scanner := do
  let s ← s.dropCandidate
  return ({ s with keyAllowed := true }.put .comma).advance 1

def entry (s : Scanner) : Option Scanner := do
  if !s.isFlow && !s.keyAllowed then none
  let s ← (s.openBlock s.place.column s.tokens.size .blockList).dropCandidate
  return ({ s with keyAllowed := true }.put .entry).advance 1

def key (s : Scanner) : Option Scanner := do
  if !s.isFlow && !s.keyAllowed then none
  let s ← (s.openBlock s.place.column s.tokens.size .blockMap).dropCandidate
  return ({ s with keyAllowed := !s.isFlow }.put .key).advance 1

def value (s : Scanner) : Option Scanner :=
  match s.candidates with
  | some c :: rest =>
    let s := { s with candidates := none :: rest
                      tokens := s.tokens.insertIdxIfInBounds c.index .key }
    let s := s.openBlock c.column c.index .blockMap
    some (({ s with keyAllowed := false }.put .value).advance 1)
  | _ =>
    if !s.isFlow && !s.keyAllowed then none
    else
      let s := s.openBlock s.place.column s.tokens.size .blockMap
      some (({ s with keyAllowed := !s.isFlow }.put .value).advance 1)

def quoted (s : Scanner) (read : Cursor → Option (List Char × Cursor)) : Option Scanner := do
  let s ← s.addCandidate
  let (text, last) ← read s.place.next
  return { s with keyAllowed := false, place := last }.put (.scalar false (String.ofList text))

/-- A colon that is neither part of a word nor the mark of a value. -/
def isStrayColon : List Char → Bool
  | ':' :: c :: _ => isFlowMark c || c = '?'
  | _ => false

def plain (s : Scanner) : Option Scanner := do
  let s ← s.addCandidate
  let (text, multiline, last) ← plainScalar s.isFlow (s.indent + 1) .none s.place
  if s.isFlow && isStrayColon last.rest then none
  return { s with keyAllowed := multiline, place := last }.put (.scalar true (String.ofList text))

/-- A plain scalar may start here. -/
def startsPlain (flow : Bool) : List Char → Bool
  | [] => false
  | c :: rest =>
    let spaced := rest.head?.all fun d => isSpace d || isBreak d
    if c = '-' then !rest.head?.any isSpace
    else if c = '?' || c = ':' then !flow && !spaced
    else !(isSpace c || isBreak c || isFlowMark c || "#&*!|>'\"%@".contains c || c.toNat = 0x60)

/-- Reads one token, its place found already. -/
def token (s : Scanner) : Option Scanner :=
  if s.place.atMark then
    s.documentMark (if s.place.rest.head? = some '-' then .documentStart else .documentEnd)
  else
    match s.place.rest with
    | '[' :: _ => s.openBracket .flowList
    | '\x7b' :: _ => s.openBracket .flowMap
    | ']' :: _ => s.closeBracket .flowListEnd
    | '\x7d' :: _ => s.closeBracket .flowMapEnd
    | ',' :: _ => s.comma
    | '\'' :: _ => s.quoted (singleQuoted .none)
    | '"' :: _ => s.quoted (doubleQuoted .none)
    | c :: rest =>
      if c = '-' && endsWord rest then s.entry
      else if c = '?' && (s.isFlow || endsWord rest) then s.key
      else if c = ':' && (s.isFlow || endsWord rest) then s.value
      else if startsPlain s.isFlow s.place.rest then s.plain
      else none
    | [] => none

/-- Reads the rest of the text. A step that reads nothing would end it. -/
def run (s : Scanner) : Option (List Token) := do
  let (place, keyAllowed) := skipBlanks s.isFlow s.keyAllowed s.place
  let ready ← { s with place := place, keyAllowed := keyAllowed }.dropStale
  let ready := ready.closeBlocks place.column
  if place.rest.isEmpty then
    let last ← (ready.closeBlocks (-1)).dropCandidate
    return last.tokens.toList
  else
    let next ← ready.token
    if _h : next.place.rest.length < s.place.rest.length then next.run else none
termination_by s.place.rest.length

end Scanner

def tokens? (text : String) : Option (List Token) :=
  if text.toList.all isAllowed then (Scanner.start text).run else none

end Catalog.Yaml
