import Mathlib.Tactic.Common
import Catalog.Proofs.Sql.Reading

/-!
The outline of a text: its words, its marks and its literals outside of all brackets, and each
group in brackets as a whole. What is inside of a group cannot be taken for a part of the outline.
-/

namespace Catalog.Sql

inductive Item
  | word (cs : List Char)
  | mark (c : Char)
  | literal (s : List Char)
  | group (opening : Char) (inner : List Glyph)
  deriving DecidableEq

/-- A group that is not closed yet: its bracket, what it holds so far, and the brackets that must
be closed in turn. -/
structure OpenGroup where
  opening : Char
  inner : List Glyph
  closers : List Char
  deriving DecidableEq

/-- How far an outline is read: its items, the word that is being read, the group that is open. -/
structure Reader where
  items : List Item
  word : List Char
  group : Option OpenGroup
  deriving DecidableEq

def isNameChar (c : Char) : Bool := c.isAlphanum || c = '_' || c = '$' || 0x80 ≤ c.val

namespace Reader

/-- Reads from here with nothing open. -/
def clean (items : List Item) : Reader := ⟨items, [], none⟩

/-- Ends the word that is being read. -/
def flush (r : Reader) : List Item :=
  if r.word.isEmpty then r.items else r.items ++ [.word r.word]

/-- One glyph more, outside of all groups. -/
def outside (r : Reader) : Glyph → Option Reader
  | .literal s => some (clean (r.flush ++ [.literal s]))
  | .char c =>
    if isNameChar c then some { r with word := r.word ++ [c] }
    else if c.isWhitespace then some (clean r.flush)
    else
      match closer? c with
      | some close => some ⟨r.flush, [], some ⟨c, [], [close]⟩⟩
      | none => if isBracket c then none else some (clean (r.flush ++ [.mark c]))

/-- One glyph more, inside of a group. -/
def inside (r : Reader) (g : OpenGroup) : Glyph → Option Reader
  | .literal s => some { r with group := some { g with inner := g.inner ++ [.literal s] } }
  | .char c =>
    match closer? c, isBracket c, g.closers with
    | some close, _, closers =>
      some { r with group := some ⟨g.opening, g.inner ++ [.char c], close :: closers⟩ }
    | none, false, _ => some { r with group := some { g with inner := g.inner ++ [.char c] } }
    | none, true, [close] =>
      if c = close then some (clean (r.items ++ [.group g.opening g.inner])) else none
    | none, true, close :: closers =>
      if c = close then some { r with group := some ⟨g.opening, g.inner ++ [.char c], closers⟩ }
      else none
    | none, true, [] => none

def step (r : Reader) (g : Glyph) : Option Reader :=
  match r.group with
  | none => r.outside g
  | some open' => r.inside open' g

def read (r : Reader) (gs : List Glyph) : Option Reader := gs.foldlM step r

@[simp] lemma read_nil (r : Reader) : r.read [] = some r := rfl

@[simp] lemma read_cons (r : Reader) (g : Glyph) (gs : List Glyph) :
    r.read (g :: gs) = (r.step g).bind (·.read gs) := rfl

lemma read_append (r : Reader) (gs hs : List Glyph) :
    r.read (gs ++ hs) = (r.read gs).bind (·.read hs) := List.foldlM_append

/-! ### What was read before does not matter -/

/-- The reader with items before its own. -/
def after (items : List Item) (r : Reader) : Reader := { r with items := items ++ r.items }

@[simp] lemma group_after (items : List Item) (r : Reader) :
    (r.after items).group = r.group := rfl

@[simp] lemma clean_after (items js : List Item) :
    (clean js).after items = clean (items ++ js) := rfl

lemma flush_after (items : List Item) (r : Reader) : (r.after items).flush = items ++ r.flush := by
  cases hw : r.word <;> simp [flush, after, hw]

lemma outside_after (items : List Item) (r : Reader) (g : Glyph) :
    (r.after items).outside g = (r.outside g).map (after items) := by
  cases g with
  | literal s => simp [outside, flush_after]
  | char c =>
    simp only [outside, flush_after]
    split
    · rfl
    · split
      · rfl
      · split
        · rfl
        · split
          · rfl
          · simp

lemma inside_after (items : List Item) (r : Reader) (o : OpenGroup) (g : Glyph) :
    (r.after items).inside o g = (r.inside o g).map (after items) := by
  cases g with
  | literal s => rfl
  | char c =>
    simp only [inside]
    split
    · rfl
    · rfl
    · split <;> simp [after, clean]
    · split <;> rfl
    · rfl

lemma step_after (items : List Item) (r : Reader) (g : Glyph) :
    (r.after items).step g = (r.step g).map (after items) := by
  simp only [step]
  cases hg : r.group with
  | none => simp [after, hg, ← outside_after]
  | some o => simp [after, hg, ← inside_after]

lemma read_after (items : List Item) (r : Reader) (gs : List Glyph) :
    (r.after items).read gs = (r.read gs).map (after items) := by
  induction gs generalizing r with
  | nil => rfl
  | cons g gs ih =>
    rw [read_cons, read_cons, step_after]
    cases r.step g with
    | none => rfl
    | some r' => simpa using ih r'

/-! ### Groups -/

/-- A balanced text inside of a group stays inside. -/
lemma read_inside {gs : List Glyph} (h : Balanced gs) (items : List Item) (w : List Char)
    (o close : Char) (inner : List Glyph) (closers : List Char) :
    read ⟨items, w, some ⟨o, inner, close :: closers⟩⟩ gs
      = some ⟨items, w, some ⟨o, inner ++ gs, close :: closers⟩⟩ := by
  induction h generalizing inner close closers with
  | nil => simp
  | literal s _ ih => simp [step, inside, ih]
  | @char c gs plain _ ih =>
    simp [step, inside, closer?_eq_none plain, plain, ih]
  | @group b c body gs pair _ _ hin hrest =>
    have hc := closer?_of_closer? pair
    have hb := (isBracket_of_closer? pair).2
    simp [step, inside, pair, read_append, hin, hc, hb, hrest]

/-- A group is read as one item. -/
lemma read_group {gs : List Glyph} (h : IsGroup gs) (items : List Item) :
    ∃ inner, gs = .char '(' :: (inner ++ [.char ')']) ∧
      (clean items).read gs = some (clean (items ++ [.group '(' inner])) := by
  obtain ⟨inner, rfl, hb⟩ := h
  refine ⟨inner, rfl, ?_⟩
  have hopen : (clean items).step (.char '(') = some ⟨items, [], some ⟨'(', [], [')']⟩⟩ := by
    simp [step, clean, outside, isNameChar, closer?, flush]
  rw [read_cons, hopen, Option.bind_some, read_append, read_inside hb]
  simp [step, inside, closer?, isBracket, clean]

end Reader

/-! ### Outlines -/

/-- The outline of a text; a bracket that is not closed, or not opened, leaves it without one. -/
def outline? (gs : List Glyph) : Option (List Item) :=
  match (Reader.clean []).read gs with
  | some r => if r.group.isNone then some r.flush else none
  | none => none

lemma outline?_group {gs : List Glyph} (h : IsGroup gs) :
    ∃ inner, gs = .char '(' :: (inner ++ [.char ')']) ∧ outline? gs = some [.group '(' inner] := by
  obtain ⟨inner, rfl, hr⟩ := Reader.read_group h []
  exact ⟨inner, rfl, by rw [outline?, hr]; rfl⟩

/-- A blank separates: the outline of both sides is that of the one and that of the other. -/
lemma outline?_blank {gs hs : List Glyph} {is js : List Item} (hg : outline? gs = some is)
    (hh : outline? hs = some js) : outline? (gs ++ .char ' ' :: hs) = some (is ++ js) := by
  unfold outline? at hg hh ⊢
  rw [Reader.read_append]
  cases hr : (Reader.clean []).read gs with
  | none => simp [hr] at hg
  | some r =>
    have hgroup : r.group = none ∧ r.flush = is := by simpa [hr] using hg
    have hstep : r.step (.char ' ') = some ((Reader.clean []).after is) := by
      rw [Reader.step, hgroup.1, ← hgroup.2]
      simp [Reader.outside, isNameChar]
    rw [Option.bind_some, Reader.read_cons, hstep, Option.bind_some, Reader.read_after]
    cases hr' : (Reader.clean []).read hs with
    | none => simp [hr'] at hh
    | some r' =>
      have hgroup' : r'.group = none ∧ r'.flush = js := by simpa [hr'] using hh
      simp [Reader.flush_after, hgroup']

end Catalog.Sql
