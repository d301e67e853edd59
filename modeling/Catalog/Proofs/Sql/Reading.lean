import Mathlib.Data.List.Infix
import Mathlib.Tactic.Common
import Catalog.Sql.Literal

/-!
How a text of SQL is read outside of its literals. A literal stands between single quotes, and a
quote inside it is written twice; everything else is a character that means something. The
reading knows nothing of how texts are made.
-/

namespace Catalog.Sql

/-- Of the ways to find out about the characters of a list, the one that looks at these only. -/
instance decidableForallMem (cs : List Char) (p : Char → Prop) [DecidablePred p] :
    Decidable (∀ c ∈ cs, p c) :=
  List.decidableBAll p cs

/-- What a text shows: a character outside of all literals, or a literal as a whole. -/
inductive Glyph
  | char (c : Char)
  | literal (s : List Char)
  deriving DecidableEq

/-- Reads on outside of all literals, or behind the characters `s` of an open one. A literal that
is never closed cannot be read. -/
def glyphsFrom : Option (List Char) → List Char → Option (List Glyph)
  | none, [] => some []
  | none, '\'' :: cs => glyphsFrom (some []) cs
  | none, c :: cs => (glyphsFrom none cs).map (.char c :: ·)
  | some _, [] => none
  | some s, '\'' :: '\'' :: cs => glyphsFrom (some (s ++ ['\''])) cs
  | some s, '\'' :: cs => (glyphsFrom none cs).map (.literal s :: ·)
  | some s, c :: cs => glyphsFrom (some (s ++ [c])) cs

def glyphs? (text : String) : Option (List Glyph) := glyphsFrom none text.toList

/-- The text is read as these glyphs, whatever follows it. -/
def Reads (text : List Char) (gs : List Glyph) : Prop :=
  ∀ rest, glyphsFrom none (text ++ rest) = (glyphsFrom none rest).map (gs ++ ·)

lemma glyphsFrom_char {c : Char} (h : c ≠ '\'') (cs : List Char) :
    glyphsFrom none (c :: cs) = (glyphsFrom none cs).map (.char c :: ·) := by
  rw [glyphsFrom]
  exact h

lemma reads_nil : Reads [] [] := by
  intro rest
  simp

lemma Reads.append {s t : List Char} {gs hs : List Glyph} (hg : Reads s gs) (hh : Reads t hs) :
    Reads (s ++ t) (gs ++ hs) := by
  intro rest
  rw [List.append_assoc, hg, hh, Option.map_map]
  congr 1
  funext l
  simp

lemma Reads.glyphs? {text : String} {gs : List Glyph} (h : Reads text.toList gs) :
    glyphs? text = some gs := by
  simpa [Sql.glyphs?, glyphsFrom] using h []

/-- Code without quotes is read as its characters. -/
lemma reads_code {cs : List Char} (h : '\'' ∉ cs) : Reads cs (cs.map .char) := by
  induction cs with
  | nil => exact reads_nil
  | cons c cs ih =>
    intro rest
    rw [List.mem_cons, not_or] at h
    rw [List.cons_append, glyphsFrom_char (Ne.symm h.1), ih h.2, Option.map_map]
    rfl

/-- A literal ends at the first quote that is not written twice. -/
lemma glyphsFrom_literal (t : List Char) {cs : List Char} (h : cs.head? ≠ some '\'')
    (s : List Char) :
    glyphsFrom (some s) (doubleQuotes t ++ '\'' :: cs)
      = (glyphsFrom none cs).map (.literal (s ++ t) :: ·) := by
  induction t generalizing s with
  | nil =>
    rw [List.append_nil]
    cases cs with
    | nil => rfl
    | cons c cs =>
      have hc : c ≠ '\'' := by simpa using h
      simp [doubleQuotes, glyphsFrom, hc]
  | cons c t ih =>
    by_cases hc : c = '\''
    · subst hc
      show glyphsFrom (some s) ('\'' :: '\'' :: (doubleQuotes t ++ '\'' :: cs)) = _
      rw [glyphsFrom, ih]
      simp
    · have hd : doubleQuotes (c :: t) = c :: doubleQuotes t := by simp [doubleQuotes, hc]
      rw [hd, List.cons_append, glyphsFrom, ih]
      · simp
      · rintro _ h
        exact absurd h hc
      · exact hc

/-- A text is read the same before anything else, unless two quotes meet at the border. -/
lemma glyphsFrom_append {st : Option (List Char)} {cs : List Char} {gs : List Glyph}
    (h : glyphsFrom st cs = some gs) {rest : List Char}
    (hborder : cs.getLast? = some '\'' → rest.head? ≠ some '\'') :
    glyphsFrom st (cs ++ rest) = (glyphsFrom none rest).map (gs ++ ·) := by
  have htail : ∀ {c : Char} {cs : List Char},
      ((c :: cs).getLast? = some '\'' → rest.head? ≠ some '\'') →
      cs.getLast? = some '\'' → rest.head? ≠ some '\'' := by
    intro c cs hb hlast
    exact hb (by rw [List.getLast?_cons, hlast]; rfl)
  induction st, cs using glyphsFrom.induct generalizing gs with
  | case1 =>
    obtain rfl := Option.some.inj h
    simp
  | case2 cs ih => exact ih h (htail hborder)
  | case3 c cs hc ih =>
    rw [glyphsFrom_char hc] at h
    obtain ⟨hs, hhs, rfl⟩ := Option.map_eq_some_iff.mp h
    rw [List.cons_append, glyphsFrom_char hc, ih hhs (htail hborder), Option.map_map]
    rfl
  | case4 s => simp [glyphsFrom] at h
  | case5 s cs ih => exact ih h (htail (htail hborder))
  | case6 s cs hc ih =>
    -- the literal ends here, and what follows is no second quote
    rw [glyphsFrom] at h
    · obtain ⟨hs, hhs, rfl⟩ := Option.map_eq_some_iff.mp h
      rw [List.cons_append, glyphsFrom, ih hhs (htail hborder), Option.map_map]
      · rfl
      · rintro cs' hcs'
        cases cs with
        | nil => exact hborder rfl (by simp_all)
        | cons c cs => exact hc cs (by simp_all)
    · exact hc
  | case7 s c cs hc hc' ih =>
    rw [glyphsFrom] at h
    · rw [List.cons_append, glyphsFrom, ih h (htail hborder)]
      · rintro cs' rfl
        simp at hc'
      · exact hc'
    · exact hc
    · exact hc'

lemma reads_of_glyphsFrom {cs : List Char} {gs : List Glyph} (h : glyphsFrom none cs = some gs)
    (hlast : cs.getLast? ≠ some '\'') : Reads cs gs :=
  fun _ => glyphsFrom_append h fun hl => absurd hl hlast

/-! ### Literals -/

/-- The glyph without what is inside its quotes. -/
def Glyph.blank : Glyph → Glyph
  | char c => char c
  | literal _ => literal []

/-- The contents of the literals in their order, doubled quotes undone. -/
def literals (gs : List Glyph) : List (List Char) :=
  gs.filterMap fun
    | .char _ => none
    | .literal s => some s

@[simp] lemma literals_nil : literals [] = [] := rfl

@[simp] lemma literals_append (gs hs : List Glyph) :
    literals (gs ++ hs) = literals gs ++ literals hs :=
  List.filterMap_append

@[simp] lemma literals_chars (cs : List Char) : literals (cs.map .char) = [] := by
  simp [literals]

@[simp] lemma literals_cons_char (c : Char) (gs : List Glyph) :
    literals (.char c :: gs) = literals gs := rfl

@[simp] lemma literals_cons_literal (s : List Char) (gs : List Glyph) :
    literals (.literal s :: gs) = s :: literals gs := rfl

/-! ### Brackets -/

/-- The bracket that closes one. -/
def closer? : Char → Option Char
  | '(' => some ')'
  | '[' => some ']'
  | _ => none

def isBracket (c : Char) : Bool := ['(', ')', '[', ']'].contains c

lemma isBracket_of_closer? {o c : Char} (h : closer? o = some c) :
    isBracket o = true ∧ isBracket c = true := by
  unfold closer? at h
  split at h
  · obtain rfl := Option.some.inj h
    decide
  · obtain rfl := Option.some.inj h
    decide
  · simp at h

/-- What closes a bracket opens none. -/
lemma closer?_of_closer? {o c : Char} (h : closer? o = some c) : closer? c = none := by
  unfold closer? at h
  split at h
  · obtain rfl := Option.some.inj h
    rfl
  · obtain rfl := Option.some.inj h
    rfl
  · simp at h

lemma closer?_eq_none {c : Char} (h : isBracket c = false) : closer? c = none := by
  by_contra hne
  obtain ⟨k, hk⟩ := Option.ne_none_iff_exists'.mp hne
  simp [(isBracket_of_closer? hk).1] at h

/-- Every bracket is closed by one of its kind, behind it and behind all that it encloses. -/
inductive Balanced : List Glyph → Prop
  | nil : Balanced []
  | literal (s : List Char) {gs : List Glyph} (rest : Balanced gs) : Balanced (.literal s :: gs)
  | char {c : Char} {gs : List Glyph} (plain : isBracket c = false) (rest : Balanced gs) :
      Balanced (.char c :: gs)
  | group {o c : Char} {inner gs : List Glyph} (pair : closer? o = some c)
      (inside : Balanced inner) (rest : Balanced gs) :
      Balanced (.char o :: (inner ++ .char c :: gs))

/-- One pair of parentheses around everything: the first character is matched by the last. -/
def IsGroup (gs : List Glyph) : Prop :=
  ∃ inner, gs = .char '(' :: (inner ++ [.char ')']) ∧ Balanced inner

lemma Balanced.append {gs hs : List Glyph} (hg : Balanced gs) (hh : Balanced hs) :
    Balanced (gs ++ hs) := by
  induction hg with
  | nil => exact hh
  | literal s _ ih => exact .literal s ih
  | char plain _ ih => exact .char plain ih
  | group pair inside _ _ ih =>
    rw [List.cons_append, List.append_assoc, List.cons_append]
    exact .group pair inside ih

lemma balanced_chars {cs : List Char} (h : ∀ c ∈ cs, isBracket c = false) :
    Balanced (cs.map .char) := by
  induction cs with
  | nil => exact .nil
  | cons c cs ih =>
    exact .char (h c List.mem_cons_self) (ih fun d hd => h d (List.mem_cons_of_mem _ hd))

lemma IsGroup.balanced {gs : List Glyph} (h : IsGroup gs) : Balanced gs := by
  obtain ⟨inner, rfl, hb⟩ := h
  exact .group rfl hb .nil

/-! ### What may end a statement early -/

/-- Two characters that start a comment. -/
inductive StartsComment : Glyph → Glyph → Prop
  | line : StartsComment (.char '-') (.char '-')
  | block : StartsComment (.char '/') (.char '*')

/-- Nothing outside of literals ends the statement or starts a comment. -/
structure Closed (gs : List Glyph) : Prop where
  semicolon : .char ';' ∉ gs
  comment : ∀ a b, StartsComment a b → ¬ [a, b] <:+: gs

end Catalog.Sql
