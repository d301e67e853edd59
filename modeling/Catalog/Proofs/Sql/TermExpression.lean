import Catalog.Proofs.Sql.Expression

/-!
The expression that the text of a term is. What the pieces of a term are written as falls apart
into lexemes at the borders of the pieces, but for an accessor and a sign behind it, and what is
read is the operation that the term stands for.
-/

namespace Catalog.Sql

open Catalog.Number Catalog.Text

/-! ### Borders -/

def Glyph.kind? : Glyph → Option Kind
  | .char c => some (kind c)
  | .literal _ => none

/-- Code that starts and ends like an operand. -/
structure Solid (gs : List Glyph) : Prop where
  ne_nil : gs ≠ []
  first : ∀ g ∈ gs.head?, g.kind? ≠ some .blank
  last : ∀ g ∈ gs.getLast?, g.kind? ≠ some .blank ∧ g.kind? ≠ some .operator

/-- Code that is read as these lexemes. -/
structure Lexed (gs : List Glyph) (ls : List Lexeme) : Prop extends Solid gs where
  lexemes : lexemes? gs = some ls

variable {gs hs : List Glyph} {ls ms : List Lexeme}

lemma joins_eq_false {g h : Glyph}
    (hk : g.kind? = h.kind? → g.kind? = none ∨ g.kind? = some .mark) : g.joins h = false := by
  cases g with
  | literal => rfl
  | char c =>
    cases h with
    | literal => rfl
    | char d =>
      simp only [Glyph.kind?, Option.some.injEq, reduceCtorEq, false_or] at hk
      by_cases hcd : kind c = kind d
      · simp [Glyph.joins, hk hcd]
      · simp [Glyph.joins, hcd]

/-- Literals and marks are runs of their own. -/
lemma border_left {g : Glyph} (hg : gs.getLast? = some g)
    (hk : g.kind? = none ∨ g.kind? = some .mark) : Border gs hs := by
  intro g' hg' h _
  obtain rfl : g = g' := Option.some.inj (hg.symm.trans hg')
  exact joins_eq_false fun _ => hk

lemma border_right {h : Glyph} (hh : hs.head? = some h)
    (hk : h.kind? = none ∨ h.kind? = some .mark) : Border gs hs := by
  intro g _ h' hh'
  obtain rfl : h = h' := Option.some.inj (hh.symm.trans hh')
  exact joins_eq_false fun heq => heq ▸ hk

/-- Behind an operand, blanks, operators and marks are runs of their own. -/
lemma Solid.border (hg : Solid gs)
    (hh : ∀ h ∈ hs.head?, h.kind? = some .blank ∨ h.kind? = some .operator ∨ h.kind? = some .mark) :
    Border gs hs := by
  intro g hg' h hh'
  obtain ⟨hblank, hoperator⟩ := hg.last g hg'
  refine joins_eq_false fun heq => ?_
  rcases hh h hh' with hk | hk | hk <;> rw [hk] at heq
  · exact absurd heq hblank
  · exact absurd heq hoperator
  · exact .inr heq

/-- Before an operand, blanks and marks are runs of their own. -/
lemma Solid.border' (hh : Solid hs)
    (hg : ∀ g ∈ gs.getLast?, g.kind? = some .blank ∨ g.kind? = some .mark) : Border gs hs := by
  intro g hg' h hh'
  refine joins_eq_false fun heq => ?_
  rcases hg g hg' with hk | hk
  · exact absurd (heq.symm.trans hk) (hh.first h hh')
  · exact .inr hk

/-- Between two operands, anything may stand. -/
lemma Solid.around (hg : Solid gs) (hh : Solid hs) (mid : List Glyph) :
    Solid (gs ++ (mid ++ hs)) := by
  obtain ⟨d, ds, rfl⟩ := List.exists_cons_of_ne_nil hg.ne_nil
  refine ⟨by simp, fun g h => hg.first g (by simpa using h), fun g h => hh.last g ?_⟩
  rwa [← List.append_assoc, List.getLast?_append_of_ne_nil _ hh.ne_nil] at h

/-! ### Operands -/

lemma kind_of_isDigit {c : Char} (h : c.isDigit) : kind c = .word := by
  have hblank : c.isWhitespace = false := by
    rw [← Bool.not_eq_true]
    intro hw
    simp only [Char.isWhitespace, Bool.or_eq_true, decide_eq_true_iff] at hw
    rcases hw with ((rfl | rfl) | rfl) | rfl <;> exact absurd h (by decide)
  have halnum : c.isAlphanum = true := by simp [Char.isAlphanum, h]
  simp [kind, hblank, halnum]

/-- The digits of a number, as they are read. -/
def digitGlyphs (n : ℕ) : List Glyph := (Nat.toDigits 10 n).map .char

lemma kind?_digitGlyphs {n : ℕ} {g : Glyph} (hg : g ∈ digitGlyphs n) : g.kind? = some .word := by
  obtain ⟨c, hc, rfl⟩ := List.mem_map.mp hg
  exact congrArg some (kind_of_isDigit (isDigit_toDigits hc))

lemma lexed_digits (n : ℕ) : Lexed (digitGlyphs n) [.number n] := by
  have hne : digitGlyphs n ≠ [] := by simp [digitGlyphs, Nat.toDigits_ne_nil]
  have hchain : (digitGlyphs n).IsChain fun g h => g.joins h := by
    refine List.Pairwise.isChain (List.pairwise_of_forall_mem_list fun g hg h hh => ?_)
    obtain ⟨c, hc, rfl⟩ := List.mem_map.mp hg
    obtain ⟨d, hd, rfl⟩ := List.mem_map.mp hh
    simp [Glyph.joins, kind_of_isDigit (isDigit_toDigits hc), kind_of_isDigit (isDigit_toDigits hd)]
  refine ⟨⟨hne, fun g hg => ?_, fun g hg => ?_⟩, ?_⟩
  · simp [kind?_digitGlyphs (List.mem_of_mem_head? hg)]
  · simp [kind?_digitGlyphs (List.mem_of_getLast? hg)]
  · obtain ⟨c, cs, hcs⟩ := List.exists_cons_of_ne_nil (Nat.toDigits_ne_nil (b := 10) (n := n))
    have hc : kind c = .word := kind_of_isDigit (isDigit_toDigits (hcs ▸ List.mem_cons_self))
    have hread := readDigits?_toDigits n
    have hchars : ((c :: cs).map Glyph.char).filterMap Glyph.char? = c :: cs := by
      rw [List.filterMap_map]
      exact List.filterMap_some
    rw [lexemes?, List.splitBy_of_isChain hne hchain]
    rw [digitGlyphs, hcs]
    rw [hcs] at hread
    have hgroup : groupLexemes? ((c :: cs).map Glyph.char) = some [.number n] := by
      rw [List.map_cons, groupLexemes?, ← List.map_cons, hchars, runLexemes?, hc]
      · simp [hread]
      · simp
    simp only [List.mapM_cons, List.mapM_nil, hgroup]
    rfl

lemma lexed_literal (s : List Char) : Lexed [.literal s] [.literal s] :=
  ⟨⟨by simp, by simp [Glyph.kind?], by simp [Glyph.kind?]⟩, rfl⟩

/-! ### Paths -/

variable {ag : List Glyph} {anchor : Expression}

def Step.expression : Step → Expression
  | key name => .literal name.toList
  | position i => .integer i.toInt

/-- The value at a path, as JSON. -/
def Path.jsonIn (anchor : Expression) : Path → Expression
  | root s => .binary .json anchor s.expression
  | child p s => .binary .json (p.jsonIn anchor) s.expression

/-- The value at a path, as text. -/
def Path.textIn (anchor : Expression) : Path → Expression
  | root s => .binary .text anchor s.expression
  | child p s => .binary .text (p.jsonIn anchor) s.expression

/-- The spelling of the two accessors. -/
inductive Spelled : BinaryOp → String → Prop
  | json : Spelled .json "->"
  | text : Spelled .text "->>"

/-- The lexemes of an integer. -/
def integerLexemes : ℤ → List Lexeme
  | .ofNat n => [.number n]
  | .negSucc n => [.minus, .number (n + 1)]

/-- An integer as it is read: behind other operators, its sign is the last of them. -/
def integerGlyphs (i : ℤ) : List Glyph := (toString i).toList.map .char

lemma integerGlyphs_ofNat (n : ℕ) : integerGlyphs (.ofNat n) = digitGlyphs n := by
  simp [integerGlyphs, digitGlyphs, Int.toString_eq_repr, Int.repr, Nat.repr]

lemma integerGlyphs_negSucc (n : ℕ) :
    integerGlyphs (.negSucc n) = .char '-' :: digitGlyphs (n + 1) := by
  simp [integerGlyphs, digitGlyphs, Int.toString_eq_repr, Int.repr, Nat.repr]

lemma primary_integer (i : ℤ) : Primary (integerLexemes i) (.integer i) := by
  cases i with
  | ofNat n => exact primary_number n
  | negSucc n => exact primary_negative (n + 1)

lemma border_digitGlyphs (hg : ∀ g ∈ gs.getLast?, g.kind? ≠ some .word) (n : ℕ) :
    Border gs (digitGlyphs n) := by
  intro g hg' h hh'
  refine joins_eq_false fun heq => ?_
  exact absurd (heq.trans (kind?_digitGlyphs (List.mem_of_mem_head? hh'))) (hg g hg')

lemma solid_integerGlyphs (i : ℤ) : Solid (integerGlyphs i) := by
  cases i with
  | ofNat n => exact integerGlyphs_ofNat n ▸ (lexed_digits n).toSolid
  | negSucc n =>
    rw [integerGlyphs_negSucc]
    have hdigits := (lexed_digits (n + 1)).toSolid
    refine ⟨by simp, fun g hg => ?_, fun g hg => hdigits.last g ?_⟩
    · obtain rfl : .char '-' = g := by simpa using hg
      decide
    · obtain ⟨d, ds, hds⟩ := List.exists_cons_of_ne_nil hdigits.ne_nil
      simpa [hds] using hg

lemma lexed_integer (i : ℤ) : Lexed (integerGlyphs i) (integerLexemes i) := by
  refine ⟨solid_integerGlyphs i, ?_⟩
  cases i with
  | ofNat n => exact integerGlyphs_ofNat n ▸ (lexed_digits n).lexemes
  | negSucc n =>
    rw [integerGlyphs_negSucc]
    have hminus : lexemes? [.char '-'] = some [.minus] := by decide
    exact lexemes?_append hminus (lexed_digits (n + 1)).lexemes (border_digitGlyphs (by decide) _)

def Step.lexemes : Step → List Lexeme
  | key name => [.literal name.toList]
  | position i => integerLexemes i.toInt

lemma Step.primary (s : Step) : Primary s.lexemes s.expression := by
  cases s with
  | key name => exact primary_literal _
  | position i => exact primary_integer _

lemma Step.solid (s : Step) : Solid (s.piece.glyphs ag) := by
  cases s with
  | key name => exact (lexed_literal _).toSolid
  | position i => exact solid_integerGlyphs _

/-- An accessor and the step behind it. A sign is written next to the accessor, and yet is read
on its own. -/
lemma lexemes?_access {op : BinaryOp} {code : String} (hop : Spelled op code) (s : Step) :
    lexemes? (code.toList.map .char ++ s.piece.glyphs ag) = some (.operator op :: s.lexemes) := by
  have hcode : lexemes? (code.toList.map .char) = some [.operator op] := by
    cases hop <;> decide
  cases s with
  | key name =>
    refine lexemes?_append hcode (lexed_literal _).lexemes fun g _ h hh => ?_
    obtain rfl : Glyph.literal name.toList = h := by simpa [Step.piece] using hh
    cases g <;> rfl
  | position i =>
    show lexemes? (_ ++ integerGlyphs i.toInt) = some (.operator op :: integerLexemes i.toInt)
    cases i.toInt with
    | ofNat n =>
      rw [integerGlyphs_ofNat]
      refine lexemes?_append hcode (lexed_digits n).lexemes (border_digitGlyphs ?_ n)
      cases hop <;> decide
    | negSucc n =>
      -- accessor and sign are one run of operator characters
      have hsign : lexemes? (code.toList.map .char ++ [.char '-'])
          = some [.operator op, .minus] := by
        cases hop <;> decide
      rw [integerGlyphs_negSucc, List.append_cons]
      refine lexemes?_append hsign (lexed_digits (n + 1)).lexemes (border_digitGlyphs ?_ _)
      cases hop <;> decide

/-- Code that is read as an operand. -/
def Speaks (gs : List Glyph) (e : Expression) : Prop := ∃ ls, Lexed gs ls ∧ Operand ls e

/-- Code that is read as an operand, whatever waits for it. -/
def SpeaksAlone (gs : List Glyph) (e : Expression) : Prop := ∃ ls, Lexed gs ls ∧ Primary ls e

variable {e l r : Expression}

lemma SpeaksAlone.speaks (h : SpeaksAlone gs e) : Speaks gs e := by
  obtain ⟨ls, hl, hp⟩ := h
  exact ⟨ls, hl, hp.operand⟩

lemma speaksAlone_integer (i : ℤ) : SpeaksAlone (integerGlyphs i) (.integer i) :=
  ⟨_, lexed_integer i, primary_integer i⟩

lemma speaksAlone_literal (s : List Char) : SpeaksAlone [.literal s] (.literal s) :=
  ⟨_, lexed_literal s, primary_literal s⟩

lemma Speaks.access (h : Speaks gs e) {op : BinaryOp} {code : String} (hop : Spelled op code)
    (s : Step) :
    Speaks (gs ++ (code.toList.map .char ++ s.piece.glyphs ag)) (.binary op e s.expression) := by
  obtain ⟨ls, hl, ho⟩ := h
  refine ⟨_, ⟨hl.around s.solid _, lexemes?_append hl.lexemes (lexemes?_access hop s)
    (hl.border fun g hg => .inr (.inl ?_))⟩, ho.access ?_ ?_ s.primary⟩
  · obtain rfl : .char '-' = g := by cases hop <;> simpa using hg
    decide
  · cases hop <;> rfl
  · cases hop <;> rfl

lemma Path.speaks_json (h : Speaks ag anchor) (p : Path) :
    Speaks (glyphs ag p.json) (p.jsonIn anchor) := by
  induction p with
  | root s => simpa [Path.json, jsonIn] using h.access .json s
  | child p s ih => simpa [Path.json, jsonIn] using ih.access .json s

lemma Path.speaks_text (h : Speaks ag anchor) (p : Path) :
    Speaks (glyphs ag p.text) (p.textIn anchor) := by
  cases p with
  | root s => simpa [Path.text, textIn] using h.access .text s
  | child p s => simpa [Path.text, textIn] using (p.speaks_json h).access .text s

/-! ### Groups -/

/-- The value at a path where it is a number. -/
def Path.numberIn (anchor : Expression) (p : Path) : Expression :=
  .case
    (.binary (.compare .eq) (.call "jsonb_typeof".toList (p.jsonIn anchor))
      (.literal "number".toList))
    (.cast (p.textIn anchor) "numeric".toList)

/-- A spelling between blanks. -/
structure Spaced (op : BinaryOp) (code : String) : Prop where
  level : op.level < 5
  lexemes : lexemes? ((" " ++ code ++ " ").toList.map .char) = some [.operator op]

lemma spaced_compare (c : Comparison) : Spaced (.compare c) c.sql := by
  cases c <;> exact ⟨by decide, by decide⟩

lemma spaced_connect (k : Connective) : Spaced (.connect k) k.sql := by
  cases k <;> exact ⟨by decide, by decide⟩

lemma spaced_like : Spaced .like "LIKE" := ⟨by decide, by decide⟩

lemma lexemes?_group (h : lexemes? gs = some ls) :
    lexemes? (.char '(' :: (gs ++ [.char ')'])) = some (.opening :: (ls ++ [.closing])) := by
  have hopening : lexemes? [.char '('] = some [.opening] := by decide
  have hclosing : lexemes? [.char ')'] = some [.closing] := by decide
  have hrest := lexemes?_append h hclosing (border_right rfl (by decide))
  exact lexemes?_append hopening hrest (border_left rfl (by decide))

lemma solid_group (gs : List Glyph) : Solid (.char '(' :: (gs ++ [.char ')'])) := by
  have hmark (c : Char) (h : c ∈ ['(', ')']) : Solid [.char c] := by
    rcases List.mem_pair.mp h with rfl | rfl <;> exact ⟨by decide, by decide, by decide⟩
  exact (hmark '(' (by decide)).around (hmark ')' (by decide)) gs

/-- Two operands with an operator between them. -/
lemma speaksAlone_between {op : BinaryOp} {code : String} (hop : Spaced op code)
    {ps qs : List Piece} (hl : Speaks (glyphs ag ps) l) (hr : Speaks (glyphs ag qs) r) :
    SpeaksAlone (glyphs ag (between code ps qs)) (.binary op l r) := by
  obtain ⟨ls, hls, hlo⟩ := hl
  obtain ⟨ms, hms, hmo⟩ := hr
  have hcode : ∃ mid,
      (" " ++ code ++ " ").toList.map Glyph.char = .char ' ' :: (mid ++ [.char ' ']) :=
    ⟨code.toList.map .char, by simp⟩
  have hbetween : glyphs ag (between code ps qs)
      = .char '(' :: ((glyphs ag ps ++ ((" " ++ code ++ " ").toList.map .char ++ glyphs ag qs))
        ++ [.char ')']) := by
    simp [between]
  have hright := lexemes?_append hop.lexemes hms.lexemes (hms.border' ?_)
  have hinner := lexemes?_append hls.lexemes hright (hls.border ?_)
  · rw [hbetween]
    exact ⟨_, ⟨solid_group _, lexemes?_group hinner⟩, (hlo.between hop.level hmo).primary⟩
  · obtain ⟨mid, hmid⟩ := hcode
    intro g hg
    obtain rfl : .char ' ' = g := by simpa [hmid] using hg
    decide
  · obtain ⟨mid, hmid⟩ := hcode
    intro g hg
    rw [hmid, ← List.cons_append, List.getLast?_concat] at hg
    obtain rfl : .char ' ' = g := Option.some.inj hg
    decide

/-- A path that is read as a number. -/
lemma speaksAlone_number (h : Speaks ag anchor) (p : Path) :
    SpeaksAlone (glyphs ag (Term.number p).pieces) (p.numberIn anchor) := by
  obtain ⟨js, hjs, hjo⟩ := p.speaks_json h
  obtain ⟨ts, hts, hto⟩ := p.speaks_text h
  have hcase : glyphs ag (Term.number p).pieces
      = "CASE WHEN jsonb_typeof(".toList.map .char ++ (glyphs ag p.json
        ++ (") = ".toList.map .char ++ ([.literal "number".toList] ++ (" THEN (".toList.map .char
        ++ (glyphs ag p.text ++ ")::numeric END".toList.map .char))))) := by
    simp [Term.pieces]
  have hend : lexemes? (")::numeric END".toList.map .char)
      = some [.closing, .cast, .word "numeric".toList, .keyword .finish] := by decide
  have hthen : lexemes? (" THEN (".toList.map .char) = some [.keyword .result, .opening] := by
    decide
  have hequal : lexemes? (") = ".toList.map .char)
      = some [.closing, .operator (.compare .eq)] := by decide
  have hwhen : lexemes? ("CASE WHEN jsonb_typeof(".toList.map .char)
      = some [.keyword .case, .keyword .when, .word "jsonb_typeof".toList, .opening] := by decide
  -- the path is written twice, once as JSON and once as text
  have hcast := lexemes?_append hts.lexemes hend (border_right rfl (by decide))
  have hresult := lexemes?_append hthen hcast (border_left rfl (by decide))
  have hname := lexemes?_append (lexed_literal "number".toList).lexemes hresult
    (border_left rfl (by decide))
  have hguard := lexemes?_append hequal hname (border_right rfl (by decide))
  have hjson := lexemes?_append hjs.lexemes hguard (border_right rfl (by decide))
  have hlexemes := lexemes?_append hwhen hjson (border_left rfl (by decide))
  have hcall := (hjo.whole.call "jsonb_typeof".toList).operand
  have hnumber := (primary_literal "number".toList).operand
  have hcond : Whole _ (.binary (.compare .eq) _ _) := hcall.between (by decide) hnumber
  have hwhole := hcond.case (hto.whole.cast "numeric".toList)
  have hopen : Solid ("CASE WHEN jsonb_typeof(".toList.map .char) :=
    ⟨by decide, by decide, by decide⟩
  have hclose : Solid (")::numeric END".toList.map .char) := ⟨by decide, by decide, by decide⟩
  have hsolid := hopen.around hclose (glyphs ag p.json ++ (") = ".toList.map .char
    ++ ([.literal "number".toList] ++ (" THEN (".toList.map .char ++ glyphs ag p.text))))
  simp only [List.append_assoc] at hsolid
  refine ⟨_, ⟨hcase ▸ hsolid, hcase ▸ hlexemes⟩, ?_⟩
  simpa [Path.numberIn] using hwhole

end Catalog.Sql
