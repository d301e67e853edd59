import Catalog.Proofs.Filter.Literals
import Catalog.Proofs.Sql.Expression
import Catalog.Proofs.Sql.Pattern

/-!
What a containment test finds. The constant is written into a pattern, and the pattern into a
literal; read back through both, it matches the texts in which the constant occurs, whatever
wildcards, escapes and quotes the constant holds.
-/

namespace Catalog.Sql

/-! ### Escapes -/

/-- The text with an escape before each `c`. -/
def escapeChar (c : Char) (cs : List Char) : List Char :=
  cs.flatMap fun d => if d = c then ['\\', d] else [d]

lemma escapeChar_cons (c d : Char) (cs : List Char) :
    escapeChar c (d :: cs) = (if d = c then ['\\', d] else [d]) ++ escapeChar c cs := rfl

/-- The escapes of a pattern can be written one kind of character after the other, if the escape
itself comes first: those that stand before the wildcards are not escaped again. -/
theorem escapePattern_eq_escapeChar (cs : List Char) :
    escapePattern cs = escapeChar '_' (escapeChar '%' (escapeChar '\\' cs)) := by
  induction cs with
  | nil => rfl
  | cons c cs ih =>
    rw [escapePattern, List.flatMap_cons, ← escapePattern, ih, escapeChar_cons]
    by_cases hbackslash : c = '\\'
    · subst hbackslash
      rfl
    · rw [if_neg hbackslash, List.singleton_append, escapeChar_cons]
      by_cases hpercent : c = '%'
      · subst hpercent
        rfl
      · rw [if_neg hpercent, List.singleton_append, escapeChar_cons]
        simp [hbackslash, hpercent]

/-! ### The literal of a test -/

/-- What is written as a literal is read back as it was. -/
lemma glyphs?_quoteLiteral (s : String) : glyphs? (quoteLiteral s) = some [.literal s.toList] := by
  have h : glyphsFrom (some []) (doubleQuotes s.toList ++ ['\'']) = _ :=
    glyphsFrom_literal s.toList (by simp) []
  rw [glyphs?, quoteLiteral, String.toList_ofList, List.cons_append, glyphsFrom, h]
  rfl

lemma render_contains (anchor : String) (l : Term) (s : String) :
    (Term.contains l s).render anchor
      = "(" ++ l.render anchor ++ " LIKE " ++ quoteLiteral (containsPattern s) ++ ")" := by
  rw [← String.toList_inj]
  simp [toList_render, Term.pieces, between, written, Piece.render]

end Catalog.Sql

namespace Catalog.Filter

open Catalog.Number Catalog.Sql

/-- The constants that a containment test can look for. -/
def Constant.Searchable : Constant → Prop
  | string s => NulFree s
  | double d => d.isFinite = true
  | int64 _ | uint64 _ | bool _ => True

lemma needle?_eq_ok {c : Constant} {s : String} :
    c.needle? = .ok s ↔ c.Searchable ∧ s = c.plainText := by
  cases c with
  | int64 | uint64 | bool =>
    simp [Constant.needle?, Constant.Searchable, Constant.plainText, eq_comm]
  | double d =>
    by_cases hd : d.isFinite = true
    · simp [Constant.needle?, Constant.Searchable, Constant.plainText, hd, eq_comm]
    · simp [Constant.needle?, Constant.Searchable, hd]
  | string t =>
    by_cases ht : '\x00' ∈ t.toList
    · simp [Constant.needle?, Constant.Searchable, checkText, NulFree, ht]
    · simp [Constant.needle?, Constant.Searchable, Constant.plainText, checkText, NulFree, ht,
        eq_comm]

lemma term?_has {l : Expr} {c : Constant} {t : Term} :
    (Expr.binary .has l (.const c)).term? = .ok t ↔
      c.Searchable ∧ ∃ left, l.term? = .ok left ∧ t = .contains left c.plainText := by
  rw [Expr.term?_binary, Operator.term?_has]
  constructor
  · intro h
    obtain ⟨left, hleft, h⟩ := bind_eq_ok.mp h
    obtain ⟨s, hs, h⟩ := bind_eq_ok.mp h
    obtain ⟨hc, rfl⟩ := needle?_eq_ok.mp hs
    exact ⟨hc, left, hleft, (Except.ok.inj h).symm⟩
  · rintro ⟨hc, left, hleft, rfl⟩
    exact bind_eq_ok.mpr ⟨left, hleft, bind_eq_ok.mpr ⟨_, needle?_eq_ok.mpr ⟨hc, rfl⟩, rfl⟩⟩

/-- **A containment test looks for a text as it stands**: there is one for every constant but a text
with the character zero and a number that is not finite. Its literal quotes the text with escapes
before backslashes, percent signs and underscores, in this order; it is read back as a pattern that
does not end in an escape, and that matches a text if and only if the text of the constant occurs
there. -/
theorem has_finds_occurrences (c : Constant) :
    (∀ l t, (Expr.binary .has l (.const c)).term? = .ok t ↔
      c.Searchable ∧ ∃ left, l.term? = .ok left ∧ t = .contains left c.plainText)
    ∧ ∃ literal pattern ws,
        (∀ anchor left, (Term.contains left c.plainText).render anchor
          = "(" ++ left.render anchor ++ " LIKE " ++ literal ++ ")")
        ∧ literal = quoteLiteral (String.ofList
          ('%' :: escapeChar '_' (escapeChar '%' (escapeChar '\\' c.plainText.toList)) ++ ['%']))
        ∧ glyphs? literal = some [.literal pattern]
        ∧ wildcards? pattern = some ws
        ∧ ∀ text, matchesPattern ws text = true ↔ c.plainText.toList <:+: text := by
  have hliteral := glyphs?_quoteLiteral (containsPattern c.plainText)
  have hpattern := wildcards?_containsPattern c.plainText
  refine ⟨fun l t => term?_has, _, _, _,
    fun anchor left => render_contains anchor left c.plainText, ?_,
    hliteral, hpattern, matchesPattern_contains c.plainText⟩
  rw [containsPattern, escapePattern_eq_escapeChar]

example : wildcards? (containsPattern "5%\\").toList
    = some [.any, .exactly '5', .exactly '%', .exactly '\\', .any] := by decide

end Catalog.Filter
