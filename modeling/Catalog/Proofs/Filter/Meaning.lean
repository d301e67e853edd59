import Mathlib.Data.String.Basic
import Mathlib.Tactic.NormNum
import Catalog.Proofs.Filter.Clause
import Catalog.Proofs.Sql.TermEvaluation

/-!
A compiled filter means what the filter says. What a filter asks of a document is either true or
false; the condition it compiles to knows a third value, types and failures. Where the filter is
true the condition is true, where it is false the condition is false or null, and no document
makes it fail.
-/

namespace Catalog.Filter

open Catalog.Sql

/-! ### What a filter asks -/

inductive Question
  /-- The value at the path is a number, related to another one. -/
  | number (c : Comparison) (p : Path) (i : ℤ)
  | numberBefore (c : Comparison) (i : ℤ) (p : Path)
  /-- The value at the path has a text, related to another one. -/
  | text (c : Comparison) (p : Path) (s : String)
  | texts (c : Comparison) (p q : Path)
  /-- The text of the value at the path contains another one. -/
  | contains (p : Path) (s : String)
  | connect (k : Connective) (l r : Question)

/-- The number at a path. -/
def numberAt (d : Document) (p : Path) : Option ℚ := (d.value? p).bind Document.number?

def textAt (engine : Engine) (d : Document) (p : Path) : Option String :=
  (d.value? p).bind (·.text? engine.shown)

/-- The answer about one document. -/
def Question.Holds (engine : Engine) (d : Document) : Question → Prop
  | number c p i => ∃ q ∈ numberAt d p, c.Relates inferInstance q (i : ℚ)
  | numberBefore c i p => ∃ q ∈ numberAt d p, c.Relates inferInstance (i : ℚ) q
  | text c p s => ∃ t ∈ textAt engine d p, c.Relates engine.collation t s
  | texts c p q =>
    ∃ t ∈ textAt engine d p, ∃ u ∈ textAt engine d q, c.Relates engine.collation t u
  | contains p s => ∃ t ∈ textAt engine d p, s.toList <:+: t.toList
  | connect .and l r => l.Holds engine d ∧ r.Holds engine d
  | connect .or l r => l.Holds engine d ∨ r.Holds engine d

/-- The integer that a constant is. -/
def Constant.integer? : Constant → Option ℤ
  | int64 i => some i.toInt
  | uint64 u => some u.toNat
  | _ => none

/-- The text that a constant is. -/
def Constant.text? : Constant → Option String
  | string s => some s
  | bool b => some (boolText b)
  | _ => none

/-- The expression asks a question about a document. -/
inductive Asks : Expr → Question → Prop
  | number {e : Expr} {p : Path} {k : Constant} {i : ℤ} (path : Spells e p) (c : Comparison)
      (constant : k.integer? = some i) :
      Asks (.binary (.compare c) e (.const k)) (.number c p i)
  | numberBefore {e : Expr} {p : Path} {k : Constant} {i : ℤ} (path : Spells e p)
      (c : Comparison) (constant : k.integer? = some i) :
      Asks (.binary (.compare c) (.const k) e) (.numberBefore c i p)
  | text {e : Expr} {p : Path} {k : Constant} {s : String} (path : Spells e p) (c : Comparison)
      (constant : k.text? = some s) : Asks (.binary (.compare c) e (.const k)) (.text c p s)
  | texts {e f : Expr} {p q : Path} (left : Spells e p) (c : Comparison) (right : Spells f q) :
      Asks (.binary (.compare c) e f) (.texts c p q)
  | containsText {e : Expr} {p : Path} {k : Constant} {s : String} (path : Spells e p)
      (constant : k.text? = some s) : Asks (.binary .has e (.const k)) (.contains p s)
  | containsInteger {e : Expr} {p : Path} {k : Constant} {i : ℤ} (path : Spells e p)
      (constant : k.integer? = some i) :
      Asks (.binary .has e (.const k)) (.contains p (toString i))
  | connect {l r : Expr} {ql qr : Question} (k : Connective) (left : Asks l ql)
      (right : Asks r qr) : Asks (.binary (.connect k) l r) (.connect k ql qr)

/-- No text holds the character zero, and positions are integers of 32 bits. -/
def Question.Plain : Question → Prop
  | number _ p _ | numberBefore _ _ p => p.Plain
  | text _ p s | contains p s => p.Plain ∧ NulFree s
  | texts _ p q => p.Plain ∧ q.Plain
  | connect _ l r => l.Plain ∧ r.Plain

/-- Over the row, the anchor is the document. -/
inductive Addresses : String → Row → Document → Prop
  | payload {row : Row} {d : Document} (column : row "data".toList = some (.json d)) :
      Addresses payloadAnchor row d
  | project {row : Row} {name : String} (column : row "name".toList = some (.text name)) :
      Addresses projectAnchor row (.object [("name", .string name)])

/-! ### Compilation -/

def Question.term : Question → Term
  | number c p i => .compare c (.number p) (.integer i)
  | numberBefore c i p => .compare c (.integer i) (.number p)
  | text c p s => .compare c (.text p) (.literal s)
  | texts c p q => .compare c (.text p) (.text q)
  | contains p s => .contains (.text p) s
  | connect k l r => .connect k l.term r.term

lemma Question.isCondition (q : Question) : q.term.IsCondition := by
  cases q <;> trivial

variable {e : Expr} {q : Question} {k : Constant} {i : ℤ} {s : String}

lemma term?_of_integer? (h : k.integer? = some i) :
    k.term? = .ok (.integer i) ∧ k.isNumeric = true ∧ k.needle? = .ok (toString i) := by
  cases k with
  | int64 | uint64 => cases h; exact ⟨rfl, rfl, rfl⟩
  | _ => cases h

lemma checkText_eq_ok (h : NulFree s) : checkText s = .ok s := by
  rw [checkText, if_neg]
  simpa [NulFree] using h

lemma term?_of_text? (h : k.text? = some s) (hs : NulFree s) :
    k.term? = .ok (.literal s) ∧ k.isNumeric = false ∧ k.needle? = .ok s := by
  cases k with
  | string =>
    cases h
    simp [Constant.term?, Constant.needle?, checkText_eq_ok hs, Except.map, Constant.isNumeric]
  | bool => cases h; exact ⟨rfl, rfl, rfl⟩
  | _ => cases h

lemma not_isNumeric_of_spells {p : Path} (h : Spells e p) : e.isNumeric = false := by
  cases h <;> rfl

lemma Asks.checkPredicate (h : Asks e q) : e.checkPredicate = .ok () := by
  induction h with
  | connect k _ _ hl hr =>
    rw [Expr.checkPredicate_binary, hl, hr]
    rfl
  | _ => rw [Expr.checkPredicate_binary]

lemma Asks.compiles (h : Asks e q) (hq : q.Plain) : Compiles e q.term := by
  induction h with
  | number path c constant =>
    obtain ⟨hterm, hnumeric, -⟩ := term?_of_integer? constant
    simpa [Question.term, beside, Expr.isNumeric, hnumeric, not_isNumeric_of_spells path]
      using Compiles.compare c (.path path) (.const hterm)
  | numberBefore path c constant =>
    obtain ⟨hterm, hnumeric, -⟩ := term?_of_integer? constant
    simpa [Question.term, beside, Expr.isNumeric, hnumeric, not_isNumeric_of_spells path]
      using Compiles.compare c (.const hterm) (.path path)
  | text path c constant =>
    obtain ⟨hterm, hnumeric, -⟩ := term?_of_text? constant hq.2
    simpa [Question.term, beside, Expr.isNumeric, hnumeric, not_isNumeric_of_spells path]
      using Compiles.compare c (.path path) (.const hterm)
  | texts left c right =>
    simpa [Question.term, beside, not_isNumeric_of_spells left, not_isNumeric_of_spells right]
      using Compiles.compare c (.path left) (.path right)
  | containsText path constant =>
    exact .contains (.path path) (term?_of_text? constant hq.2).2.2
  | containsInteger path constant =>
    exact .contains (.path path) (term?_of_integer? constant).2.2
  | connect k _ _ hl hr => exact .connect k (hl hq.1) (hr hq.2)

lemma Asks.compile (h : Asks e q) (hq : q.Plain) (anchor : String) :
    e.compile anchor = .ok (q.term.render anchor) :=
  compile_eq_ok.mpr ⟨q.term, h.checkPredicate, h.compiles hq, rfl⟩

/-! ### Reading -/

variable {anchor : Expression} {ag : List Glyph} {name : String}

/-- The condition that a question is, over an anchor. -/
def Question.expression (anchor : Expression) : Question → Expression
  | number c p i => .binary (.compare c) (p.numberIn anchor) (.integer i)
  | numberBefore c i p => .binary (.compare c) (.integer i) (p.numberIn anchor)
  | text c p s => .binary (.compare c) (p.textIn anchor) (.literal s.toList)
  | texts c p q => .binary (.compare c) (p.textIn anchor) (q.textIn anchor)
  | contains p s => .binary .like (p.textIn anchor) (.literal (containsPattern s).toList)
  | connect k l r => .binary (.connect k) (l.expression anchor) (r.expression anchor)

lemma Question.speaks (h : Speaks ag anchor) (q : Question) :
    SpeaksAlone (glyphs ag q.term.pieces) (q.expression anchor) := by
  have hliteral (s : String) : Speaks (glyphs ag [.literal s]) (.literal s.toList) :=
    (speaksAlone_literal s.toList).speaks
  have hinteger (i : ℤ) : Speaks (glyphs ag (Term.integer i).pieces) (.integer i) := by
    simpa [Term.pieces, integerGlyphs] using (speaksAlone_integer i).speaks
  induction q with
  | number c p i =>
    exact speaksAlone_between (spaced_compare c) (speaksAlone_number h p).speaks (hinteger i)
  | numberBefore c i p =>
    exact speaksAlone_between (spaced_compare c) (hinteger i) (speaksAlone_number h p).speaks
  | text c p s => exact speaksAlone_between (spaced_compare c) (p.speaks_text h) (hliteral s)
  | texts c p q => exact speaksAlone_between (spaced_compare c) (p.speaks_text h) (q.speaks_text h)
  | contains p s => exact speaksAlone_between spaced_like (p.speaks_text h) (hliteral _)
  | connect k l r hl hr => exact speaksAlone_between (spaced_connect k) hl.speaks hr.speaks

/-- What can be sent is compiled to what can be sent. -/
lemma nulFree_pieces {q : Question} (h : q.Plain) : ∀ p ∈ q.term.pieces, p.NulFree := by
  have hcompare (c : Comparison) : NulFree c.sql := by cases c <;> decide
  have hinteger (i : ℤ) : ∀ p ∈ (Term.integer i).pieces, p.NulFree :=
    nulFree_single (nulFree_toString i)
  induction q with
  | number c p i => exact nulFree_between (hcompare c) (nulFree_number h) (hinteger i)
  | numberBefore c i p => exact nulFree_between (hcompare c) (hinteger i) (nulFree_number h)
  | text c p s => exact nulFree_between (hcompare c) (nulFree_text h.1) (nulFree_single h.2)
  | texts c p q => exact nulFree_between (hcompare c) (nulFree_text h.1) (nulFree_text h.2)
  | contains p s =>
    exact nulFree_between (by decide) (nulFree_text h.1)
      (nulFree_single (nulFree_containsPattern h.2))
  | connect k l r hl hr => exact nulFree_between (by cases k <;> decide) (hl h.1) (hr h.2)

lemma Question.expression?_render (ha : Anchored name ag) (hname : NulFree name)
    (h : Speaks ag anchor) {q : Question} (hq : q.Plain) :
    expression? (q.term.render name) = some (q.expression anchor) := by
  have hnul : NulFree (q.term.render name) := by
    rw [NulFree, toList_render]
    exact nulFree_written hname (nulFree_pieces hq)
  obtain ⟨ls, hls, hp⟩ := q.speaks h
  rw [expression?, if_pos hnul, (Term.reads ha q.isCondition).glyphs?, Option.bind_some,
    hls.lexemes, Option.bind_some, hp.finish]

/-! ### Values -/

variable {engine : Engine} {row : Row} {d : Document}

lemma Question.type? (ha : anchor.type? row = some .json) {q : Question} (hq : q.Plain) :
    (q.expression anchor).type? row = some .bool := by
  have hnumeric : SqlType.numeric.isNumeric = true := rfl
  induction q with
  | number c p i =>
    simp [Question.expression, Expression.type?, Path.type?_number ha hq,
      type?_numbers hnumeric (isNumeric_integerType i)]
  | numberBefore c i p =>
    simp [Question.expression, Expression.type?, Path.type?_number ha hq,
      type?_numbers (isNumeric_integerType i) hnumeric]
  | text c p s | contains p s =>
    simp [Question.expression, Expression.type?, Path.type?_text ha hq.1, BinaryOp.type?,
      SqlType.isText]
  | texts c p q =>
    simp [Question.expression, Expression.type?, Path.type?_text ha hq.1,
      Path.type?_text ha hq.2, BinaryOp.type?, SqlType.isText]
  | connect k l r hl hr =>
    simp [Question.expression, Expression.type?, hl hq.1, hr hq.2, BinaryOp.type?]

/-- The condition is true where the answer is yes, and false or null where it is no. -/
lemma Question.eval (ha : IsDocument engine row anchor d) (q : Question) :
    ∃ t : Option Bool, (q.expression anchor).eval engine row = .ok (t.map .bool)
      ∧ (t = some true ↔ q.Holds engine d) := by
  have hnumber (p : Path) :
      (p.numberIn anchor).eval engine row = .ok ((numberAt d p).map .number) := p.eval_number ha
  have htext (p : Path) : (p.textIn anchor).eval engine row = .ok ((textAt engine d p).map .text) :=
    p.eval_text ha
  have hliteral (s : String) :
      (Expression.literal s.toList).eval engine row = .ok (some (.text s)) := by
    rw [Expression.eval, String.ofList_toList]
  induction q with
  | number c p i =>
    refine ⟨(numberAt d p).map fun x => decide (c.Relates inferInstance x (i : ℚ)), ?_, ?_⟩
    · rw [Question.expression, eval_binary (by simp) (hnumber p) rfl]
      cases numberAt d p <;> rfl
    · simp [Question.Holds, Option.map_eq_some_iff]
  | numberBefore c i p =>
    refine ⟨(numberAt d p).map fun x => decide (c.Relates inferInstance (i : ℚ) x), ?_, ?_⟩
    · rw [Question.expression, eval_binary (by simp) rfl (hnumber p)]
      cases numberAt d p <;> rfl
    · simp [Question.Holds, Option.map_eq_some_iff]
  | text c p s =>
    refine ⟨(textAt engine d p).map fun t => decide (c.Relates engine.collation t s), ?_, ?_⟩
    · rw [Question.expression, eval_binary (by simp) (htext p) (hliteral s)]
      cases textAt engine d p <;> rfl
    · simp [Question.Holds, Option.map_eq_some_iff]
  | texts c p q =>
    refine ⟨(textAt engine d p).bind fun t => (textAt engine d q).map fun u =>
      decide (c.Relates engine.collation t u), ?_, ?_⟩
    · rw [Question.expression, eval_binary (by simp) (htext p) (htext q)]
      cases textAt engine d p <;> cases textAt engine d q <;> rfl
    · simp [Question.Holds, Option.map_eq_some_iff, Option.bind_eq_some_iff]
  | contains p s =>
    refine ⟨(textAt engine d p).map fun t =>
      matchesPattern (.any :: (s.toList.map .exactly ++ [.any])) t.toList, ?_, ?_⟩
    · rw [Question.expression, eval_binary (by simp) (htext p) (hliteral _)]
      cases textAt engine d p with
      | none => rfl
      | some t => simp [strict, BinaryOp.apply, wildcards?_containsPattern]
    · simp [Question.Holds, Option.map_eq_some_iff, matchesPattern_contains]
  | connect k l r hl hr =>
    obtain ⟨a, hla, hl⟩ := hl
    obtain ⟨b, hrb, hr⟩ := hr
    refine ⟨k.combine a b, eval_connect k hla hrb, ?_⟩
    cases k with
    | and => rw [Question.Holds, ← hl, ← hr, combine_and]
    | or => rw [Question.Holds, ← hl, ← hr, combine_or]

/-! ### Meaning -/

/-- What the anchor of a store is over its row. -/
lemma Addresses.exists_anchor (h : Addresses name row d) (engine : Engine) :
    ∃ ag anchor, Anchored name ag ∧ NulFree name ∧ Speaks ag anchor
      ∧ IsDocument engine row anchor d := by
  cases h with
  | payload column =>
    refine ⟨_, .column "data".toList, anchored_payload, by decide,
      ⟨_, ?_, (primary_word "data".toList).operand⟩, ?_, ?_⟩
    · exact ⟨⟨by decide, by decide, by decide⟩, by decide⟩
    · rw [Expression.type?, column]
      rfl
    · rw [Expression.eval, column]
  | project column =>
    refine ⟨_, .callPair "jsonb_build_object".toList (.literal "name".toList)
      (.column "name".toList), anchored_project, by decide, ?_, ?_, ?_⟩
    · refine ⟨[.word "jsonb_build_object".toList, .opening, .literal "name".toList, .comma,
        .word "name".toList, .closing], ⟨⟨by decide, by decide, by decide⟩, by decide⟩, ?_⟩
      exact Primary.operand fun k => ⟨⟨.after _, k⟩, rfl, fun _ _ => rfl⟩
    · rw [Expression.type?, Expression.type?, Expression.type?, column]
      rfl
    · rw [Expression.eval, Expression.eval, Expression.eval, column, String.ofList_toList]
      rfl

/-- **A compiled filter means what the filter says**: it compiles, its text is a condition that
fails over no row, and the condition is true exactly where the answer to what it asks is yes. -/
theorem compile_means_question {e : Expr} {q : Question} (h : Asks e q) (hq : q.Plain)
    {name : String} {row : Row} {d : Document} (ha : Addresses name row d) (engine : Engine) :
    ∃ sql x v, e.compile name = .ok sql ∧ expression? sql = some x ∧ x.type? row = some .bool
      ∧ x.eval engine row = .ok v ∧ (v = some (.bool true) ↔ q.Holds engine d) := by
  obtain ⟨ag, anchor, hanchored, hname, hspeaks, hdocument⟩ := ha.exists_anchor engine
  obtain ⟨t, heval, hholds⟩ := q.eval hdocument
  refine ⟨_, _, _, h.compile hq name, Question.expression?_render hanchored hname hspeaks hq,
    Question.type? hdocument.type hq, heval, ?_⟩
  rw [← hholds]
  rcases t with _ | _ | _ <;> simp

/-- The filter `size >= 10 AND labels["env"] : "%"` keeps a document whose size is 12.5 and whose
label holds a percent sign. -/
theorem compile_means_question_size :
    ∃ sql x,
      Expr.compile payloadAnchor
          (.binary (.connect .and) (.binary (.compare .ge) (.ident "size") (.const (.int64 10)))
            (.binary .has (.binary .index (.ident "labels") (.const (.string "env")))
              (.const (.string "%")))) = .ok sql
        ∧ expression? sql = some x
        ∧ x.eval ⟨inferInstance, fun _ => ""⟩ (fun _ => some (.json (.object
            [("size", .number ⟨125, 1⟩), ("labels", .object [("env", .string "50%")])])))
          = .ok (some (.bool true)) := by
  have hlabels : Spells (.binary .index (.ident "labels") (.const (.string "env")))
      (.child (.root (.key "labels")) (.key "env")) := .index (.ident _) rfl
  have haddresses (d : Document) : Addresses payloadAnchor (fun _ => some (.json d)) d :=
    .payload rfl
  obtain ⟨sql, x, v, hsql, hx, -, hv, hiff⟩ := compile_means_question
    (.connect .and (.number (.ident "size") .ge (k := .int64 10) (i := 10) rfl)
      (.containsText hlabels (k := .string "%") rfl))
    ⟨(by decide : NulFree "size"), ⟨(by decide : NulFree "labels"), (by decide : NulFree "env")⟩,
      by decide⟩
    (haddresses (.object
      [("size", .number ⟨125, 1⟩), ("labels", .object [("env", .string "50%")])]))
    ⟨inferInstance, fun _ => ""⟩
  refine ⟨sql, x, hsql, hx, ?_⟩
  rw [hv, hiff.mpr]
  refine ⟨⟨Numeric.value ⟨125, 1⟩, rfl, ?_⟩, "50%", rfl, by decide⟩
  show Numeric.value ⟨125, 1⟩ ≥ ((10 : ℤ) : ℚ)
  norm_num [Numeric.value]

end Catalog.Filter
