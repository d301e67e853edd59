import Catalog.Proofs.Filter.Literals
import Catalog.Proofs.Sql.TermReading

/-!
Filters that compile to one SQL text. A clause is told apart glyph by glyph, and the term that is
read from it leaves open how an expression spells a few things: a member of a path may be named
behind a dot or in brackets, an integer may be signed or unsigned, a truth value may be given as
its word, and a containment test forgets the type of what it looks for. Nothing else is left open,
so operators, names and the texts of constants can all be read off the SQL.
-/

namespace Catalog.Filter

open Catalog.Number Catalog.Sql Constant

/-- The expressions differ at most in how they spell the same things, wherever these stand. -/
inductive Interchangeable : Expr → Expr → Prop
  | refl (e : Expr) : Interchangeable e e
  | symm {e e' : Expr} (h : Interchangeable e e') : Interchangeable e' e
  | trans {e e' e'' : Expr} (h : Interchangeable e e') (h' : Interchangeable e' e'') :
      Interchangeable e e''
  | operand {e e' : Expr} (h : Interchangeable e e') (field : String) :
      Interchangeable (.select e field) (.select e' field)
  | argument {e e' : Expr} (f : String) (before after : List Expr) (h : Interchangeable e e') :
      Interchangeable (.call f (before ++ e :: after)) (.call f (before ++ e' :: after))
  /-- A member of a path, behind a dot or in brackets. -/
  | member {e : Expr} {p : Path} (path : Spells e p) (field : String) :
      Interchangeable (.select e field) (.binary .index e (.const (string field)))
  | integer {i : Int64} {u : UInt64} (value : i.toInt = u.toNat) :
      Interchangeable (.const (int64 i)) (.const (uint64 u))
  | bool (b : Bool) : Interchangeable (.const (bool b)) (.const (string (boolText b)))
  | decimal {d d' : Double} (finite : d.isFinite) (finite' : d'.isFinite)
      (places : d.fixed 6 = d'.fixed 6) :
      Interchangeable (.const (double d)) (.const (double d'))
  /-- Constants that a containment test looks for by the same text. -/
  | needle (l : Expr) {c c' : Constant} {s : String} (text : c.needle? = .ok s)
      (text' : c'.needle? = .ok s) :
      Interchangeable (.binary .has l (.const c)) (.binary .has l (.const c'))

lemma Interchangeable.binary (op : Operator) {l l' r r' : Expr} (hl : Interchangeable l l')
    (hr : Interchangeable r r') : Interchangeable (.binary op l r) (.binary op l' r') :=
  (Interchangeable.argument op.function [] [r] hl).trans
    (.argument op.function [l'] [] hr)

/-! ### What is kept -/

mutual

/-- The expression with all members in brackets and all constants as the texts that they show. -/
def Expr.plain : Expr → Expr
  | .call f args => .call f (plainAll args)
  | .select e field => .binary .index e.plain (.const (string field))
  | .ident name => .ident name
  | .const c => .const (string c.plainText)

def plainAll : List Expr → List Expr
  | [] => []
  | e :: es => e.plain :: plainAll es

end

lemma plainAll_append (es es' : List Expr) :
    plainAll (es ++ es') = plainAll es ++ plainAll es' := by
  induction es with
  | nil => rfl
  | cons e es ih => rw [List.cons_append, plainAll, ih, plainAll, List.cons_append]

/-- Operators, names and the texts of constants are the same in interchangeable expressions. -/
lemma Interchangeable.plain_eq {e e' : Expr} (h : Interchangeable e e') : e.plain = e'.plain := by
  induction h with
  | refl => rfl
  | symm _ ih => exact ih.symm
  | trans _ _ ih ih' => exact ih.trans ih'
  | operand _ field ih => rw [Expr.plain, Expr.plain, ih]
  | argument f before after _ ih =>
    rw [Expr.plain, Expr.plain, plainAll_append, plainAll_append, plainAll, plainAll, ih]
  | member path field => rfl
  | @integer i u value =>
    simp only [Expr.plain, plainText, value]
    rfl
  | bool b => rfl
  | decimal finite finite' places => rw [Expr.plain, Expr.plain, plainText, plainText, places]
  | needle l text text' =>
    simp only [Expr.binary, Expr.plain, plainAll]
    rw [← plainText_of_needle? text, ← plainText_of_needle? text']

/-! ### Paths -/

lemma eq_string_of_step? {i : Expr} {name : String} (h : i.step? = .ok (.key name)) :
    i = .const (string name) := by
  unfold Expr.step? at h
  split at h
  · simp at h
  · split at h <;> simp at h
  · rw [Step.key.inj (Except.ok.inj h)]
  · simp at h

lemma eq_integer_of_step? {i : Expr} {n : Int64} (h : i.step? = .ok (.position n)) :
    i = .const (int64 n) ∨ ∃ u, i = .const (uint64 u) ∧ n.toInt = u.toNat := by
  unfold Expr.step? at h
  split at h
  · exact .inl (by rw [Step.position.inj (Except.ok.inj h)])
  · rename_i u
    split at h
    · rename_i hu
      refine .inr ⟨u, rfl, ?_⟩
      have hlow : u.toNat < 2 ^ 63 := hu
      have hvalue : 2 * u.toBitVec.toNat < 2 ^ 64 := by
        rw [UInt64.toNat_toBitVec]
        omega
      rw [← Step.position.inj (Except.ok.inj h)]
      exact BitVec.toInt_eq_toNat_of_lt hvalue
    · simp at h
  · simp at h
  · simp at h

/-- Indices that lead to one place. -/
lemma interchangeable_of_step? {i i' : Expr} {s : Step} (h : i.step? = .ok s)
    (h' : i'.step? = .ok s) : Interchangeable i i' := by
  cases s with
  | key name =>
    rw [eq_string_of_step? h, eq_string_of_step? h']
    exact .refl _
  | position n =>
    have hsigned : ∀ {i : Expr}, i.step? = .ok (.position n) →
        Interchangeable (.const (int64 n)) i := by
      intro i hi
      rcases eq_integer_of_step? hi with rfl | ⟨u, rfl, hu⟩
      · exact .refl _
      · exact .integer hu
    exact (hsigned h).symm.trans (hsigned h')

lemma Spells.interchangeable {e e' : Expr} {p : Path} (h : Spells e p) (h' : Spells e' p) :
    Interchangeable e e' := by
  induction h generalizing e' with
  | ident name =>
    cases h'
    exact .refl _
  | @select e p field parent ih =>
    cases h' with
    | select _ parent' => exact (ih parent').operand field
    | index parent' step' =>
      rw [eq_string_of_step? step']
      exact ((ih parent').operand field).trans (.member parent' field)
  | @index l i p s parent step ih =>
    cases h' with
    | select field parent' =>
      rw [eq_string_of_step? step]
      exact (Interchangeable.member parent field).symm.trans ((ih parent').operand field)
    | index parent' step' => exact (ih parent').binary .index (interchangeable_of_step? step step')

/-! ### Constants -/

/-- A constant is a number or a literal. -/
lemma Constant.atom_of_term? {c : Constant} {t : Term} (h : c.term? = .ok t) :
    (∃ n, t = .integer n) ∨ (∃ d, t = .decimal d) ∨ ∃ s, t = .literal s := by
  cases c with
  | int64 i => exact .inl ⟨_, (Except.ok.inj h).symm⟩
  | uint64 u => exact .inl ⟨_, (Except.ok.inj h).symm⟩
  | double d =>
    rw [Constant.term?] at h
    split at h
    · exact .inr (.inl ⟨d, (Except.ok.inj h).symm⟩)
    · simp at h
  | string s =>
    obtain ⟨s', -, rfl⟩ := map_eq_ok.mp h
    exact .inr (.inr ⟨s', rfl⟩)
  | bool b => exact .inr (.inr ⟨_, (Except.ok.inj h).symm⟩)

lemma Constant.of_term?_integer {c : Constant} {n : Int} (h : c.term? = .ok (.integer n)) :
    (∃ i : Int64, c = int64 i ∧ i.toInt = n)
      ∨ ∃ u : UInt64, c = uint64 u ∧ (u.toNat : Int) = n := by
  cases c with
  | int64 i => exact .inl ⟨i, rfl, Term.integer.inj (Except.ok.inj h)⟩
  | uint64 u => exact .inr ⟨u, rfl, Term.integer.inj (Except.ok.inj h)⟩
  | double d =>
    rw [Constant.term?] at h
    split at h <;> simp at h
  | string s => simp [Constant.term?, map_eq_ok] at h
  | bool b => simp [Constant.term?] at h

lemma Constant.of_term?_decimal {c : Constant} {d : Double} (h : c.term? = .ok (.decimal d)) :
    c = double d ∧ d.isFinite := by
  cases c with
  | double d' =>
    rw [Constant.term?] at h
    split at h
    · rename_i hfinite
      obtain rfl := Term.decimal.inj (Except.ok.inj h)
      exact ⟨rfl, hfinite⟩
    · simp at h
  | string s => simp [Constant.term?, map_eq_ok] at h
  | _ => simp [Constant.term?] at h

/-- What stands in a literal is a text, or the word for a truth value. -/
lemma Constant.of_term?_literal {c : Constant} {s : String} (h : c.term? = .ok (.literal s)) :
    Interchangeable (.const c) (.const (string s)) := by
  cases c with
  | double d =>
    rw [Constant.term?] at h
    split at h <;> simp at h
  | string s' =>
    obtain ⟨s'', hs, h⟩ := map_eq_ok.mp h
    obtain rfl := Term.literal.inj h
    rw [checkText] at hs
    split at hs
    · simp at hs
    · rw [Except.ok.inj hs]
      exact .refl _
  | bool b =>
    obtain rfl := Term.literal.inj (Except.ok.inj h)
    exact .bool b
  | _ => simp [Constant.term?] at h

/-- Numbers that are read from one integer. -/
lemma interchangeable_of_integer {c c' : Constant} {n : Int} (h : c.term? = .ok (.integer n))
    (h' : c'.term? = .ok (.integer n)) : Interchangeable (.const c) (.const c') := by
  rcases Constant.of_term?_integer h with ⟨i, rfl, rfl⟩ | ⟨u, rfl, rfl⟩ <;>
    rcases Constant.of_term?_integer h' with ⟨i', rfl, hi⟩ | ⟨u', rfl, hu⟩
  · rw [Int64.toInt_inj.mp hi]
    exact .refl _
  · exact .integer hu.symm
  · exact .symm (.integer hi)
  · rw [UInt64.toNat_inj.mp (Int.ofNat.inj hu)]
    exact .refl _

/-! ### Terms -/

/-- A number that is read at a path, as the path itself. -/
def bare : Term → Term
  | .number p => .text p
  | t => t

lemma Compiles.bare_beside {e : Expr} {t : Term} (h : Compiles e t) (other : Expr) :
    bare (beside other t) = t := by
  cases h with
  | path spells =>
    rw [beside]
    split <;> rfl
  | const term =>
    rcases Constant.atom_of_term? term with ⟨n, rfl⟩ | ⟨d, rfl⟩ | ⟨s, rfl⟩ <;> rfl
  | _ => rfl

lemma alike_bare {t t' : Term} (h : t.Alike t') : (bare t).Alike (bare t') := by
  cases h with
  | number p => exact .text p
  | text p => exact .text p
  | integer i => exact .integer i
  | decimal places => exact .decimal places
  | literal s => exact .literal s
  | compare c hl hr => exact .compare c hl hr
  | connect k hl hr => exact .connect k hl hr
  | contains hl s => exact .contains hl s
  | subscript hl hi => exact .subscript hl hi

/-- Expressions whose terms are alike. -/
lemma Compiles.interchangeable {e e' : Expr} {t t' : Term} (h : Compiles e t)
    (h' : Compiles e' t') (halike : t.Alike t') : Interchangeable e e' := by
  induction h generalizing e' t' with
  | path spells =>
    cases halike
    exact spells.interchangeable h'.spells
  | const term =>
    rcases Constant.atom_of_term? term with ⟨n, rfl⟩ | ⟨d, rfl⟩ | ⟨s, rfl⟩
    · cases halike
      cases h' with
      | const term' => exact interchangeable_of_integer term term'
    · cases halike with
      | decimal places =>
        cases h' with
        | const term' =>
          obtain ⟨rfl, hd⟩ := Constant.of_term?_decimal term
          obtain ⟨rfl, hd'⟩ := Constant.of_term?_decimal term'
          exact .decimal hd hd' places
    · cases halike
      cases h' with
      | const term' =>
        exact (Constant.of_term?_literal term).trans (Constant.of_term?_literal term').symm
  | subscript pathless left index hl hi =>
    cases halike with
    | subscript halikel halikei =>
      cases h' with
      | const term' => simpa using Constant.atom_of_term? term'
      | subscript pathless' left' index' =>
        exact (hl left' halikel).binary .index (hi index' halikei)
  | @contains l c tl s left needle hl =>
    cases halike with
    | contains halikel =>
      cases h' with
      | const term' => simpa using Constant.atom_of_term? term'
      | contains left' needle' =>
        exact ((hl left' halikel).binary .has (.refl _)).trans (.needle _ needle needle')
  | compare c left right hl hr =>
    cases halike with
    | compare _ halikel haliker =>
      cases h' with
      | const term' => simpa using Constant.atom_of_term? term'
      | compare _ left' right' =>
        have hleft := alike_bare halikel
        have hright := alike_bare haliker
        rw [left.bare_beside, left'.bare_beside] at hleft
        rw [right.bare_beside, right'.bare_beside] at hright
        exact (hl left' hleft).binary (.compare c) (hr right' hright)
  | connect k left right hl hr =>
    cases halike with
    | connect _ halikel haliker =>
      cases h' with
      | const term' => simpa using Constant.atom_of_term? term'
      | connect _ left' right' =>
        exact (hl left' halikel).binary (.connect k) (hr right' haliker)

/-! ### Clauses -/

lemma IsAnchor.begins {anchor : String} (h : IsAnchor anchor) :
    ∃ ag, Anchored anchor ag ∧ Begins .path ag := by
  rcases h with rfl | rfl
  · exact ⟨_, anchored_payload, .char 'd', _, rfl, by decide⟩
  · exact ⟨_, anchored_project, .char 'j', _, rfl, by decide⟩

/-- **Different filters never share SQL**: over each of the two anchors, expressions that compile
to one text differ at most in how they spell the same things, and so have the same operators,
names and texts. -/
theorem interchangeable_of_compile_eq {anchor sql : String} (ha : IsAnchor anchor) {e e' : Expr}
    (h : e.compile anchor = .ok sql) (h' : e'.compile anchor = .ok sql) :
    Interchangeable e e' ∧ e.plain = e'.plain := by
  obtain ⟨ag, hanchored, hbegins⟩ := ha.begins
  obtain ⟨t, hc, hreads, -⟩ := clause_reads hanchored h
  obtain ⟨t', hc', hreads', -⟩ := clause_reads hanchored h'
  have hglyphs : glyphs ag t.pieces = glyphs ag t'.pieces :=
    Option.some.inj (hreads.glyphs?.symm.trans hreads'.glyphs?)
  have hsame := hc.interchangeable hc' (Term.alike_of_glyphs_eq hbegins hglyphs)
  exact ⟨hsame, hsame.plain_eq⟩

/-- A truth value and a needle, given through a path. -/
def flagged (flag : Expr) (truth needle : Constant) : Expr :=
  .binary (.connect .and) (.binary (.compare .eq) flag (.const truth))
    (.binary .has (.ident "d") (.const needle))

/-- All that is left open at once: the member, the truth value and the type of the needle. -/
theorem interchangeable_of_compile_eq_flagged :
    ∃ sql, (flagged (.select (.ident "a") "b") (.bool true) (.int64 5)).compile payloadAnchor
        = .ok sql
      ∧ Interchangeable (flagged (.select (.ident "a") "b") (.bool true) (.int64 5))
        (flagged (.binary .index (.ident "a") (.const (string "b"))) (string "true")
          (string "5")) := by
  have hsql : (flagged (.select (.ident "a") "b") (.bool true) (.int64 5)).compile payloadAnchor
      = .ok _ := rfl
  have hsql' : (flagged (.binary .index (.ident "a") (.const (string "b"))) (string "true")
      (string "5")).compile payloadAnchor = .ok _ := rfl
  exact ⟨_, hsql, (interchangeable_of_compile_eq (.inl rfl) hsql hsql').1⟩

end Catalog.Filter
