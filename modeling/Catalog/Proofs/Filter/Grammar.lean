import Mathlib.Data.List.Infix
import Catalog.Filter.Parser

/-!
The grammar of filters, apart from any way to parse them.

    conjunction  =  disjunction { AND disjunction }
    disjunction  =  comparison { OR comparison }
    comparison   =  member [ ( = | != | < | <= | > | >= | : ) member ]
    member       =  primary { . name | [ conjunction ] }
    primary      =  name | constant | ( conjunction )

What is repeated groups to the left, and parentheses leave nothing in the tree. Apart from the
grammar, a filter may hold only so many operators, and brackets only so many deep.
-/

namespace Catalog.Filter

/-- The kinds of phrases, from the loosest to the tightest. -/
inductive Phrase
  | conjunction
  | disjunction
  | comparison
  | member
  | primary

/-- The lexemes are a phrase of such a kind, and this is its tree. -/
inductive Derives : Phrase → List Lexeme → Expr → Prop
  | ident (name : String) : Derives .primary [.ident name] (.ident name)
  | const (c : Constant) : Derives .primary [.const c] (.const c)
  | group {ts : List Lexeme} {e : Expr} (inner : Derives .conjunction ts e) :
      Derives .primary (.opening .paren :: (ts ++ [.closing .paren])) e
  | primary {ts : List Lexeme} {e : Expr} (alone : Derives .primary ts e) : Derives .member ts e
  | select {ts : List Lexeme} {e : Expr} (base : Derives .member ts e) (name : String) :
      Derives .member (ts ++ [.dot, .ident name]) (.select e name)
  | subscript {ts is : List Lexeme} {e i : Expr} (base : Derives .member ts e)
      (index : Derives .conjunction is i) :
      Derives .member (ts ++ .opening .square :: (is ++ [.closing .square])) (.binary .index e i)
  | member {ts : List Lexeme} {e : Expr} (alone : Derives .member ts e) : Derives .comparison ts e
  | compare {ls rs : List Lexeme} {l r : Expr} (left : Derives .member ls l) (c : Sql.Comparison)
      (right : Derives .member rs r) :
      Derives .comparison (ls ++ .compare c :: rs) (.binary (.compare c) l r)
  | has {ls rs : List Lexeme} {l r : Expr} (left : Derives .member ls l)
      (right : Derives .member rs r) :
      Derives .comparison (ls ++ .colon :: rs) (.binary .has l r)
  | comparison {ts : List Lexeme} {e : Expr} (alone : Derives .comparison ts e) :
      Derives .disjunction ts e
  | or {ls rs : List Lexeme} {l r : Expr} (left : Derives .disjunction ls l)
      (right : Derives .comparison rs r) :
      Derives .disjunction (ls ++ .connect .or :: rs) (.binary (.connect .or) l r)
  | disjunction {ts : List Lexeme} {e : Expr} (alone : Derives .disjunction ts e) :
      Derives .conjunction ts e
  | and {ls rs : List Lexeme} {l r : Expr} (left : Derives .conjunction ls l)
      (right : Derives .disjunction rs r) :
      Derives .conjunction (ls ++ .connect .and :: rs) (.binary (.connect .and) l r)

/-! ### Limits -/

namespace Lexeme

def isOpening : Lexeme → Bool
  | opening _ => true
  | _ => false

def isClosing : Lexeme → Bool
  | closing _ => true
  | _ => false

end Lexeme

/-- Behind `operators` operators and inside of `depth` brackets, the lexemes stay within the limits:
in total there are not too many operators, and nowhere are too many brackets open at once. -/
structure Fits (operators depth : ℕ) (ts : List Lexeme) : Prop where
  operators_le : operators + ts.countP Lexeme.isOperator ≤ maxOperators
  depth_le : ∀ p, p <+: ts →
    depth + p.countP Lexeme.isOpening ≤ p.countP Lexeme.isClosing + maxNesting

/-- One lexeme and the rest: whatever is open before the rest, is open behind the lexeme. -/
lemma fits_cons {n n' d d' : ℕ} {t : Lexeme} {ts : List Lexeme}
    (hn : n' = n + [t].countP Lexeme.isOperator)
    (hd : d' + [t].countP Lexeme.isClosing = d + [t].countP Lexeme.isOpening) :
    Fits n d (t :: ts) ↔ d ≤ maxNesting ∧ Fits n' d' ts := by
  constructor
  · intro h
    refine ⟨by simpa using h.depth_le [] (List.nil_prefix), ?_, fun p hp => ?_⟩
    · have := h.operators_le
      rw [← List.singleton_append, List.countP_append] at this
      omega
    · have := h.depth_le (t :: p) (List.cons_prefix_cons.mpr ⟨rfl, hp⟩)
      rw [← List.singleton_append, List.countP_append, List.countP_append] at this
      omega
  · rintro ⟨hle, h⟩
    refine ⟨?_, fun p hp => ?_⟩
    · have := h.operators_le
      rw [← List.singleton_append, List.countP_append]
      omega
    · rcases List.prefix_cons_iff.mp hp with rfl | ⟨q, rfl, hq⟩
      · simpa using hle
      · have := h.depth_le q hq
        rw [← List.singleton_append, List.countP_append, List.countP_append]
        omega

lemma fits_nil {n d : ℕ} : Fits n d [] ↔ n ≤ maxOperators ∧ d ≤ maxNesting := by
  constructor
  · intro h
    exact ⟨by simpa using h.operators_le, by simpa using h.depth_le [] List.nil_prefix⟩
  · rintro ⟨hn, hd⟩
    refine ⟨by simpa using hn, fun p hp => ?_⟩
    rw [List.prefix_nil.mp hp]
    simpa using hd

/-- Where the lexemes stay within the limits, they start within them. -/
lemma Fits.start {n d : ℕ} {ts : List Lexeme} (h : Fits n d ts) :
    n ≤ maxOperators ∧ d ≤ maxNesting :=
  ⟨(Nat.le_add_right _ _).trans h.operators_le, by simpa using h.depth_le [] List.nil_prefix⟩

end Catalog.Filter
