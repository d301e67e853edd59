import Catalog.Proofs.Filter.Faults
import Catalog.Proofs.Filter.Vocabulary

/-!
Why the tree of a filter text is refused. The compiler has an error for every call that it does not
know and for every number of arguments; a tree that comes from a text meets none of these, and every
error that it can meet points at a part of the tree which is to blame.
-/

namespace Catalog.Filter

variable {e x l r i : Expr} {op : Operator} {error : Error}

/-! ### Errors and parts -/

/-- The error is about a part of the expression, and the part is to blame for it. -/
inductive Blames (e : Expr) : Error → Prop
  | notAPredicate {x : Expr} (part : Part x e)
      (valued : ∀ op l r, x = .binary op l r → op = .index) : Blames e (.notAPredicate x)
  | notAPath {x : Expr} (part : Part x e) (pathless : ∀ p, ¬ Spells x p) : Blames e (.notAPath x)
  | indexOutOfRange {l : Expr} {u : UInt64} (part : Part (.binary .index l (.const (.uint64 u))) e)
      (large : 2 ^ 63 ≤ u.toNat) : Blames e (.indexOutOfRange u)
  | unsupportedIndex {l i : Expr} (part : Part (.binary .index l i) e) (unfolded : ¬ Folds i) :
      Blames e (.unsupportedIndex i)
  | notFinite {d : Number.Double} (part : Part (.const (.double d)) e)
      (infinite : d.isFinite = false) : Blames e (.notFinite d)
  | containsNul {s : String} (part : Part (.const (.string s)) e) (nul : '\x00' ∈ s.toList) :
      Blames e .containsNul
  | literalRequired {l r : Expr} (part : Part (.binary .has l r) e)
      (unwritten : ∀ c, r ≠ .const c) :
      Blames e (.literalRequired r)

/-- What is wrong with a part is wrong with the whole. -/
lemma Blames.whole (h : Blames x error) (hpart : Part x e) : Blames e error := by
  cases h with
  | notAPredicate part valued => exact .notAPredicate (part.trans hpart) valued
  | notAPath part pathless => exact .notAPath (part.trans hpart) pathless
  | indexOutOfRange part large => exact .indexOutOfRange (part.trans hpart) large
  | unsupportedIndex part unfolded => exact .unsupportedIndex (part.trans hpart) unfolded
  | notFinite part infinite => exact .notFinite (part.trans hpart) infinite
  | containsNul part nul => exact .containsNul (part.trans hpart) nul
  | literalRequired part unwritten => exact .literalRequired (part.trans hpart) unwritten

/-! ### Paths -/

lemma blames_of_step? (l : Expr) (h : i.step? = .error error) :
    Blames (.binary .index l i) error := by
  have hfolds : ¬ Folds i := by
    intro hfolds
    obtain ⟨s, hs⟩ := folds_iff.mp hfolds
    rw [hs] at h
    cases h
  cases i with
  | const c =>
    cases c with
    | int64 | string => cases h
    | uint64 u =>
      rw [Expr.step?] at h
      split at h
      · cases h
      · rename_i hlarge
        cases h
        exact .indexOutOfRange (.self _) (Nat.le_of_not_lt hlarge)
    | double | bool =>
      cases h
      exact .unsupportedIndex (.self _) hfolds
  | call | select | ident =>
    cases h
    exact .unsupportedIndex (.self _) hfolds

lemma blames_of_path? (hformed : WellFormed e) (h : e.path? = .error error) : Blames e error := by
  have hpathless : ∀ {x : Expr}, x.path? = .error (.notAPath x) → Blames x (.notAPath x) := by
    intro x hx
    refine .notAPath (.self x) fun p hp => ?_
    rw [hp.path?] at hx
    cases hx
  induction hformed with
  | ident => cases h
  | const c =>
    cases h
    exact hpathless rfl
  | select operand named ih =>
    rw [Expr.path?_select, map_eq_error] at h
    exact (ih h).whole (.select _ (.self _))
  | @binary l r op left right ihleft ihright =>
    have hpath := Expr.path?_binary op l r
    rw [h] at hpath
    split at hpath
    · rename_i hop
      subst hop
      rcases bind_eq_error.mp hpath.symm with hl | ⟨p, hp, hstep⟩
      · exact (ihleft hl).whole (part_left _ _ _)
      · rw [ofExcept_eq] at hstep
        rcases bind_eq_error.mp hstep with hi | ⟨s, hs, hok⟩
        · exact blames_of_step? l hi
        · cases hok
    · cases hpath
      exact hpathless h

/-! ### Terms -/

lemma blames_of_checkText {s : String} (h : checkText s = .error error) :
    Blames (.const (.string s)) error := by
  rw [checkText] at h
  split at h
  · rename_i hnul
    cases h
    exact .containsNul (.self _) (by simpa using hnul)
  · cases h

lemma blames_of_constant {c : Constant} (h : c.term? = .error error) : Blames (.const c) error := by
  cases c with
  | int64 | uint64 | bool => cases h
  | double d =>
    rw [Constant.term?] at h
    split at h
    · cases h
    · rename_i hinfinite
      cases h
      exact .notFinite (.self _) (by simpa using hinfinite)
  | string s => exact blames_of_checkText (map_eq_error.mp h)

lemma blames_of_needle? {c : Constant} (h : c.needle? = .error error) :
    Blames (.const c) error := by
  cases c with
  | int64 | uint64 | bool => cases h
  | double d =>
    rw [Constant.needle?] at h
    split at h
    · cases h
    · rename_i hinfinite
      cases h
      exact .notFinite (.self _) (by simpa using hinfinite)
  | string s => exact blames_of_checkText h

lemma term?_of_operandTerm (h : operandTerm e x e.term? = .error error) :
    e.term? = .error error := by
  rw [operandTerm_eq] at h
  split at h
  · split at h
    · cases h
    · exact h
  · exact h

lemma blames_of_sides {f : Sql.Term → Sql.Term → Sql.Term} {tl tr : Except Error Sql.Term}
    (hl : tl = .error error → Blames l error) (hr : tr = .error error → Blames r error)
    (h : (do return f (← tl) (← tr)) = .error error) : Blames (.binary op l r) error := by
  rcases bind_eq_error.mp h with h | ⟨a, ha, h⟩
  · exact (hl h).whole (part_left op l r)
  · rcases bind_eq_error.mp h with h | ⟨b, hb, h⟩
    · exact (hr h).whole (part_right op l r)
    · cases h

lemma blames_of_term? (hformed : WellFormed e) (h : e.term? = .error error) : Blames e error := by
  induction hformed with
  | ident => cases h
  | const c => exact blames_of_constant (by rwa [Expr.term?_const] at h)
  | select operand named ih =>
    rw [Expr.term?_select, map_eq_error] at h
    exact blames_of_path? (.select operand named) h
  | @binary l r op left right ihleft ihright =>
    rw [Expr.term?_binary] at h
    cases op with
    | index =>
      rw [Operator.term?_index] at h
      split at h
      · cases h
      · exact blames_of_sides ihleft ihright h
    | has =>
      cases r with
      | const c =>
        rw [Operator.term?_has] at h
        rcases bind_eq_error.mp h with h | ⟨a, ha, h⟩
        · exact (ihleft h).whole (part_left _ _ _)
        · rcases bind_eq_error.mp h with h | ⟨b, hb, h⟩
          · exact (blames_of_needle? h).whole (part_right _ _ _)
          · cases h
      | call | select | ident =>
        cases h
        exact .literalRequired (.self _) fun c heq => by cases heq
    | compare c =>
      exact blames_of_sides (fun hl => ihleft (term?_of_operandTerm hl))
        (fun hr => ihright (term?_of_operandTerm hr)) h
    | connect k => exact blames_of_sides ihleft ihright h

/-! ### Conditions -/

lemma blames_of_checkPredicate (hformed : WellFormed e) (h : e.checkPredicate = .error error) :
    Blames e error := by
  induction hformed with
  | ident | const | select =>
    cases h
    exact .notAPredicate (.self _) fun op l r heq => by cases heq
  | @binary l r op left right ihleft ihright =>
    rw [Expr.checkPredicate_binary] at h
    cases op with
    | connect k =>
      rcases bind_eq_error.mp h with hl | ⟨_, -, hr⟩
      · exact (ihleft hl).whole (part_left _ _ _)
      · exact (ihright hr).whole (part_right _ _ _)
    | index =>
      cases h
      exact .notAPredicate (.self _) fun op' l' r' heq => (binary_inj.mp heq).1.symm
    | compare | has => cases h

/-! ### Texts -/

lemma WellFormed.eq_binary {f : String} {args : List Expr} (h : WellFormed (.call f args)) :
    ∃ (op : Operator) (l r : Expr), f = op.function ∧ args = [l, r] := by
  generalize he : Expr.call f args = e at h
  cases h with
  | ident | const | select => cases he
  | @binary l r op =>
    cases he
    exact ⟨op, l, r, rfl, rfl⟩

/-- The names of functions. -/
def functions : List String :=
  ["_==_", "_!=_", "_>_", "_>=_", "_<_", "_<=_", "_&&_", "_||_", "_[_]", "_:_"]

lemma function_mem_functions (op : Operator) : op.function ∈ functions := by
  cases op with
  | compare c => cases c <;> decide
  | connect k => cases k <;> decide
  | index | has => decide

/-- **A filter text is refused for its syntax or for a part of its tree**: in the tree of a text
each call has one of the ten functions and two arguments, and each name is a word and no keyword. So
compilation never fails at an unknown function or at a number of arguments: behind the parser, the
error is about a part that is no condition, no path, an index out of range or of no use, a number
that is not finite, a text with a NUL, or a containment test for what is not written out. -/
theorem compile_error_blames (text : String) :
    (∀ e, parse text = .ok e →
      (∀ f args, Part (.call f args) e → f ∈ functions ∧ args.length = 2)
      ∧ (∀ name, Part (.ident name) e → IsName name)
      ∧ ∀ o field, Part (.select o field) e → IsName field)
    ∧ ∀ anchor error, compile anchor text = .error error →
      (∀ f, error ≠ .unsupportedFunction f) ∧ (∀ f n, error ≠ .wrongArity f n)
      ∧ ((∃ offset fault, error = .parse offset fault ∧ parse text = .error error)
        ∨ ∃ e, parse text = .ok e ∧ Blames e error) := by
  refine ⟨fun e he => ?_, fun anchor error h => ?_⟩
  · have hformed := wellFormed_of_parse he
    refine ⟨fun f args hpart => ?_, fun name hpart => ?_, fun o field hpart => ?_⟩
    · obtain ⟨op, l, r, rfl, rfl⟩ := (hformed.part hpart).eq_binary
      exact ⟨function_mem_functions op, rfl⟩
    · cases hformed.part hpart with
      | ident named => exact named
    · cases hformed.part hpart with
      | select _ named => exact named
  · rcases bind_eq_error.mp (map_eq_error.mp h) with hparse | ⟨e, he, hcondition⟩
    · obtain ⟨offset, fault, rfl, -⟩ := isValid_of_parse hparse
      exact ⟨by simp, by simp, .inl ⟨offset, fault, rfl, hparse⟩⟩
    · have hformed := wellFormed_of_parse he
      have hblames : Blames e error := by
        rcases bind_eq_error.mp hcondition with hcheck | ⟨_, -, hterm⟩
        · exact blames_of_checkPredicate hformed hcheck
        · exact blames_of_term? hformed hterm
      refine ⟨?_, ?_, .inr ⟨e, he, hblames⟩⟩
      · rintro f rfl
        cases hblames
      · rintro f n rfl
        cases hblames

/-- What a containment test looks for is written out, and a name is not. -/
theorem compile_error_blames_unwritten :
    (∀ f args, Part (.call f args) (.binary .has (.ident "d") (.ident "x")) →
        f ∈ functions ∧ args.length = 2)
      ∧ (∀ name, Part (.ident name) (.binary .has (.ident "d") (.ident "x")) → IsName name)
      ∧ Blames (.binary .has (.ident "d") (.ident "x")) (.literalRequired (.ident "x")) := by
  have htokens : tokenize "d : x" = .ok [⟨.ident "d", 0⟩, ⟨.colon, 2⟩, ⟨.ident "x", 4⟩] :=
    toOption_eq_some.mp (by decide +kernel)
  have hparse : parse "d : x" = .ok (.binary .has (.ident "d") (.ident "x")) := by
    rw [parse, htokens]
    rfl
  have hcompile : compile payloadAnchor "d : x" = .error (.literalRequired (.ident "x")) := by
    rw [compile, condition?, hparse]
    rfl
  obtain ⟨htree, herror⟩ := compile_error_blames "d : x"
  obtain ⟨hcalls, hnames, -⟩ := htree _ hparse
  refine ⟨hcalls, hnames, ?_⟩
  rcases (herror _ _ hcompile).2.2 with ⟨_, _, heq, -⟩ | ⟨e, he, hblames⟩
  · cases heq
  · rw [hparse] at he
    cases he
    exact hblames

end Catalog.Filter
