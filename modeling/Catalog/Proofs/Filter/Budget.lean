import Catalog.Proofs.Filter.Faults
import Catalog.Proofs.Filter.Vocabulary

/-!
What one filter may cost. The parser keeps few brackets open and counts operators; every operator
becomes one branching node of the tree, so few operators keep the tree small and low. What walks
down the tree needs no more levels than the tree has: with as many levels to go it never gives up.
-/

namespace Catalog.Filter

open Catalog.Sql
open Descent (down)

variable {e x l r : Expr} {op : Operator} {p : Phrase} {s s' : State} {ts : List Lexeme} {n : ℕ}

/-! ### The measures of a tree -/

mutual

/-- The calls and selections of an expression. -/
def Expr.branches : Expr → ℕ
  | .call _ args => branchesAll args + 1
  | .select e _ => e.branches + 1
  | .ident _ | .const _ => 0

def branchesAll : List Expr → ℕ
  | [] => 0
  | e :: es => e.branches + branchesAll es

end

mutual

/-- The nodes of an expression. -/
def Expr.size : Expr → ℕ
  | .call _ args => sizeAll args + 1
  | .select e _ => e.size + 1
  | .ident _ | .const _ => 1

def sizeAll : List Expr → ℕ
  | [] => 0
  | e :: es => e.size + sizeAll es

end

mutual

/-- The levels of an expression. -/
def Expr.height : Expr → ℕ
  | .call _ args => heightAll args + 1
  | .select e _ => e.height + 1
  | .ident _ | .const _ => 1

def heightAll : List Expr → ℕ
  | [] => 0
  | e :: es => max e.height (heightAll es)

end

lemma branches_binary : (Expr.binary op l r).branches = l.branches + r.branches + 1 := rfl

lemma size_binary : (Expr.binary op l r).size = l.size + r.size + 1 := rfl

lemma height_binary : (Expr.binary op l r).height = max l.height r.height + 1 := by
  rw [Expr.binary, Expr.height, heightAll, heightAll, heightAll, Nat.max_zero]

/-- Each operator of a text is one node that branches. -/
lemma Derives.branches (h : Derives p ts e) : e.branches = ts.countP Lexeme.isOperator := by
  induction h with
  | ident | const => rfl
  | group _ ih => simp [ih, Lexeme.isOperator]
  | primary _ ih | member _ ih | comparison _ ih | disjunction _ ih => exact ih
  | select _ name ih => simp [Expr.branches, ih, List.countP_cons, Lexeme.isOperator]
  | subscript _ _ ihl ihr | compare _ _ _ ihl ihr | has _ _ ihl ihr | or _ _ ihl ihr
  | and _ _ ihl ihr =>
    simp [branches_binary, ihl, ihr, List.countP_cons, Lexeme.isOperator]
    omega

/-- A node that branches has at most two branches. -/
lemma WellFormed.size_le (h : WellFormed e) : e.size ≤ 2 * e.branches + 1 := by
  induction h with
  | ident | const => exact Nat.le_refl 1
  | select _ _ ih =>
    simp only [Expr.size, Expr.branches]
    omega
  | binary op _ _ ihl ihr =>
    rw [size_binary, branches_binary]
    omega

lemma WellFormed.height_le (h : WellFormed e) : e.height ≤ e.branches + 1 := by
  induction h with
  | ident | const => exact Nat.le_refl 1
  | select _ _ ih =>
    simp only [Expr.height, Expr.branches]
    omega
  | binary op _ _ ihl ihr =>
    rw [height_binary, branches_binary]
    omega

lemma height_le_heightAll {a : Expr} {args : List Expr} (h : a ∈ args) :
    a.height ≤ heightAll args := by
  induction args with
  | nil => cases h
  | cons b args ih =>
    rw [heightAll]
    rcases List.mem_cons.mp h with rfl | h
    · exact Nat.le_max_left _ _
    · exact (ih h).trans (Nat.le_max_right _ _)

lemma height_le_of_mem {a : Expr} {f : String} {args : List Expr}
    (h : (Expr.call f args).height ≤ n + 1) (ha : a ∈ args) : a.height ≤ n := by
  rw [Expr.height, Nat.add_le_add_iff_right] at h
  exact (height_le_heightAll ha).trans h

lemma Part.height_le (h : Part x e) : x.height ≤ e.height := by
  induction h with
  | self => exact Nat.le_refl _
  | call arg _ ih =>
    rw [Expr.height]
    exact ih.trans ((height_le_heightAll arg).trans (Nat.le_succ _))
  | select _ _ ih => exact ih.trans (Nat.le_succ _)

/-! ### Walks down a tree -/

/-- A walk that has so many levels to go down, and gives up where it would go further. -/
abbrev Descending := ReaderT ℕ (ExceptT Error Option)

instance : Descent Descending where
  down walk levels :=
    match levels with
    | 0 => none
    | n + 1 => walk n

/-- The path of an expression, if it is found within so many levels. -/
def Expr.pathWithin (n : ℕ) (e : Expr) : Option (Except Error Path) :=
  (down (e.pathIn Descending)).run n

/-- The term of an expression, if it is found within so many levels. -/
def Expr.termWithin (n : ℕ) (e : Expr) : Option (Except Error Term) :=
  (down (e.termIn Descending)).run n

/-- The check of an expression, if it ends within so many levels. -/
def Expr.checkWithin (n : ℕ) (e : Expr) : Option (Except Error Unit) :=
  (down (e.checkIn Descending)).run n

section EndsAs

variable {α β : Type} {x : Descending α} {y : Except Error α}

/-- With so many levels to go, the one walk ends as the other does whose levels nobody counts. -/
def EndsAs (n : ℕ) (x : Descending α) (y : Except Error α) : Prop :=
  x.run n = some y

lemma endsAs_ofExcept (y : Except Error α) :
    EndsAs n (MonadExcept.ofExcept y) (MonadExcept.ofExcept y) := by
  cases y <;> rfl

lemma EndsAs.bind {f : α → Descending β} {g : α → Except Error β} (h : EndsAs n x y)
    (hf : ∀ a, EndsAs n (f a) (g a)) : EndsAs n (x >>= f) (y >>= g) := by
  change ExceptT.bind (x.run n) (fun a => (f a).run n) = _
  rw [h]
  cases y with
  | error e => rfl
  | ok a => exact hf a

lemma EndsAs.tryCatch {f : Error → Descending α} {g : Error → Except Error α} (h : EndsAs n x y)
    (hf : ∀ e, EndsAs n (f e) (g e)) : EndsAs n (tryCatch x f) (tryCatch y g) := by
  change ExceptT.tryCatch (x.run n) (fun e => (f e).run n) = _
  rw [h]
  cases y with
  | error e => exact hf e
  | ok a => rfl

/-- The result is made something else of, and nothing more is walked. -/
lemma EndsAs.map (f : α → β) (h : EndsAs n x y) :
    EndsAs n (do return f (← x)) (do return f (← y)) :=
  h.bind fun _ => rfl

lemma EndsAs.down (h : EndsAs n x y) : EndsAs (n + 1) (down x) y := h

end EndsAs

/-- An expression has at least one level. -/
lemma exists_level (h : e.height ≤ n) : ∃ m, n = m + 1 := by
  cases n with
  | zero => cases e <;> cases h
  | succ m => exact ⟨m, rfl⟩

lemma EndsAs.extendPath {x : Descending Path} {y : Except Error Path} (h : EndsAs n x y)
    (step : Except Error Step) : EndsAs n (extendPath x step) (extendPath y step) :=
  h.bind fun p => (endsAs_ofExcept step).map (Path.child p)

lemma endsAs_path (h : e.height ≤ n) : EndsAs n (down (e.pathIn Descending)) e.path? := by
  induction e using Expr.induction generalizing n with
  | call f args ih =>
    obtain ⟨m, rfl⟩ := exists_level h
    have harg := fun a ha => ih a ha (height_le_of_mem h ha)
    refine EndsAs.down ?_
    unfold Expr.path? Expr.pathIn
    cases Operator.ofFunction? f with
    | none => rfl
    | some op =>
      cases op with
      | index =>
        rcases args with _ | ⟨l, _ | ⟨i, _ | ⟨a, args⟩⟩⟩
        · rfl
        · rfl
        · exact (harg l List.mem_cons_self).extendPath i.step?
        · rfl
      | compare | connect | has => rfl
  | select e field ih =>
    obtain ⟨m, rfl⟩ := exists_level h
    rw [Expr.height, Nat.add_le_add_iff_right] at h
    exact ((ih h).map (Path.child · (.key field))).down
  | ident | const =>
    obtain ⟨m, rfl⟩ := exists_level h
    rfl

lemma endsAs_operandTerm {t : Descending Term} {t' : Except Error Term} (other : Expr)
    (hpath : EndsAs n (down (e.pathIn Descending)) e.path?) (ht : EndsAs n t t') :
    EndsAs n (operandTerm e other t) (operandTerm e other t') := by
  cases other with
  | const c =>
    cases c with
    | int64 | uint64 | double => exact (hpath.map Term.number).tryCatch fun _ => ht
    | string | bool => exact ht
  | call | select | ident => exact ht

/-- A call has its term where its sides have their paths and their terms. -/
lemma endsAs_call {tl tr : Descending Term} {tl' tr' : Except Error Term} (op : Operator)
    (hpl : EndsAs n (down (l.pathIn Descending)) l.path?)
    (hpr : EndsAs n (down (r.pathIn Descending)) r.path?) (hl : EndsAs n tl tl')
    (hr : EndsAs n tr tr') :
    EndsAs n (op.term? l r tl tr) (op.term? l r tl' tr') := by
  cases op with
  | compare c =>
    exact (endsAs_operandTerm r hpl hl).bind fun t =>
      (endsAs_operandTerm l hpr hr).map (Term.compare c t)
  | connect k => exact hl.bind fun t => hr.map (Term.connect k t)
  | index =>
    exact ((hpl.extendPath r.step?).map Term.text).tryCatch fun _ =>
      hl.bind fun t => hr.map (Term.subscript t)
  | has =>
    cases r with
    | const c => exact hl.bind fun t => (endsAs_ofExcept c.needle?).map (Term.contains t)
    | call | select | ident => rfl

lemma endsAs_term (h : e.height ≤ n) : EndsAs n (down (e.termIn Descending)) e.term? := by
  induction e using Expr.induction generalizing n with
  | call f args ih =>
    obtain ⟨m, rfl⟩ := exists_level h
    have hpath := fun a ha => endsAs_path (e := a) (height_le_of_mem h ha)
    have hterm := fun a ha => ih a ha (height_le_of_mem h ha)
    refine EndsAs.down ?_
    unfold Expr.term? Expr.termIn
    cases Operator.ofFunction? f with
    | none => rfl
    | some op =>
      rcases args with _ | ⟨l, _ | ⟨r, _ | ⟨a, args⟩⟩⟩
      · rfl
      · rfl
      · have hl : l ∈ [l, r] := List.mem_cons_self
        have hr : r ∈ [l, r] := List.mem_cons_of_mem _ List.mem_cons_self
        exact endsAs_call op (hpath l hl) (hpath r hr) (hterm l hl) (hterm r hr)
      · rfl
  | select e field =>
    obtain ⟨m, rfl⟩ := exists_level h
    exact EndsAs.down (EndsAs.map Term.text (endsAs_path h))
  | ident =>
    obtain ⟨m, rfl⟩ := exists_level h
    rfl
  | const c =>
    obtain ⟨m, rfl⟩ := exists_level h
    exact (endsAs_ofExcept c.term?).down

lemma endsAs_checkAll {args : List Expr}
    (h : ∀ a ∈ args, EndsAs n (down (a.checkIn Descending)) a.checkPredicate) :
    EndsAs n (checkAllIn Descending args) (checkAllIn (Except Error) args) := by
  induction args with
  | nil => rfl
  | cons a args ih =>
    obtain ⟨ha, hargs⟩ := List.forall_mem_cons.mp h
    exact ha.bind fun _ => ih hargs

lemma endsAs_check (h : e.height ≤ n) :
    EndsAs n (down (e.checkIn Descending)) e.checkPredicate := by
  induction e using Expr.induction generalizing n with
  | call f args ih =>
    obtain ⟨m, rfl⟩ := exists_level h
    have hargs := endsAs_checkAll fun a ha => ih a ha (height_le_of_mem h ha)
    refine EndsAs.down ?_
    unfold Expr.checkPredicate Expr.checkIn
    cases Operator.ofFunction? f with
    | none => rfl
    | some op =>
      cases op with
      | connect k => exact hargs
      | compare | index | has => rfl
  | select | ident | const =>
    obtain ⟨m, rfl⟩ := exists_level h
    rfl

/-! ### The parser -/

lemma reaches_of_walk (hs : s.Within) (h : s.walk ts = .ok s') : Reaches s ts s' ∧ s'.Within := by
  induction ts generalizing s with
  | nil =>
    cases h
    exact ⟨.refl _, hs⟩
  | cons t ts ih =>
    obtain ⟨s₁, hstep, hwalk⟩ := bind_eq_ok.mp h
    obtain ⟨hmove, hs₁⟩ := (step_eq_ok hs).mp hstep
    obtain ⟨hreaches, hwithin⟩ := ih hs₁ hwalk
    exact ⟨.step hmove hreaches, hwithin⟩

/-- Operators are counted, and a bracket is on the stack as long as it is open. -/
lemma Reaches.counts (h : Reaches s ts s') :
    s'.operators = s.operators + ts.countP Lexeme.isOperator
      ∧ s'.stack.length + ts.countP Lexeme.isClosing
        = s.stack.length + ts.countP Lexeme.isOpening := by
  induction h with
  | refl s => simp
  | @step s s' s'' t ts move rest ih =>
    obtain ⟨hoperators, hstack⟩ := move.counts
    rw [← List.singleton_append, List.countP_append, List.countP_append, List.countP_append]
    omega

/-- **A filter stays within its budget**: wherever the parser stands in a text, whether this will be
accepted or not, the brackets that are still open are as many as its stack is deep, and no more than
32. The tree of a text that is accepted has one branching node for each operator, of which there are
no more than 256, so it has no more than 513 nodes and 257 levels; and with 257 levels to go, no
check, no compilation and no search for a path gives up on it. -/
theorem parse_within_budget (text : String) :
    (∀ before rest s, tokenize text = .ok (before ++ rest) →
      State.start.walk (before.map Token.lexeme) = .ok s →
        parse text = s.run text.utf8ByteSize rest
        ∧ s.stack.length + (before.map Token.lexeme).countP Lexeme.isClosing
          = (before.map Token.lexeme).countP Lexeme.isOpening
        ∧ s.stack.length ≤ 32)
    ∧ ∀ e, parse text = .ok e →
      (∃ tokens, tokenize text = .ok tokens
        ∧ e.branches = (tokens.map Token.lexeme).countP Lexeme.isOperator)
      ∧ e.branches ≤ 256 ∧ e.size ≤ 513 ∧ e.height ≤ 257
      ∧ e.checkWithin 257 = some e.checkPredicate ∧ e.termWithin 257 = some e.term?
      ∧ ∀ x, Part x e → x.pathWithin 257 = some x.path? := by
  constructor
  · intro before rest s htokens hwalk
    have hstart : State.start.Within := ⟨Nat.zero_le _, Nat.zero_le _⟩
    obtain ⟨hreaches, -, hdepth⟩ := reaches_of_walk hstart hwalk
    refine ⟨?_, ?_, hdepth⟩
    · rw [parse, htokens]
      exact run_append hwalk _ _
    · have := hreaches.counts.2
      rwa [State.start, List.length_nil, Nat.zero_add] at this
  · intro e he
    obtain ⟨tokens, htokens, hderives, hfits⟩ := parse_eq_ok.mp he
    have hformed := wellFormed_of_parse he
    have hbranches := hderives.branches
    have hoperators : e.branches ≤ 256 := hbranches ▸ (fits_zero.mp hfits).1
    have hsize := hformed.size_le
    have hheight : e.height ≤ 257 := hformed.height_le.trans (Nat.succ_le_succ hoperators)
    exact ⟨⟨tokens, htokens, hbranches⟩, hoperators, by omega, hheight, endsAs_check hheight,
      endsAs_term hheight, fun x hpart => endsAs_path (hpart.height_le.trans hheight)⟩

/-- The walk to a path of three names goes down three levels. -/
example : (Expr.select (.select (.ident "a") "b") "c").pathWithin 2 = none
    ∧ (Expr.select (.select (.ident "a") "b") "c").pathWithin 3
      = some (.ok (.child (.child (.root (.key "a")) (.key "b")) (.key "c"))) :=
  ⟨rfl, rfl⟩

/-- With the bracket open, nothing is known yet of what comes; the tree has a node for the bracket,
the point and the comparison. -/
theorem parse_within_budget_indexed :
    ∃ s e, State.start.walk [.ident "a", .opening .square] = .ok s ∧ s.stack.length ≤ 32
      ∧ parse "a[0].b = 1" = .ok e ∧ e.branches = 3 ∧ e.height ≤ 257
      ∧ e.termWithin 257 = some e.term? := by
  have htokens : tokenize "a[0].b = 1"
      = .ok ([⟨.ident "a", 0⟩, ⟨.opening .square, 1⟩] ++ [⟨.const (.int64 0), 2⟩,
          ⟨.closing .square, 3⟩, ⟨.dot, 4⟩, ⟨.ident "b", 5⟩, ⟨.compare .eq, 7⟩,
          ⟨.const (.int64 1), 9⟩]) :=
    toOption_eq_some.mp (by decide +kernel)
  have hparse : ∃ e, parse "a[0].b = 1" = .ok e := by
    rw [parse, htokens]
    exact ⟨_, rfl⟩
  obtain ⟨e, he⟩ := hparse
  obtain ⟨hstates, htree⟩ := parse_within_budget "a[0].b = 1"
  obtain ⟨-, -, hdepth⟩ := hstates _ _ _ htokens rfl
  obtain ⟨⟨tokens, htokens', hbranches⟩, -, -, hheight, -, hterm, -⟩ := htree e he
  rw [htokens] at htokens'
  cases htokens'
  exact ⟨_, e, rfl, hdepth, he, hbranches, hheight, hterm⟩

end Catalog.Filter
