import Catalog.Filter.Compile
import Catalog.Proofs.Except
import Catalog.Proofs.Sql.Term

/-!
Compilation as a relation: one rule for each way in which an expression becomes a term. The
compiler succeeds exactly where a rule applies, so proofs about compiled filters go by induction
on the rules and never open the compiler.
-/

namespace Catalog.Filter

open Catalog.Number Catalog.Sql

/-- Induction over an expression and the arguments of its calls. -/
@[elab_as_elim]
theorem Expr.induction {P : Expr → Prop}
    (call : ∀ f args, (∀ e ∈ args, P e) → P (.call f args))
    (select : ∀ e field, P e → P (.select e field))
    (ident : ∀ name, P (.ident name)) (const : ∀ c, P (.const c)) (e : Expr) : P e := by
  refine @Expr.rec P (fun es => ∀ e ∈ es, P e) call select ident const (by simp) ?_ e
  intro e es he hes d hd
  rcases List.mem_cons.mp hd with rfl | hd
  · exact he
  · exact hes d hd

/-! ### One level of a walk -/

@[simp]
lemma ofExcept_eq {α : Type} (x : Except Error α) :
    MonadExcept.ofExcept (m := Except Error) x = x := by
  cases x <;> rfl

lemma Expr.path?_select (e : Expr) (field : String) :
    (Expr.select e field).path? = e.path?.map (.child · (.key field)) := by
  change (e.path? >>= fun p => .ok (p.child (.key field))) = _
  cases e.path? <;> rfl

lemma Expr.path?_binary (op : Operator) (l r : Expr) :
    (Expr.binary op l r).path? =
      if op = .index then extendPath l.path? r.step? else .error (.notAPath (.binary op l r)) := by
  conv_lhs => unfold Expr.path? Expr.binary Expr.pathIn
  rw [Operator.ofFunction?_function]
  cases op <;> rfl

lemma Expr.term?_select (e : Expr) (field : String) :
    (Expr.select e field).term? = (Expr.select e field).path?.map Term.text := by
  change ((Expr.select e field).path? >>= fun p => .ok (Term.text p)) = _
  cases (Expr.select e field).path? <;> rfl

lemma Expr.term?_const (c : Constant) : (Expr.const c).term? = c.term? := ofExcept_eq _

lemma Expr.term?_binary (op : Operator) (l r : Expr) :
    (Expr.binary op l r).term? = op.term? l r l.term? r.term? := by
  conv_lhs => unfold Expr.term? Expr.binary Expr.termIn
  rw [Operator.ofFunction?_function]
  rfl

/-- What has no path after all is indexed as it stands. -/
lemma Operator.term?_index (l r : Expr) (tl tr : Except Error Term) :
    Operator.index.term? l r tl tr =
      match extendPath l.path? r.step? with
      | .ok p => .ok (.text p)
      | .error _ => do return .subscript (← tl) (← tr) := by
  change tryCatch (extendPath l.path? r.step? >>= fun p => .ok (Term.text p)) _ = _
  cases extendPath l.path? r.step? <;> rfl

lemma Operator.term?_has (l : Expr) (c : Constant) (tl tr : Except Error Term) :
    Operator.has.term? l (.const c) tl tr = do return .contains (← tl) (← c.needle?) := by
  rw [Operator.term?, ofExcept_eq]

/-- Only what indexes has a path among the calls. -/
lemma Expr.eq_binary_of_path? {f : String} {args : List Expr} {p : Path}
    (h : (Expr.call f args).path? = .ok p) : ∃ l r, Expr.call f args = .binary .index l r := by
  unfold Expr.path? Expr.pathIn at h
  split at h
  · have hop : Operator.ofFunction? f = some .index := by assumption
    exact ⟨_, _, by rw [Expr.binary, Operator.function_of_ofFunction? hop]⟩
  · cases h

lemma Expr.eq_binary_of_term? {f : String} {args : List Expr} {t : Term}
    (h : (Expr.call f args).term? = .ok t) : ∃ op l r, Expr.call f args = .binary op l r := by
  unfold Expr.term? Expr.termIn at h
  split at h
  · cases h
  · rename_i op hop
    split at h
    · exact ⟨op, _, _, by rw [Expr.binary, Operator.function_of_ofFunction? hop]⟩
    · cases h

/-! ### Paths -/

/-- The expression spells a path, rooted at a name. -/
inductive Spells : Expr → Path → Prop
  | ident (name : String) : Spells (.ident name) (.root (.key name))
  | select {e : Expr} {p : Path} (field : String) (parent : Spells e p) :
      Spells (.select e field) (.child p (.key field))
  | index {l i : Expr} {p : Path} {s : Step} (parent : Spells l p) (step : i.step? = .ok s) :
      Spells (.binary .index l i) (.child p s)

lemma extendPath_eq_ok {a : Except Error Path} {b : Except Error Step} {q : Path} :
    extendPath a b = .ok q ↔ ∃ p s, a = .ok p ∧ b = .ok s ∧ q = .child p s := by
  cases a with
  | error => simp [extendPath, bind, Except.bind]
  | ok p =>
    cases b with
    | error => simp [extendPath, bind, Except.bind]
    | ok s => simp [extendPath, bind, Except.bind, pure, Except.pure, eq_comm]

lemma spells_of_path? {e : Expr} {p : Path} (h : e.path? = .ok p) : Spells e p := by
  induction e using Expr.induction generalizing p with
  | call f args ih =>
    obtain ⟨l, i, he⟩ := Expr.eq_binary_of_path? h
    rw [he, Expr.path?_binary, if_pos rfl, extendPath_eq_ok] at h
    obtain ⟨q, s, hl, hs, rfl⟩ := h
    simp only [Expr.binary, Expr.call.injEq] at he
    rw [he.1, he.2]
    exact .index (ih l (by simp [he.2]) hl) hs
  | select e field ih =>
    rw [Expr.path?_select] at h
    cases he : e.path? with
    | error => simp [he, Except.map] at h
    | ok q =>
      obtain rfl : q.child (.key field) = p := by simpa [he, Except.map] using h
      exact .select field (ih he)
  | ident name =>
    obtain rfl : Path.root (.key name) = p := Except.ok.inj h
    exact .ident name
  | const c => cases h

lemma Spells.path? {e : Expr} {p : Path} (h : Spells e p) : e.path? = .ok p := by
  induction h with
  | ident name => rfl
  | select field _ ih => rw [Expr.path?_select, ih, Except.map]
  | index _ hs ih =>
    rw [Expr.path?_binary, if_pos rfl]
    exact extendPath_eq_ok.mpr ⟨_, _, ih, hs, rfl⟩

/-! ### Terms -/

/-- The expression is a number that is written out. -/
def Expr.isNumeric : Expr → Bool
  | .const c => c.isNumeric
  | _ => false

/-- A term beside another expression in a comparison: a path beside a number is read as one. -/
def beside (other : Expr) : Term → Term
  | .text p => if other.isNumeric then .number p else .text p
  | t => t

/-- The ways in which an expression becomes a term. -/
inductive Compiles : Expr → Term → Prop
  | path {e : Expr} {p : Path} (spells : Spells e p) : Compiles e (.text p)
  | const {c : Constant} {t : Term} (term : c.term? = .ok t) : Compiles (.const c) t
  /-- What is no path is indexed as it stands. -/
  | subscript {l i : Expr} {tl ti : Term} (pathless : ∀ p, ¬ Spells (.binary .index l i) p)
      (left : Compiles l tl) (index : Compiles i ti) :
      Compiles (.binary .index l i) (.subscript tl ti)
  | contains {l : Expr} {c : Constant} {tl : Term} {s : String} (left : Compiles l tl)
      (needle : c.needle? = .ok s) : Compiles (.binary .has l (.const c)) (.contains tl s)
  | compare {l r : Expr} {tl tr : Term} (c : Comparison) (left : Compiles l tl)
      (right : Compiles r tr) :
      Compiles (.binary (.compare c) l r) (.compare c (beside r tl) (beside l tr))
  | connect {l r : Expr} {tl tr : Term} (k : Connective) (left : Compiles l tl)
      (right : Compiles r tr) : Compiles (.binary (.connect k) l r) (.connect k tl tr)

lemma operandTerm_eq {e other : Expr} {t : Except Error Term} :
    operandTerm e other t =
      match e.path? with
      | .ok p => if other.isNumeric then .ok (.number p) else t
      | .error _ => t := by
  cases other with
  | const c =>
    change (if c.isNumeric then tryCatch (e.path? >>= fun p => .ok (Term.number p)) _ else t) = _
    cases e.path? with
    | ok p => rfl
    | error => exact ite_self t
  | call | select | ident => cases e.path? <;> rfl

/-- A path stands for its text wherever a term is asked for. -/
lemma Spells.term? {e : Expr} {p : Path} (h : Spells e p) : e.term? = .ok (.text p) := by
  cases h with
  | ident name => rfl
  | select field parent =>
    rw [Expr.term?_select, (Spells.select field parent).path?, Except.map]
  | index parent step =>
    rw [Expr.term?_binary, Operator.term?_index,
      extendPath_eq_ok.mpr ⟨_, _, parent.path?, step, rfl⟩]

/-- Only a path has a text. -/
lemma Compiles.spells {e : Expr} {p : Path} (h : Compiles e (.text p)) : Spells e p := by
  cases h with
  | path spells => exact spells
  | const term =>
    rename_i c
    cases c <;> simp [Constant.term?, Except.map] at term
    · split at term <;> simp at term
    · split at term <;> simp at term

lemma Spells.operandTerm {e : Expr} {p : Path} (h : Spells e p) (other : Expr) :
    operandTerm e other e.term? = .ok (beside other (.text p)) := by
  rw [operandTerm_eq, h.path?, h.term?]
  by_cases hn : other.isNumeric <;> simp [beside, hn]

/-- Beside another expression, an operand is what the rules say. -/
lemma operandTerm_eq_ok {e other : Expr} {u : Term} (he : ∀ t, e.term? = .ok t → Compiles e t) :
    operandTerm e other e.term? = .ok u → ∃ t, Compiles e t ∧ u = beside other t := by
  intro h
  cases hp : e.path? with
  | ok p =>
    have hs := spells_of_path? hp
    rw [hs.operandTerm] at h
    exact ⟨_, .path hs, (Except.ok.inj h).symm⟩
  | error =>
    rw [operandTerm_eq, hp] at h
    have hc := he u h
    refine ⟨u, hc, ?_⟩
    cases u with
    | text p => exact absurd hp (by rw [hc.spells.path?]; simp)
    | _ => rfl

theorem compiles_of_term? {e : Expr} {t : Term} (h : e.term? = .ok t) : Compiles e t := by
  induction e using Expr.induction generalizing t with
  | call f args ih =>
    obtain ⟨op, l, r, he⟩ := Expr.eq_binary_of_term? h
    have hargs : args = [l, r] := by
      simp only [Expr.binary, Expr.call.injEq] at he
      exact he.2
    have hl : ∀ t, l.term? = .ok t → Compiles l t := fun t => ih l (by simp [hargs])
    have hr : ∀ t, r.term? = .ok t → Compiles r t := fun t => ih r (by simp [hargs])
    rw [he] at h ⊢
    rw [Expr.term?_binary] at h
    cases op with
    | compare c =>
      obtain ⟨ul, hul, h⟩ := bind_eq_ok.mp h
      obtain ⟨ur, hur, h⟩ := bind_eq_ok.mp h
      obtain ⟨tl, hcl, rfl⟩ := operandTerm_eq_ok hl hul
      obtain ⟨tr, hcr, rfl⟩ := operandTerm_eq_ok hr hur
      obtain rfl := Except.ok.inj h
      exact .compare c hcl hcr
    | connect k =>
      obtain ⟨tl, htl, h⟩ := bind_eq_ok.mp h
      obtain ⟨tr, htr, h⟩ := bind_eq_ok.mp h
      obtain rfl := Except.ok.inj h
      exact .connect k (hl tl htl) (hr tr htr)
    | index =>
      rw [Operator.term?_index] at h
      split at h
      · rename_i p hp
        obtain rfl := Except.ok.inj h
        exact .path (spells_of_path? (by rw [Expr.path?_binary, if_pos rfl, hp]))
      · rename_i e hp
        obtain ⟨tl, htl, h⟩ := bind_eq_ok.mp h
        obtain ⟨tr, htr, h⟩ := bind_eq_ok.mp h
        obtain rfl := Except.ok.inj h
        refine .subscript (fun p hs => ?_) (hl tl htl) (hr tr htr)
        have := hs.path?
        simp [Expr.path?_binary, hp] at this
    | has =>
      cases r with
      | const c =>
        rw [Operator.term?_has] at h
        obtain ⟨tl, htl, h⟩ := bind_eq_ok.mp h
        obtain ⟨s, hs, h⟩ := bind_eq_ok.mp h
        obtain rfl := Except.ok.inj h
        exact .contains (hl tl htl) hs
      | call | select | ident => cases h
  | select e field _ =>
    obtain ⟨p, hp, rfl⟩ := map_eq_ok.mp (by rwa [Expr.term?_select] at h)
    exact .path (spells_of_path? hp)
  | ident name =>
    obtain rfl : Term.text (.root (.key name)) = t := Except.ok.inj h
    exact .path (.ident name)
  | const c => exact .const (by rwa [Expr.term?_const] at h)

lemma Compiles.operandTerm {e : Expr} {t : Term} (h : Compiles e t) (ht : e.term? = .ok t)
    (other : Expr) : operandTerm e other e.term? = .ok (beside other t) := by
  cases hp : e.path? with
  | ok p =>
    have hs := spells_of_path? hp
    obtain rfl : t = .text p := Except.ok.inj (ht.symm.trans hs.term?)
    exact hs.operandTerm other
  | error =>
    rw [operandTerm_eq, hp, ht]
    cases t with
    | text p => exact absurd hp (by rw [h.spells.path?]; simp)
    | _ => rfl

lemma Compiles.term? {e : Expr} {t : Term} (h : Compiles e t) : e.term? = .ok t := by
  induction h with
  | path spells => exact spells.term?
  | const term => rwa [Expr.term?_const]
  | @subscript l i tl ti pathless _ _ hl hi =>
    rw [Expr.term?_binary]
    cases hp : extendPath l.path? i.step? with
    | ok p =>
      have hpath : Expr.path? (.binary .index l i) = .ok p := by
        rw [Expr.path?_binary, if_pos rfl, hp]
      exact absurd (spells_of_path? hpath) (pathless p)
    | error =>
      rw [Operator.term?_index, hp, hl, hi]
      rfl
  | contains _ needle hl =>
    rw [Expr.term?_binary, Operator.term?_has, hl, needle]
    rfl
  | compare c left right hl hr =>
    rw [Expr.term?_binary, Operator.term?, left.operandTerm hl, right.operandTerm hr]
    rfl
  | connect k _ _ hl hr =>
    rw [Expr.term?_binary, Operator.term?, hl, hr]
    rfl

theorem term?_eq_ok {e : Expr} {t : Term} : e.term? = .ok t ↔ Compiles e t :=
  ⟨compiles_of_term?, Compiles.term?⟩

/-! ### Conditions -/

/-- Only the sides of a connective are looked at. -/
lemma Expr.checkPredicate_binary (op : Operator) (l r : Expr) :
    (Expr.binary op l r).checkPredicate =
      match op with
      | .connect _ => l.checkPredicate >>= fun _ => r.checkPredicate
      | .index => .error (.notAPredicate (.binary .index l r))
      | _ => .ok () := by
  conv_lhs => unfold Expr.checkPredicate Expr.binary Expr.checkIn
  rw [Operator.ofFunction?_function]
  cases op with
  | compare | index | has => rfl
  | connect k =>
    change (l.checkPredicate >>= fun _ => r.checkPredicate >>= fun _ => .ok ()) = _
    cases r.checkPredicate <;> rfl

/-- The root of a compiled filter is a comparison, a connective or a containment test. -/
lemma Compiles.isCondition {e : Expr} {t : Term} (h : Compiles e t)
    (hp : e.checkPredicate = .ok ()) : t.IsCondition := by
  cases h with
  | path spells =>
    cases spells with
    | ident | select => cases hp
    | index =>
      rw [Expr.checkPredicate_binary] at hp
      cases hp
  | const => cases hp
  | subscript =>
    rw [Expr.checkPredicate_binary] at hp
    cases hp
  | contains | compare | connect => trivial

theorem compile_eq_ok {anchor sql : String} {e : Expr} :
    e.compile anchor = .ok sql ↔
      ∃ t, e.checkPredicate = .ok () ∧ Compiles e t ∧ t.render anchor = sql := by
  rw [Expr.compile, map_eq_ok]
  refine exists_congr fun t => ?_
  rw [Expr.condition?, bind_eq_ok, ← term?_eq_ok, ← and_assoc]
  refine and_congr_left fun _ => ?_
  exact ⟨fun ⟨_, h, ht⟩ => ⟨h, ht⟩, fun ⟨h, ht⟩ => ⟨(), h, ht⟩⟩

end Catalog.Filter
