import Mathlib.Logic.Relation
import Catalog.Proofs.Filter.Refusals
import Catalog.Proofs.Filter.Shape

/-!
Two spellings of a member. A field selected from a path, and an index of the path by the field's
name as a text, take the same step; so either may be written for the other, wherever it stands.
What is made of an expression depends on a few things only that are known of its parts, and none
of these tells the two spellings apart.
-/

namespace Catalog.Filter

open Catalog.Sql

variable {e e' l l' r r' : Expr}

/-- One field that is selected from a path, somewhere in the first expression, is in the second one
the index of an element. -/
inductive Respells : Expr → Expr → Prop
  | member {e : Expr} {p : Path} (path : Spells e p) (field : String) :
      Respells (.select e field) (.binary .index e (.const (.string field)))
  | operand {e e' : Expr} (field : String) (inner : Respells e e') :
      Respells (.select e field) (.select e' field)
  | argument {e e' : Expr} (f : String) (before after : List Expr) (inner : Respells e e') :
      Respells (.call f (before ++ e :: after)) (.call f (before ++ e' :: after))

/-! ### What is known of a part -/

/-- The two expressions are of the same use to the compiler, whatever they are a part of. -/
structure SameUse (e e' : Expr) : Prop where
  path : ∀ p, Spells e p ↔ Spells e' p
  term : ∀ t, Compiles e t ↔ Compiles e' t
  predicate : e.checkPredicate = .ok () ↔ e'.checkPredicate = .ok ()
  constant : ∀ c, e = .const c ↔ e' = .const c

namespace SameUse

lemma refl (e : Expr) : SameUse e e :=
  ⟨fun _ => Iff.rfl, fun _ => Iff.rfl, Iff.rfl, fun _ => Iff.rfl⟩

lemma symm (h : SameUse e e') : SameUse e' e :=
  ⟨fun p => (h.path p).symm, fun t => (h.term t).symm, h.predicate.symm,
    fun c => (h.constant c).symm⟩

lemma trans {e'' : Expr} (h : SameUse e e') (h' : SameUse e' e'') : SameUse e e'' :=
  ⟨fun p => (h.path p).trans (h'.path p), fun t => (h.term t).trans (h'.term t),
    h.predicate.trans h'.predicate, fun c => (h.constant c).trans (h'.constant c)⟩

/-- Only constants are steps. -/
lemma step? {s : Step} (h : SameUse e e') (hs : e.step? = .ok s) : e'.step? = .ok s := by
  cases e with
  | const c => rwa [(h.constant c).mp rfl]
  | _ => cases hs

lemma isNumeric_eq (h : SameUse e e') : e.isNumeric = e'.isNumeric := by
  have hnumeric : ∀ {x x' : Expr}, SameUse x x' → x.isNumeric = true → x'.isNumeric = true := by
    intro x x' hx hn
    cases x with
    | const c => rwa [(hx.constant c).mp rfl]
    | _ => cases hn
  exact Bool.eq_iff_iff.mpr ⟨hnumeric h, hnumeric h.symm⟩

end SameUse

/-- Two spellings of one path. A path is neither a condition nor a constant. -/
lemma Spells.sameUse {p : Path} (h : Spells e p) (h' : Spells e' p) : SameUse e e' := by
  have hpath : ∀ {x : Expr} {q : Path}, Spells x p → (Spells x q ↔ p = q) := by
    intro x q hx
    refine ⟨fun hq => Except.ok.inj (hx.path?.symm.trans hq.path?), ?_⟩
    rintro rfl
    exact hx
  have hterm : ∀ {x : Expr} {t : Term}, Spells x p → (Compiles x t ↔ .text p = t) := by
    intro x t hx
    rw [← term?_eq_ok, hx.term?, Except.ok.injEq]
  have hpredicate : ∀ {x : Expr}, Spells x p → x.checkPredicate ≠ .ok () := by
    intro x hx hp
    exact (Compiles.path hx).isCondition hp
  have hconstant : ∀ {x : Expr} {c : Constant}, Spells x p → x ≠ .const c := by
    rintro x c hx rfl
    cases hx
  exact ⟨fun q => (hpath h).trans (hpath h').symm, fun t => (hterm h).trans (hterm h').symm,
    iff_of_false (hpredicate h) (hpredicate h'), fun c => iff_of_false (hconstant h) (hconstant h')⟩

/-! ### Selections -/

lemma spells_select {field : String} {q : Path} :
    Spells (.select e field) q ↔ ∃ p, Spells e p ∧ q = .child p (.key field) := by
  constructor
  · intro h
    cases h with
    | select _ parent => exact ⟨_, parent, rfl⟩
  · rintro ⟨p, hp, rfl⟩
    exact .select field hp

/-- A selection is compiled as the path that it spells. -/
lemma compiles_select {field : String} {t : Term} :
    Compiles (.select e field) t ↔ ∃ p, Spells (.select e field) p ∧ t = .text p := by
  constructor
  · intro h
    cases h with
    | path spells => exact ⟨_, spells, rfl⟩
  · rintro ⟨p, hp, rfl⟩
    exact .path hp

lemma SameUse.select (h : SameUse e e') (field : String) :
    SameUse (.select e field) (.select e' field) where
  path q := by simp only [spells_select, h.path]
  term t := by simp only [compiles_select, spells_select, h.path]
  predicate := iff_of_false (fun hp => by cases hp) (fun hp => by cases hp)
  constant c := iff_of_false Expr.noConfusion Expr.noConfusion

/-! ### Operations -/

lemma SameUse.spells_binary {op : Operator} {q : Path} (hl : SameUse l l') (hr : SameUse r r')
    (h : Spells (.binary op l r) q) : Spells (.binary op l' r') q := by
  generalize he : Expr.binary op l r = e at h
  cases h with
  | ident | select => cases he
  | index parent step =>
    obtain ⟨rfl, rfl, rfl⟩ := binary_inj.mp he
    exact .index ((hl.path _).mp parent) (hr.step? step)

lemma SameUse.compiles_binary {op : Operator} {t : Term} (hl : SameUse l l') (hr : SameUse r r')
    (h : Compiles (.binary op l r) t) : Compiles (.binary op l' r') t := by
  generalize he : Expr.binary op l r = e at h
  cases h with
  | path spells =>
    subst he
    exact .path (hl.spells_binary hr spells)
  | const => cases he
  | subscript pathless left index =>
    obtain ⟨rfl, rfl, rfl⟩ := binary_inj.mp he
    exact .subscript (fun p hp => pathless p (hl.symm.spells_binary hr.symm hp))
      ((hl.term _).mp left) ((hr.term _).mp index)
  | @contains l₀ c tl s left needle =>
    obtain ⟨rfl, rfl, hc⟩ := binary_inj.mp he
    rw [(hr.constant c).mp hc]
    exact .contains ((hl.term _).mp left) needle
  | compare c left right =>
    obtain ⟨rfl, rfl, rfl⟩ := binary_inj.mp he
    rw [beside_congr hl.isNumeric_eq, beside_congr hr.isNumeric_eq]
    exact .compare c ((hl.term _).mp left) ((hr.term _).mp right)
  | connect k left right =>
    obtain ⟨rfl, rfl, rfl⟩ := binary_inj.mp he
    exact .connect k ((hl.term _).mp left) ((hr.term _).mp right)

/-! ### Calls -/

lemma checkAllIn_eq_ok {es : List Expr} :
    checkAllIn (Except Error) es = .ok () ↔ ∀ e ∈ es, e.checkPredicate = .ok () := by
  induction es with
  | nil => exact iff_of_true rfl (by simp)
  | cons e es ih =>
    rw [checkAllIn, bind_eq_ok, List.forall_mem_cons, ← ih]
    constructor
    · rintro ⟨⟨⟩, he, hes⟩
      exact ⟨he, hes⟩
    · rintro ⟨he, hes⟩
      exact ⟨(), he, hes⟩

/-- What is checked of a call is its function and, where this connects conditions, its arguments. -/
lemma checkPredicate_call_congr {args args' : List Expr} (f : String)
    (h : (∀ a ∈ args, a.checkPredicate = .ok ()) ↔ ∀ a ∈ args', a.checkPredicate = .ok ()) :
    (Expr.call f args).checkPredicate = .ok () ↔ (Expr.call f args').checkPredicate = .ok () := by
  unfold Expr.checkPredicate Expr.checkIn
  cases Operator.ofFunction? f with
  | none => rfl
  | some op =>
    cases hp : op.isPredicate with
    | false => simp [hp]
    | true => cases hl : op.isLogical <;> simp [hp, hl, checkAllIn_eq_ok, h]

/-- An argument of an operation is its left or its right side. -/
lemma side_of_argument {op : Operator} {f : String} {before after : List Expr}
    (h : Expr.call f (before ++ e :: after) = .binary op l r) :
    f = op.function
      ∧ ((before = [] ∧ e = l ∧ after = [r]) ∨ (before = [l] ∧ e = r ∧ after = [])) := by
  simp only [Expr.binary, Expr.call.injEq] at h
  refine ⟨h.1, ?_⟩
  rcases before with _ | ⟨b, _ | ⟨b', before⟩⟩
  · exact .inl (by simpa using h.2)
  · exact .inr (by simpa using h.2)
  · simp at h

/-- What an operation is compiled to is the same for arguments of the same use. -/
lemma SameUse.call_of_binary {f : String} {before after : List Expr} {P : Expr → Prop}
    (h : SameUse e e')
    (hcall : P (.call f (before ++ e :: after)) →
      ∃ op l r, Expr.call f (before ++ e :: after) = .binary op l r)
    (hbinary : ∀ {op l l' r r'}, SameUse l l' → SameUse r r' → P (.binary op l r) →
      P (.binary op l' r'))
    (hp : P (.call f (before ++ e :: after))) : P (.call f (before ++ e' :: after)) := by
  obtain ⟨op, l, r, heq⟩ := hcall hp
  rw [heq] at hp
  obtain ⟨rfl, ⟨rfl, rfl, rfl⟩ | ⟨rfl, rfl, rfl⟩⟩ := side_of_argument heq
  · exact hbinary h (.refl r) hp
  · exact hbinary (.refl l) h hp

lemma SameUse.argument (h : SameUse e e') (f : String) (before after : List Expr) :
    SameUse (.call f (before ++ e :: after)) (.call f (before ++ e' :: after)) := by
  have hpath : ∀ {x x' : Expr} {p : Path}, SameUse x x' →
      Spells (.call f (before ++ x :: after)) p → Spells (.call f (before ++ x' :: after)) p := by
    intro x x' p hx
    refine hx.call_of_binary (P := fun y => Spells y p) (fun hp => ?_) spells_binary
    obtain ⟨l, r, heq⟩ := Expr.eq_binary_of_path? hp.path?
    exact ⟨_, l, r, heq⟩
  have hterm : ∀ {x x' : Expr} {t : Term}, SameUse x x' →
      Compiles (.call f (before ++ x :: after)) t →
      Compiles (.call f (before ++ x' :: after)) t := by
    intro x x' t hx
    exact hx.call_of_binary (P := fun y => Compiles y t)
      (fun ht => Expr.eq_binary_of_term? ht.term?) compiles_binary
  refine ⟨fun p => ⟨hpath h, hpath h.symm⟩, fun t => ⟨hterm h, hterm h.symm⟩,
    checkPredicate_call_congr f ?_, fun c => iff_of_false Expr.noConfusion Expr.noConfusion⟩
  simp only [List.forall_mem_append, List.forall_mem_cons, h.predicate]

/-! ### Spellings -/

lemma Respells.sameUse (h : Respells e e') : SameUse e e' := by
  induction h with
  | member path field => exact Spells.sameUse (.select field path) (.index path rfl)
  | operand field _ ih => exact ih.select field
  | argument f before after _ ih => exact ih.argument f before after

/-- Nor do many changes of spelling, to and fro. -/
lemma sameUse_of_eqvGen (h : Relation.EqvGen Respells e e') : SameUse e e' := by
  induction h with
  | rel e e' step => exact step.sameUse
  | refl e => exact .refl e
  | symm e e' _ ih => exact ih.symm
  | trans e e' e'' _ _ ih ih' => exact ih.trans ih'

/-- **Selection and index are interchangeable**: expressions that differ only in how the members of
paths are written, be it behind a dot or in brackets, compile to the same SQL over every anchor,
or both do not compile. -/
theorem compile_respelled (h : Relation.EqvGen Respells e e') (anchor sql : String) :
    e.compile anchor = .ok sql ↔ e'.compile anchor = .ok sql := by
  have hsame := sameUse_of_eqvGen h
  simp only [compile_eq_ok, hsame.predicate, hsame.term]

/-- A path beside a number, and another one that an element is looked up by. -/
def beyondNumber (measure place : Expr) : Expr :=
  .binary (.connect .and) (.binary (.compare .gt) (.const (.int64 5)) measure)
    (.binary .has (.binary .index (.ident "d") place) (.const (.string "z")))

/-- One member of a path is taken out of brackets and the other one put into them, beside a number;
so is one in an index that is no part of a path. -/
theorem compile_respelled_beyondNumber :
    Relation.EqvGen Respells
        (beyondNumber (.select (.binary .index (.ident "a") (.const (.string "b"))) "c")
          (.select (.ident "x") "y"))
        (beyondNumber (.binary .index (.select (.ident "a") "b") (.const (.string "c")))
          (.binary .index (.ident "x") (.const (.string "y"))))
      ∧ (beyondNumber (.binary .index (.select (.ident "a") "b") (.const (.string "c")))
          (.binary .index (.ident "x") (.const (.string "y")))).compile payloadAnchor
        = .ok ("((5 > CASE WHEN jsonb_typeof(data->'a'->'b'->'c') = 'number' "
          ++ "THEN (data->'a'->'b'->>'c')::numeric END) AND "
          ++ "(data->>'d'[data->'x'->>'y'] LIKE '%z%'))") := by
  have hmeasure : ∀ {m m' : Expr} (place : Expr), Respells m m' →
      Respells (beyondNumber m place) (beyondNumber m' place) :=
    fun place h => .argument _ [] [_] (.argument _ [_] [] h)
  have hplace : ∀ (m : Expr) {place place' : Expr}, Respells place place' →
      Respells (beyondNumber m place) (beyondNumber m place') :=
    fun m _ _ h => .argument _ [_] [] (.argument _ [] [_] (.argument _ [_] [] h))
  have hopen := hmeasure (.select (.ident "x") "y") (.operand "c" (.member (.ident "a") "b"))
  have hclose := hmeasure (.select (.ident "x") "y") (.member (.select "b" (.ident "a")) "c")
  have hsame := ((Relation.EqvGen.rel _ _ hopen).symm.trans _ _ _ (.rel _ _ hclose)).trans _ _ _
    (.rel _ _ (hplace _ (.member (.ident "x") "y")))
  exact ⟨hsame, (compile_respelled hsame payloadAnchor _).mp rfl⟩

end Catalog.Filter
