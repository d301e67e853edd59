import Catalog.Proofs.Filter.Compilation

/-!
What becomes of an index on a field path. Where the argument is a place or a key, the index is one
more step of the path. Any other argument is compiled by itself and put in brackets behind the text
of the path, and no fault is reported; only a selection from such an index is refused.
-/

namespace Catalog.Sql

/-- Somewhere in the term a subscript stands behind the text of a path. -/
def Term.SubscriptsText : Term → Prop
  | subscript l i => (∃ p, l = .text p) ∨ l.SubscriptsText ∨ i.SubscriptsText
  | compare _ l r | connect _ l r => l.SubscriptsText ∨ r.SubscriptsText
  | contains l _ => l.SubscriptsText
  | text _ | number _ | integer _ | decimal _ | literal _ => False

lemma render_subscript (anchor : String) (l i : Term) :
    (Term.subscript l i).render anchor = l.render anchor ++ "[" ++ i.render anchor ++ "]" := by
  rw [← String.toList_inj]
  simp [toList_render, Term.pieces, written, Piece.render]

end Catalog.Sql

namespace Catalog.Filter

open Catalog.Sql

variable {e l r i x : Expr} {op : Operator} {t : Term} {p : Path}

/-! ### Parts -/

/-- The first expression stands somewhere in the second one. -/
inductive Part : Expr → Expr → Prop
  | self (e : Expr) : Part e e
  | call {f : String} {args : List Expr} {x a : Expr} (arg : a ∈ args) (inner : Part x a) :
      Part x (.call f args)
  | select {x e : Expr} (field : String) (inner : Part x e) : Part x (.select e field)

lemma part_binary : Part x (.binary op l r) ↔ x = .binary op l r ∨ Part x l ∨ Part x r := by
  constructor
  · intro h
    cases h with
    | self => exact .inl rfl
    | call arg inner =>
      rcases List.mem_pair.mp arg with rfl | rfl
      · exact .inr (.inl inner)
      · exact .inr (.inr inner)
  · rintro (rfl | h | h)
    · exact .self _
    · exact .call (by simp) h
    · exact .call (by simp) h

lemma Part.trans {y : Expr} (h : Part x y) (h' : Part y e) : Part x e := by
  induction h' with
  | self => exact h
  | call arg _ ih => exact .call arg (ih h)
  | select field _ ih => exact .select field (ih h)

lemma part_left (op : Operator) (l r : Expr) : Part l (.binary op l r) :=
  part_binary.mpr (.inr (.inl (.self l)))

lemma part_right (op : Operator) (l r : Expr) : Part r (.binary op l r) :=
  part_binary.mpr (.inr (.inr (.self r)))

lemma part_const {c : Constant} : Part x (.const c) ↔ x = .const c :=
  ⟨fun h => by cases h; rfl, fun h => h ▸ .self _⟩

/-! ### Arguments of an index -/

/-- The arguments that make an index one more step of a path. -/
inductive Folds : Expr → Prop
  | int64 (n : Int64) : Folds (.const (.int64 n))
  | uint64 {u : UInt64} (fits : u.toNat < 2 ^ 63) : Folds (.const (.uint64 u))
  | string (key : String) : Folds (.const (.string key))

lemma folds_iff : Folds i ↔ ∃ s, i.step? = .ok s := by
  constructor
  · intro h
    cases h with
    | int64 n => exact ⟨_, rfl⟩
    | uint64 fits => exact ⟨_, if_pos fits⟩
    | string key => exact ⟨_, rfl⟩
  · rintro ⟨s, h⟩
    cases i with
    | const c =>
      cases c with
      | int64 n => exact .int64 n
      | uint64 u =>
        rw [Expr.step?] at h
        split at h
        · exact .uint64 (by assumption)
        · cases h
      | string key => exact .string key
      | double | bool => cases h
    | _ => cases h

/-- Somewhere in the expression a field path is indexed by what is no step of a path. -/
def Unfolded (e : Expr) : Prop :=
  ∃ l i p, Part (.binary .index l i) e ∧ Spells l p ∧ ¬ Folds i

lemma unfolded_binary : Unfolded (.binary op l r) ↔
    (op = .index ∧ (∃ p, Spells l p) ∧ ¬ Folds r) ∨ Unfolded l ∨ Unfolded r := by
  constructor
  · rintro ⟨l', i, p, hpart, hpath, hfolds⟩
    rcases part_binary.mp hpart with heq | hl | hr
    · simp only [Expr.binary, Expr.call.injEq, List.cons.injEq] at heq
      obtain ⟨hop, rfl, rfl, -⟩ := heq
      have hindex := Operator.ofFunction?_function op
      rw [← hop, Operator.ofFunction?_function] at hindex
      exact .inl ⟨(Option.some.inj hindex).symm, ⟨p, hpath⟩, hfolds⟩
    · exact .inr (.inl ⟨l', i, p, hl, hpath, hfolds⟩)
    · exact .inr (.inr ⟨l', i, p, hr, hpath, hfolds⟩)
  · rintro (⟨rfl, ⟨p, hpath⟩, hfolds⟩ | ⟨l', i, p, hpart, h⟩ | ⟨l', i, p, hpart, h⟩)
    · exact ⟨l, r, p, .self _, hpath, hfolds⟩
    · exact ⟨l', i, p, part_binary.mpr (.inr (.inl hpart)), h⟩
    · exact ⟨l', i, p, part_binary.mpr (.inr (.inr hpart)), h⟩

lemma not_unfolded_const (c : Constant) : ¬ Unfolded (.const c) := by
  rintro ⟨l, i, p, hpart, -⟩
  cases part_const.mp hpart

/-- A path is folded all the way. -/
lemma Spells.not_unfolded (h : Spells e p) : ¬ Unfolded e := by
  induction h with
  | ident name =>
    rintro ⟨l, i, p, hpart, -⟩
    cases hpart
  | select field parent ih =>
    rintro ⟨l, i, p, hpart, h⟩
    cases hpart with
    | select _ inner => exact ih ⟨l, i, p, inner, h⟩
  | @index l i p s parent step ih =>
    have hfolds : Folds i := folds_iff.mpr ⟨s, step⟩
    rw [unfolded_binary]
    rintro (⟨-, -, hnot⟩ | h | h)
    · exact hnot hfolds
    · exact ih h
    · cases hfolds <;> exact not_unfolded_const _ h

/-! ### Terms -/

/-- An index on a path that is not folded takes the text of the path. -/
lemma term?_unfolded (hpath : Spells l p) (hfolds : ¬ Folds i) :
    (Expr.binary .index l i).term? = i.term?.map (.subscript (.text p)) := by
  have hstep : ∀ s, i.step? ≠ .ok s := fun s hs => hfolds (folds_iff.mpr ⟨s, hs⟩)
  rw [Expr.term?_binary, Operator.term?_index, hpath.path?, hpath.term?]
  cases hi : i.step? with
  | ok s => exact absurd hi (hstep s)
  | error => cases i.term? <;> rfl

/-- The parts of an operation are compiled, apart from constants. -/
lemma compiles_of_binary (h : Compiles (.binary op l r) t) :
    (∃ tl, Compiles l tl) ∧ ((∃ c, r = .const c) ∨ ∃ tr, Compiles r tr) := by
  have hterm := h.term?
  rw [Expr.term?_binary] at hterm
  cases op with
  | index =>
    rw [Operator.term?_index] at hterm
    split at hterm
    · rename_i p hp
      obtain ⟨p, s, hl, hs, -⟩ := extendPath_eq_ok.mp hp
      refine ⟨⟨_, .path (spells_of_path? hl)⟩, .inl ?_⟩
      cases folds_iff.mpr ⟨s, hs⟩ <;> exact ⟨_, rfl⟩
    · obtain ⟨tl, htl, hterm⟩ := bind_eq_ok.mp hterm
      obtain ⟨tr, htr, -⟩ := bind_eq_ok.mp hterm
      exact ⟨⟨tl, term?_eq_ok.mp htl⟩, .inr ⟨tr, term?_eq_ok.mp htr⟩⟩
  | has =>
    cases r with
    | const c =>
      obtain ⟨tl, htl, -⟩ := bind_eq_ok.mp hterm
      exact ⟨⟨tl, term?_eq_ok.mp htl⟩, .inl ⟨c, rfl⟩⟩
    | call | select | ident => cases hterm
  | compare c =>
    obtain ⟨ul, hul, hterm⟩ := bind_eq_ok.mp hterm
    obtain ⟨ur, hur, -⟩ := bind_eq_ok.mp hterm
    obtain ⟨tl, htl, -⟩ := operandTerm_eq_ok (fun _ => term?_eq_ok.mp) hul
    obtain ⟨tr, htr, -⟩ := operandTerm_eq_ok (fun _ => term?_eq_ok.mp) hur
    exact ⟨⟨tl, htl⟩, .inr ⟨tr, htr⟩⟩
  | connect k =>
    obtain ⟨tl, htl, hterm⟩ := bind_eq_ok.mp hterm
    obtain ⟨tr, htr, -⟩ := bind_eq_ok.mp hterm
    exact ⟨⟨tl, term?_eq_ok.mp htl⟩, .inr ⟨tr, term?_eq_ok.mp htr⟩⟩

/-- Each part of a compiled expression is compiled, apart from constants. -/
lemma Compiles.part (hpart : Part x e) (h : Compiles e t) :
    (∃ c, x = .const c) ∨ ∃ t', Compiles x t' := by
  induction hpart generalizing t with
  | self e => exact .inr ⟨t, h⟩
  | @call f args x a arg inner ih =>
    obtain ⟨op, l, r, heq⟩ := Expr.eq_binary_of_term? h.term?
    rw [heq] at h
    obtain ⟨⟨tl, hl⟩, hr⟩ := compiles_of_binary h
    simp only [Expr.binary, Expr.call.injEq] at heq
    rw [heq.2] at arg
    rcases List.mem_pair.mp arg with rfl | rfl
    · exact ih hl
    · rcases hr with ⟨c, rfl⟩ | ⟨tr, hr⟩
      · exact .inl ⟨c, part_const.mp inner⟩
      · exact ih hr
  | select field inner ih =>
    cases h with
    | path spells =>
      cases spells with
      | select _ parent => exact ih (.path parent)

lemma subscriptsText_beside (other : Expr) (t : Term) :
    (beside other t).SubscriptsText ↔ t.SubscriptsText := by
  cases t with
  | text p => cases h : other.isNumeric <;> simp [beside, h, Term.SubscriptsText]
  | _ => rfl

lemma not_subscriptsText_of_const {c : Constant} (h : c.term? = .ok t) : ¬ t.SubscriptsText := by
  cases c with
  | int64 | uint64 | bool =>
    cases h
    exact id
  | double d =>
    rw [Constant.term?] at h
    split at h
    · cases h
      exact id
    · cases h
  | string s =>
    obtain ⟨s', -, rfl⟩ := map_eq_ok.mp h
    exact id

/-- A term has such a subscript if and only if its expression has such an index. -/
lemma Compiles.subscriptsText_iff (h : Compiles e t) : t.SubscriptsText ↔ Unfolded e := by
  -- paths and constants have neither; an operation has one of its own or in its operands
  induction h with
  | path spells => exact iff_of_false id spells.not_unfolded
  | @const c t term => exact iff_of_false (not_subscriptsText_of_const term) (not_unfolded_const c)
  | @subscript l i tl ti pathless left index hl hi =>
    have hfolds : (∃ p, Spells l p) → ¬ Folds i := by
      rintro ⟨p, hpath⟩ hfolds
      obtain ⟨s, hs⟩ := folds_iff.mp hfolds
      exact pathless _ (.index hpath hs)
    have htext : (∃ p, tl = .text p) ↔ ∃ p, Spells l p := by
      constructor
      · rintro ⟨p, rfl⟩
        exact ⟨p, left.spells⟩
      · rintro ⟨p, hpath⟩
        exact ⟨p, Except.ok.inj (left.term?.symm.trans hpath.term?)⟩
    rw [unfolded_binary, ← hl, ← hi, Term.SubscriptsText, htext]
    refine or_congr_left ⟨fun hpath => ⟨rfl, hpath, hfolds hpath⟩, fun h => h.2.1⟩
  | contains left needle hl =>
    rw [unfolded_binary, Term.SubscriptsText, hl]
    simp [not_unfolded_const]
  | compare c left right hl hr =>
    rw [unfolded_binary, Term.SubscriptsText, subscriptsText_beside, subscriptsText_beside, hl, hr]
    simp
  | connect k left right hl hr =>
    rw [unfolded_binary, Term.SubscriptsText, hl, hr]
    simp

/-- **Only a selection refuses an index that is no step of a path**: the text of a compiled filter
has a subscript behind the text of a path if and only if the filter somewhere indexes a path by
what is no place and no key. Such an index compiles if its argument does, and there is no fault
unless it stands in what a field is selected from. -/
theorem compile_of_unfolded (anchor : String) (e : Expr) :
    (∀ sql, e.compile anchor = .ok sql →
      ∃ t : Term, sql = t.render anchor ∧ (t.SubscriptsText ↔ Unfolded e))
    ∧ (∀ l i p, Spells l p → ¬ Folds i →
      (Expr.binary .index l i).term? = i.term?.map (.subscript (.text p)))
    ∧ (∀ p i, (Term.subscript (.text p) i).render anchor
      = (Term.text p).render anchor ++ "[" ++ i.render anchor ++ "]")
    ∧ ∀ o field, Part (.select o field) e → Unfolded o →
      ∃ error, e.compile anchor = .error error := by
  refine ⟨fun sql h => ?_, fun l i p => term?_unfolded,
    fun p i => render_subscript anchor (.text p) i, fun o field hpart ho => ?_⟩
  · obtain ⟨t, -, ht, rfl⟩ := compile_eq_ok.mp h
    exact ⟨t, rfl, ht.subscriptsText_iff⟩
  · cases h : e.compile anchor with
    | error error => exact ⟨error, rfl⟩
    | ok sql =>
      obtain ⟨t, -, ht, rfl⟩ := compile_eq_ok.mp h
      rcases ht.part hpart with ⟨c, hc⟩ | ⟨t', ht'⟩
      · cases hc
      · cases ht' with
        | path spells =>
          cases spells with
          | select _ parent => exact absurd ho parent.not_unfolded

/-- The element of `a` at the place that `x` holds. -/
def elementAtField : Expr := .binary .index (.ident "a") (.ident "x")

lemma unfolded_elementAtField : Unfolded elementAtField := by
  refine ⟨.ident "a", .ident "x", _, .self _, .ident "a", ?_⟩
  rintro ⟨⟩

/-- A field of such an element cannot be selected. -/
theorem compile_of_unfolded_selected :
    ∃ error, (Expr.binary (.compare .eq) (.select elementAtField "b") (.const (.int64 1))).compile
      payloadAnchor = .error error :=
  (compile_of_unfolded payloadAnchor _).2.2.2 elementAtField "b"
    (.call List.mem_cons_self (.self _)) unfolded_elementAtField

/-- A field is no step of a path, and yet an index by a field compiles: the subscript stands behind
the text of the path. -/
theorem compile_elementAtField :
    parse "a[x] = 1" = .ok (.binary (.compare .eq) elementAtField (.const (.int64 1)))
      ∧ (Expr.binary (.compare .eq) elementAtField (.const (.int64 1))).compile payloadAnchor
        = .ok "(data->>'a'[data->>'x'] = 1)"
      ∧ ¬ ∀ (anchor : String) (e : Expr), Unfolded e →
        ∃ error, e.compile anchor = .error error := by
  have hcompile : (Expr.binary (.compare .eq) elementAtField (.const (.int64 1))).compile
      payloadAnchor = .ok "(data->>'a'[data->>'x'] = 1)" := rfl
  have htokens : tokenize "a[x] = 1"
      = .ok [⟨.ident "a", 0⟩, ⟨.opening .square, 1⟩, ⟨.ident "x", 2⟩, ⟨.closing .square, 3⟩,
          ⟨.compare .eq, 5⟩, ⟨.const (.int64 1), 7⟩] :=
    toOption_eq_some.mp (by decide +kernel)
  refine ⟨?_, hcompile, fun hall => ?_⟩
  · rw [parse, htokens]
    rfl
  · obtain ⟨error, herror⟩ := hall payloadAnchor _
      (unfolded_binary.mpr (.inr (.inl unfolded_elementAtField)))
    rw [hcompile] at herror
    cases herror

end Catalog.Filter
