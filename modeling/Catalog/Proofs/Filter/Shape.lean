import Catalog.Proofs.Filter.Compilation

/-!
The texts of a filter do not show in the structure of its condition. Two expressions that differ
in nothing but texts compile to terms that differ in nothing but texts, and so to clauses that
agree outside of their literals.
-/

namespace Catalog.Sql

variable {ag : List Glyph}

/-! ### Terms without their texts -/

def Step.erase : Step → Step
  | key _ => key ""
  | position i => position i

def Path.erase : Path → Path
  | root s => root s.erase
  | child p s => child p.erase s.erase

def Term.erase : Term → Term
  | text p => text p.erase
  | number p => number p.erase
  | integer i => integer i
  | decimal d => decimal d
  | literal _ => literal ""
  | compare c l r => compare c l.erase r.erase
  | connect k l r => connect k l.erase r.erase
  | contains l _ => contains l.erase ""
  | subscript l i => subscript l.erase i.erase

/-- What pieces stand for, except what is inside of literals. -/
def blankGlyphs (ag : List Glyph) (ps : List Piece) : List Glyph :=
  (glyphs ag ps).map Glyph.blank

@[simp] lemma blankGlyphs_nil : blankGlyphs ag [] = [] := rfl

@[simp] lemma blankGlyphs_cons (p : Piece) (ps : List Piece) :
    blankGlyphs ag (p :: ps) = (p.glyphs ag).map Glyph.blank ++ blankGlyphs ag ps := by
  simp [blankGlyphs]

@[simp] lemma blankGlyphs_append (ps qs : List Piece) :
    blankGlyphs ag (ps ++ qs) = blankGlyphs ag ps ++ blankGlyphs ag qs := by
  simp [blankGlyphs]

@[simp] lemma Step.blank_erase (s : Step) :
    (s.erase.piece.glyphs ag).map Glyph.blank = (s.piece.glyphs ag).map Glyph.blank := by
  cases s <;> rfl

@[simp] lemma Path.blank_json_erase (p : Path) :
    blankGlyphs ag p.erase.json = blankGlyphs ag p.json := by
  induction p with
  | root s => simp [Path.erase, Path.json]
  | child p s ih => simp [Path.erase, Path.json, ih]

@[simp] lemma Path.blank_text_erase (p : Path) :
    blankGlyphs ag p.erase.text = blankGlyphs ag p.text := by
  cases p with
  | root s => simp [Path.erase, Path.text]
  | child p s => simp [Path.erase, Path.text]

lemma Term.blank_erase (t : Term) : blankGlyphs ag t.erase.pieces = blankGlyphs ag t.pieces := by
  induction t with
  | text p => exact p.blank_text_erase
  | number p => simp [Term.erase, Term.pieces]
  | integer | decimal | literal => rfl
  | compare c l r hl hr => simp [Term.erase, Term.pieces, between, hl, hr]
  | connect k l r hl hr => simp [Term.erase, Term.pieces, between, hl, hr]
  | contains l s hl =>
    simp [Term.erase, Term.pieces, between, hl, Glyph.blank]
  | subscript l i hl hi => simp [Term.erase, Term.pieces, hl, hi]

end Catalog.Sql

namespace Catalog.Filter

open Catalog.Sql

/-! ### Expressions without their texts -/

mutual

/-- Names, fields and string constants are left empty; functions and all else stay. -/
def Expr.erase : Expr → Expr
  | .call f args => .call f (eraseAll args)
  | .select e _ => .select e.erase ""
  | .ident _ => .ident ""
  | .const (.string _) => .const (.string "")
  | .const c => .const c

def eraseAll : List Expr → List Expr
  | [] => []
  | e :: es => e.erase :: eraseAll es

end

/-- The expressions differ in nothing but the texts of names, fields and string constants. -/
def SameShape (e e' : Expr) : Prop := e.erase = e'.erase

lemma Expr.erase_binary (op : Operator) (l r : Expr) :
    (Expr.binary op l r).erase = .binary op l.erase r.erase := rfl

lemma Expr.isNumeric_erase (e : Expr) : e.erase.isNumeric = e.isNumeric := by
  cases e with
  | const c => cases c <;> rfl
  | _ => rfl

lemma step?_erase {i : Expr} {s : Step} (h : i.step? = .ok s) :
    ∃ s', i.erase.step? = .ok s' ∧ s'.erase = s.erase := by
  cases i with
  | const c =>
    cases c with
    | string k =>
      obtain rfl : Step.key k = s := by simpa [Expr.step?] using h
      exact ⟨.key "", rfl, rfl⟩
    | int64 | uint64 => exact ⟨s, h, rfl⟩
    | double | bool => simp [Expr.step?] at h
  | _ => simp [Expr.step?] at h

lemma step?_of_erase {i : Expr} {s' : Step} (h : i.erase.step? = .ok s') :
    ∃ s, i.step? = .ok s := by
  cases i with
  | const c =>
    cases c with
    | string k => exact ⟨.key k, rfl⟩
    | int64 | uint64 => exact ⟨s', h⟩
    | double | bool => simp [Expr.erase, Expr.step?] at h
  | _ => simp [Expr.erase, Expr.step?] at h

lemma Spells.erase {e : Expr} {p : Path} (h : Spells e p) :
    ∃ p', Spells e.erase p' ∧ p'.erase = p.erase := by
  induction h with
  | ident name => exact ⟨_, .ident "", rfl⟩
  | select field _ ih =>
    obtain ⟨p', hp', he⟩ := ih
    exact ⟨_, .select "" hp', by simp [Path.erase, Step.erase, he]⟩
  | index _ hs ih =>
    obtain ⟨p', hp', he⟩ := ih
    obtain ⟨s', hs', hse⟩ := step?_erase hs
    exact ⟨_, .index hp' hs', by simp [Path.erase, he, hse]⟩

lemma exists_pair_of_eraseAll {args : List Expr} {l' i' : Expr} (h : eraseAll args = [l', i']) :
    ∃ l i, args = [l, i] := by
  rcases args with _ | ⟨l, _ | ⟨i, _ | ⟨e, es⟩⟩⟩
  · simp [eraseAll] at h
  · simp [eraseAll] at h
  · exact ⟨l, i, rfl⟩
  · simp [eraseAll] at h

lemma spells_of_erase {e : Expr} {p' : Path} (h : Spells e.erase p') : ∃ p, Spells e p := by
  induction e using Expr.induction generalizing p' with
  | call f args ih =>
    obtain ⟨l', i', he⟩ := Expr.eq_binary_of_path? (Spells.path? h)
    have hargs : f = Operator.index.function ∧ eraseAll args = [l', i'] := by
      simpa [Expr.binary] using he
    obtain ⟨rfl, hpair⟩ := hargs
    obtain ⟨l, i, rfl⟩ := exists_pair_of_eraseAll hpair
    have hcall : Spells (.binary .index l.erase i.erase) p' := h
    have hpath := Spells.path? hcall
    rw [Expr.path?_binary, if_pos rfl, extendPath_eq_ok] at hpath
    obtain ⟨q, s', hq, hs', -⟩ := hpath
    obtain ⟨p, hp⟩ := ih l (by simp) (spells_of_path? hq)
    obtain ⟨s, hs⟩ := step?_of_erase hs'
    exact ⟨_, .index hp hs⟩
  | select e field ih =>
    have h' : Spells (.select e.erase "") p' := h
    cases h' with
    | select _ parent =>
      obtain ⟨p, hp⟩ := ih parent
      exact ⟨_, .select field hp⟩
  | ident name => exact ⟨_, .ident name⟩
  | const c => cases c <;> cases h

lemma beside_erase (other : Expr) (t : Term) : (beside other t).erase = beside other t.erase := by
  cases t with
  | text p => by_cases h : other.isNumeric <;> simp [beside, Term.erase, h]
  | _ => rfl

lemma beside_congr {other other' : Expr} (h : other.isNumeric = other'.isNumeric) (t : Term) :
    beside other t = beside other' t := by
  unfold beside
  rw [h]

/-- Without its texts an expression compiles to a term that differs in texts only. -/
theorem Compiles.erase {e : Expr} {t : Term} (h : Compiles e t) :
    ∃ t', Compiles e.erase t' ∧ t'.erase = t.erase := by
  induction h with
  | path spells =>
    obtain ⟨p', hp', he⟩ := spells.erase
    exact ⟨_, .path hp', by simp [Term.erase, he]⟩
  | @const c t term =>
    cases c with
    | string s =>
      obtain ⟨s', -, rfl⟩ := map_eq_ok.mp term
      exact ⟨.literal "", .const (by simp [Constant.term?, checkText, Except.map]), rfl⟩
    | _ => exact ⟨t, .const term, rfl⟩
  | subscript pathless _ _ hl hi =>
    obtain ⟨tl', hl', hle⟩ := hl
    obtain ⟨ti', hi', hie⟩ := hi
    refine ⟨_, .subscript (fun p hp => ?_) hl' hi', by simp [Term.erase, hle, hie]⟩
    obtain ⟨q, hq⟩ := spells_of_erase (e := .binary .index _ _) hp
    exact pathless q hq
  | @contains l c tl s left needle hl =>
    obtain ⟨tl', hl', hle⟩ := hl
    have hneedle : ∃ c' s', Expr.erase (.const c) = .const c' ∧ c'.needle? = .ok s' := by
      cases c with
      | string => exact ⟨.string "", "", rfl, by simp [Constant.needle?, checkText]⟩
      | _ => exact ⟨_, s, rfl, needle⟩
    obtain ⟨c', s', hc', hs'⟩ := hneedle
    refine ⟨.contains tl' s', ?_, by simp [Term.erase, hle]⟩
    rw [Expr.erase_binary, hc']
    exact .contains hl' hs'
  | compare c _ _ hl hr =>
    obtain ⟨tl', hl', hle⟩ := hl
    obtain ⟨tr', hr', hre⟩ := hr
    refine ⟨_, .compare c hl' hr', ?_⟩
    simp only [Term.erase, beside_erase, hle, hre, beside_congr (Expr.isNumeric_erase _)]
  | connect k _ _ hl hr =>
    obtain ⟨tl', hl', hle⟩ := hl
    obtain ⟨tr', hr', hre⟩ := hr
    exact ⟨_, .connect k hl' hr', by simp [Term.erase, hle, hre]⟩

/-- Expressions of one shape agree outside of literals. -/
theorem blankGlyphs_eq_of_sameShape {e e' : Expr} {t t' : Term} (ht : Compiles e t)
    (ht' : Compiles e' t') (h : SameShape e e') (ag : List Glyph) :
    blankGlyphs ag t.pieces = blankGlyphs ag t'.pieces := by
  obtain ⟨u, hu, hue⟩ := ht.erase
  obtain ⟨u', hu', hue'⟩ := ht'.erase
  have huu : u = u' := by
    have := hu.term?
    rw [show e.erase = e'.erase from h, hu'.term?] at this
    exact (Except.ok.inj this).symm
  rw [← t.blank_erase, ← t'.blank_erase, ← hue, ← hue', huu]

end Catalog.Filter
