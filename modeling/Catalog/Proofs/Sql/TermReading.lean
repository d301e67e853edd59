import Catalog.Proofs.Sql.PathReading
import Catalog.Proofs.Sql.Pattern

/-!
The text of a term can be read in one way only. Its first glyph tells what kind of term it is, and
each kind knows where it ends; only an index shows no sooner than behind what it is taken of, so a
term is read as its head and the indices behind it. Two terms with one text differ at most in
numbers that have the same six decimal places.
-/

namespace Catalog.Sql

open Catalog.Number

variable {ag gs rest rest' : List Glyph}

/-! ### How terms begin -/

/-- What the first glyph of a term tells about it. -/
inductive Beginning
  | path
  | cast
  | numeral
  | literal
  | group
  deriving DecidableEq

def Glyph.beginning : Glyph → Beginning
  | .literal _ => .literal
  | .char c =>
    if c = '(' then .group
    else if c = 'C' then .cast
    else if c.isLower then .path
    else .numeral

def Term.beginning : Term → Beginning
  | text _ => .path
  | number _ => .cast
  | integer _ | decimal _ => .numeral
  | literal _ => .literal
  | compare .. | connect .. | contains .. => .group
  | subscript l _ => l.beginning

/-- The first glyph tells of this beginning. -/
def Begins (b : Beginning) (gs : List Glyph) : Prop := ∃ g hs, gs = g :: hs ∧ g.beginning = b

lemma Begins.append {b : Beginning} (h : Begins b gs) (hs : List Glyph) : Begins b (gs ++ hs) := by
  obtain ⟨g, gs', rfl, hb⟩ := h
  exact ⟨g, gs' ++ hs, rfl, hb⟩

lemma Begins.unique {b b' : Beginning} (h : Begins b gs) (h' : Begins b' gs) : b = b' := by
  obtain ⟨g, hs, rfl, rfl⟩ := h
  obtain ⟨g', hs', heq, rfl⟩ := h'
  rw [(List.cons.inj heq).1]

lemma beginning_of_isDigit {c : Char} (h : c.isDigit) : (Glyph.char c).beginning = .numeral := by
  have hnot : ∀ d : Char, d.isDigit = false → c ≠ d := by
    rintro d hd rfl
    simp [h] at hd
  have hlower : c.isLower = false := by
    simp only [Char.isDigit, ge_iff_le, Bool.and_eq_true, decide_eq_true_eq] at h
    have hless : ¬ 'a'.val ≤ c.val := fun hl => absurd (UInt32.le_trans hl h.2) (by decide)
    exact Bool.and_eq_false_iff.mpr (.inl (decide_eq_false hless))
  rw [Glyph.beginning, if_neg (hnot '(' (by decide)), if_neg (hnot 'C' (by decide)), hlower]
  rfl

lemma IsNumeral.begins {cs : List Char} (h : IsNumeral cs) : Begins .numeral (cs.map .char) := by
  obtain ⟨c, ds, rfl⟩ := List.exists_cons_of_ne_nil h.ne_nil
  refine ⟨.char c, ds.map .char, rfl, ?_⟩
  rcases h.forall c List.mem_cons_self with hc | rfl | rfl
  · exact beginning_of_isDigit hc
  · decide
  · decide

lemma Term.begins (ha : Begins .path ag) (t : Term) : Begins t.beginning (glyphs ag t.pieces) := by
  induction t with
  | text p =>
    rw [pieces, p.glyphs_text]
    exact ha.append _
  | number p => exact ⟨.char 'C', _, rfl, rfl⟩
  | integer i => exact (isNumeral_int i).begins.append []
  | decimal d => exact (isNumeral_fixed 6 d).begins.append []
  | literal s => exact ⟨.literal s.toList, _, rfl, rfl⟩
  | compare | connect | contains => exact ⟨.char '(', _, rfl, rfl⟩
  | subscript l i hl hi =>
    rw [pieces, glyphs_append, glyphs_append, List.append_assoc]
    exact hl.append _

/-- Terms with one text begin alike. -/
lemma Term.beginning_eq (ha : Begins .path ag) {t t' : Term}
    (h : glyphs ag t.pieces ++ rest = glyphs ag t'.pieces ++ rest') :
    t.beginning = t'.beginning :=
  ((t.begins ha).append rest).unique (h ▸ (t'.begins ha).append rest')

/-! ### Terms -/

/-- The terms differ at most in numbers that have the same six decimal places. -/
inductive Term.Alike : Term → Term → Prop
  | text (p : Path) : Alike (.text p) (.text p)
  | number (p : Path) : Alike (.number p) (.number p)
  | integer (i : Int) : Alike (.integer i) (.integer i)
  | decimal {d d' : Double} (places : d.fixed 6 = d'.fixed 6) : Alike (.decimal d) (.decimal d')
  | literal (s : String) : Alike (.literal s) (.literal s)
  | compare (c : Comparison) {l l' r r' : Term} (left : Alike l l') (right : Alike r r') :
      Alike (.compare c l r) (.compare c l' r')
  | connect (k : Connective) {l l' r r' : Term} (left : Alike l l') (right : Alike r r') :
      Alike (.connect k l r) (.connect k l' r')
  | contains {l l' : Term} (left : Alike l l') (s : String) :
      Alike (.contains l s) (.contains l' s)
  | subscript {l l' i i' : Term} (left : Alike l l') (index : Alike i i') :
      Alike (.subscript l i) (.subscript l' i')

/-- What all indices of a term are taken of. -/
def Term.head : Term → Term
  | subscript l _ => l.head
  | t => t

/-- The indices behind the head, the innermost first. -/
def Term.indices : Term → List Term
  | subscript l i => l.indices ++ [i]
  | _ => []

lemma Term.foldl_indices (t : Term) : t.indices.foldl subscript t.head = t := by
  induction t with
  | subscript l i hl hi => rw [indices, head, List.foldl_concat, hl]
  | _ => rfl

lemma Term.head_head (t : Term) : t.head.head = t.head := by
  induction t with
  | subscript l i hl hi => exact hl
  | _ => rfl

lemma Term.head_ne_subscript (t l i : Term) : t.head ≠ .subscript l i := by
  induction t with
  | subscript l' i' hl hi => exact hl
  | _ => exact Term.noConfusion

/-- An index as it is written. -/
def bracketed (ag : List Glyph) (i : Term) : List Glyph :=
  .char '[' :: (glyphs ag i.pieces ++ [.char ']'])

lemma Term.glyphs_head_append (t : Term) :
    glyphs ag t.pieces = glyphs ag t.head.pieces ++ t.indices.flatMap (bracketed ag) := by
  induction t with
  | subscript l i hl hi => simp [pieces, head, indices, hl, bracketed]
  | _ => exact (List.append_nil _).symm

lemma Term.alike_foldl {h h' : Term} {is is' : List Term} (hhead : h.Alike h')
    (hindices : List.Forall₂ Alike is is') :
    Alike (is.foldl subscript h) (is'.foldl subscript h') := by
  induction hindices generalizing h h' with
  | nil => exact hhead
  | cons hi _ ih => exact ih (.subscript hhead hi)

/-- The text of a term tells which one it is, and where it ends. -/
def Term.Told (ag : List Glyph) (t : Term) : Prop :=
  ∀ ⦃t' : Term⦄ ⦃rest rest' : List Glyph⦄, Ends rest → Ends rest' →
    glyphs ag t.pieces ++ rest = glyphs ag t'.pieces ++ rest' → t.Alike t' ∧ rest = rest'

/-- The same of the head of a term, which may be followed by indices. -/
def Term.HeadTold (ag : List Glyph) (t : Term) : Prop :=
  ∀ ⦃t' : Term⦄ ⦃rest rest' : List Glyph⦄, t'.head = t' → Stops rest → Stops rest' →
    glyphs ag t.pieces ++ rest = glyphs ag t'.pieces ++ rest' → t.Alike t' ∧ rest = rest'

lemma stops_indices (is : List Term) (h : Ends rest) :
    Stops (is.flatMap (bracketed ag) ++ rest) := by
  cases is with
  | nil => exact h.stops
  | cons i is => simp [Stops, bracketed]

/-- Indices are told apart, one after the other, up to where none follows. -/
lemma indices_inj {is is' : List Term} (his : ∀ i ∈ is, i.Told ag) (hrest : Ends rest)
    (hrest' : Ends rest')
    (h : is.flatMap (bracketed ag) ++ rest = is'.flatMap (bracketed ag) ++ rest') :
    List.Forall₂ Term.Alike is is' ∧ rest = rest' := by
  have hnone : ∀ {rest : List Glyph}, Ends rest → ∀ i gs, rest ≠ bracketed ag i ++ gs := by
    rintro rest hrest i gs rfl
    simpa using hrest (.char '[') rfl
  induction is generalizing is' with
  | nil =>
    cases is' with
    | nil => exact ⟨.nil, h⟩
    | cons i' is' =>
      rw [List.flatMap_cons, List.append_assoc] at h
      exact absurd h (hnone hrest _ _)
  | cons i is ih =>
    cases is' with
    | nil =>
      rw [List.flatMap_cons, List.append_assoc] at h
      exact absurd h.symm (hnone hrest' _ _)
    | cons i' is' =>
      simp only [List.flatMap_cons, bracketed, List.cons_append, List.append_assoc,
        List.cons.injEq, true_and, List.nil_append] at h
      obtain ⟨hi, hbehind⟩ := his i List.mem_cons_self (ends_cons (by decide) _)
        (ends_cons (by decide) _) h
      obtain ⟨hindices, hrests⟩ :=
        ih (fun j hj => his j (List.mem_cons_of_mem _ hj)) (List.cons.inj hbehind).2
      exact ⟨.cons hi hindices, hrests⟩

lemma Term.told_of_head {t : Term} (hhead : t.head.HeadTold ag)
    (hindices : ∀ i ∈ t.indices, i.Told ag) : t.Told ag := by
  intro t' rest rest' hrest hrest' h
  rw [t.glyphs_head_append, t'.glyphs_head_append, List.append_assoc, List.append_assoc] at h
  obtain ⟨hheads, hbehind⟩ :=
    hhead t'.head_head (stops_indices _ hrest) (stops_indices _ hrest') h
  obtain ⟨hall, hrests⟩ := indices_inj hindices hrest hrest' hbehind
  refine ⟨?_, hrests⟩
  rw [← t.foldl_indices, ← t'.foldl_indices]
  exact alike_foldl hheads hall

/-! ### Groups -/

/-- What joins the two sides of a group. -/
inductive Joint
  | compare (c : Comparison)
  | connect (k : Connective)
  | like

def Joint.sql : Joint → String
  | compare c => c.sql
  | connect k => k.sql
  | like => "LIKE"

lemma Joint.sql_inj {j j' : Joint} (h : j.sql = j'.sql) : j = j' := by
  rcases j with (_ | _ | _ | _ | _ | _) | (_ | _) | _ <;>
    rcases j' with (_ | _ | _ | _ | _ | _) | (_ | _) | _ <;>
    first | rfl | exact absurd h (by decide)

lemma Joint.blank_notMem (j : Joint) : ' ' ∉ j.sql.toList := by
  rcases j with (_ | _ | _ | _ | _ | _) | (_ | _) | _ <;> decide

/-- The joint of a group and what stands on its sides. -/
def Term.parts? : Term → Option (Joint × Term × Term)
  | compare c l r => some (.compare c, l, r)
  | connect k l r => some (.connect k, l, r)
  | contains l s => some (.like, l, .literal (containsPattern s))
  | _ => none

lemma Term.exists_parts {t : Term} (h : t.IsCondition) : ∃ j l r, t.parts? = some (j, l, r) := by
  cases t with
  | compare | connect | contains => exact ⟨_, _, _, rfl⟩
  | _ => exact h.elim

lemma Term.glyphs_parts {t l r : Term} {j : Joint} (h : t.parts? = some (j, l, r)) :
    glyphs ag t.pieces = .char '(' :: (glyphs ag l.pieces ++ .char ' ' :: (j.sql.toList.map .char
      ++ .char ' ' :: (glyphs ag r.pieces ++ [.char ')']))) := by
  cases t with
  | compare | connect | contains =>
    obtain ⟨rfl, rfl, rfl⟩ : _ ∧ _ ∧ _ := by simpa [parts?] using h
    simp [pieces, between, Joint.sql]
  | _ => simp [parts?] at h

/-- A pattern tells what it looks for. -/
lemma containsPattern_inj {s s' : String} (h : containsPattern s = containsPattern s') :
    s = s' := by
  have hwild := wildcards?_containsPattern s
  rw [h, wildcards?_containsPattern] at hwild
  have hexact := List.append_cancel_right (List.cons.inj (Option.some.inj hwild)).2
  have hchars : Function.Injective Wildcard.exactly := fun _ _ => Wildcard.exactly.inj
  exact (String.toList_inj.mp (List.map_injective_iff.mpr hchars hexact)).symm

lemma Term.Alike.literal_inj {s s' : String} (h : (Term.literal s).Alike (.literal s')) :
    s = s' := by
  cases h
  rfl

/-- The parts of a group tell which one it is. -/
lemma Term.alike_of_parts {t t' l l' r r' : Term} {j : Joint} (h : t.parts? = some (j, l, r))
    (h' : t'.parts? = some (j, l', r')) (hl : l.Alike l') (hr : r.Alike r') : t.Alike t' := by
  cases j with
  | compare c =>
    obtain rfl : t = .compare c l r := by cases t <;> simp_all [parts?]
    obtain rfl : t' = .compare c l' r' := by cases t' <;> simp_all [parts?]
    exact .compare c hl hr
  | connect k =>
    obtain rfl : t = .connect k l r := by cases t <;> simp_all [parts?]
    obtain rfl : t' = .connect k l' r' := by cases t' <;> simp_all [parts?]
    exact .connect k hl hr
  | like =>
    obtain ⟨s, rfl, rfl⟩ : ∃ s, t = .contains l s ∧ r = .literal (containsPattern s) := by
      cases t <;> simp_all [parts?]
    obtain ⟨s', rfl, rfl⟩ : ∃ s, t' = .contains l' s ∧ r' = .literal (containsPattern s) := by
      cases t' <;> simp_all [parts?]
    rw [containsPattern_inj hr.literal_inj]
    exact .contains hl s'

lemma Term.isCondition_of_head {t : Term} (hhead : t.head = t) (h : t.beginning = .group) :
    t.IsCondition := by
  cases t with
  | compare | connect | contains => trivial
  | subscript l i => exact absurd hhead (l.head_ne_subscript l i)
  | _ => exact Beginning.noConfusion h

/-- A group is told where its sides are: the left one ends at a blank, and so does its joint. -/
lemma Term.headTold_of_parts (ha : Begins .path ag) {t l r : Term} {j : Joint}
    (hgroup : t.beginning = .group) (h : t.parts? = some (j, l, r)) (hl : l.Told ag)
    (hr : r.Told ag) : t.HeadTold ag := by
  intro t' rest rest' hhead hrest hrest' heq
  obtain ⟨j', l', r', h'⟩ :=
    exists_parts (isCondition_of_head hhead (hgroup ▸ (beginning_eq ha heq).symm))
  rw [glyphs_parts h, glyphs_parts h'] at heq
  simp only [List.cons_append, List.append_assoc, List.cons.injEq, true_and,
    List.nil_append] at heq
  obtain ⟨hleft, hbehind⟩ := hl (ends_cons (by decide) _) (ends_cons (by decide) _) heq
  have hunspaced : ∀ j : Joint, ∀ g ∈ j.sql.toList.map Glyph.char, g ≠ .char ' ' := by
    rintro j g hg rfl
    obtain ⟨c, hc, hblank⟩ := List.mem_map.mp hg
    exact j.blank_notMem (Glyph.char.inj hblank ▸ hc)
  obtain ⟨hjoint, hright⟩ := append_inj_of_forall (hunspaced j) (hunspaced j') (by simp) (by simp)
    (List.cons.inj hbehind).2
  obtain rfl : j = j' :=
    Joint.sql_inj (String.toList_inj.mp (List.map_injective_iff.mpr (fun _ _ => Glyph.char.inj)
      hjoint))
  obtain ⟨hright, hend⟩ :=
    hr (ends_cons (by decide) _) (ends_cons (by decide) _) (List.cons.inj hright).2
  exact ⟨alike_of_parts h h' hleft hright, (List.cons.inj hend).2⟩

/-! ### Numbers as terms -/

/-- The figures of a number. -/
def Term.figures? : Term → Option String
  | integer i => some (toString i)
  | decimal d => some (d.fixed 6)
  | _ => none

lemma Term.exists_figures {t : Term} (hhead : t.head = t) (h : t.beginning = .numeral) :
    ∃ s, t.figures? = some s := by
  cases t with
  | integer | decimal => exact ⟨_, rfl⟩
  | subscript l i => exact absurd hhead (l.head_ne_subscript l i)
  | _ => exact Beginning.noConfusion h

lemma Term.glyphs_figures (ag : List Glyph) {t : Term} {s : String} (h : t.figures? = some s) :
    glyphs ag t.pieces = s.toList.map .char ∧ IsNumeral s.toList := by
  cases t with
  | integer i =>
    obtain rfl := Option.some.inj h
    exact ⟨List.append_nil _, isNumeral_int i⟩
  | decimal d =>
    obtain rfl := Option.some.inj h
    exact ⟨List.append_nil _, isNumeral_fixed 6 d⟩
  | _ => simp [figures?] at h

lemma point_mem_fixed (places : ℕ) (d : Double) : '.' ∈ (d.fixed places).toList := by
  unfold Double.fixed
  simp

lemma point_notMem_int (i : Int) : '.' ∉ (toString i).toList := by
  have hdigits : ∀ n : ℕ, '.' ∉ Nat.toDigits 10 n :=
    fun n h => absurd (Text.isDigit_toDigits h) (by decide)
  cases i with
  | ofNat n => simpa [Int.toString_eq_repr, Int.repr, Nat.repr] using hdigits n
  | negSucc n => simpa [Int.toString_eq_repr, Int.repr, Nat.repr] using hdigits (n + 1)

/-- Of the numbers only those with decimal places have a point. -/
lemma Term.alike_of_figures {t t' : Term} {s : String} (h : t.figures? = some s)
    (h' : t'.figures? = some s) : t.Alike t' := by
  have hpoint : ∀ (i : Int) (d : Double), toString i ≠ d.fixed 6 :=
    fun i d heq => point_notMem_int i (heq ▸ point_mem_fixed 6 d)
  cases t with
  | integer i =>
    obtain rfl := Option.some.inj h
    cases t' with
    | integer j =>
      rw [Text.toString_inj (congrArg String.toList (Option.some.inj h'))]
      exact .integer i
    | decimal d => exact absurd (Option.some.inj h').symm (hpoint i d)
    | _ => simp [figures?] at h'
  | decimal d =>
    obtain rfl := Option.some.inj h
    cases t' with
    | integer i => exact absurd (Option.some.inj h') (hpoint i d)
    | decimal d' => exact .decimal (Option.some.inj h').symm
    | _ => simp [figures?] at h'
  | _ => simp [figures?] at h

lemma Term.headTold_of_figures (ha : Begins .path ag) {t : Term} {s : String}
    (hnumeral : t.beginning = .numeral) (h : t.figures? = some s) : t.HeadTold ag := by
  intro t' rest rest' hhead hrest hrest' heq
  obtain ⟨s', h'⟩ := exists_figures hhead (hnumeral ▸ (beginning_eq ha heq).symm)
  obtain ⟨hglyphs, hs⟩ := glyphs_figures ag h
  obtain ⟨hglyphs', hs'⟩ := glyphs_figures ag h'
  rw [hglyphs, hglyphs'] at heq
  obtain ⟨htext, hrests⟩ := hs.append_inj hs' hrest.not_isFigure hrest'.not_isFigure heq
  rw [← String.toList_inj.mp htext] at h'
  exact ⟨alike_of_figures h h', hrests⟩

/-! ### All terms -/

lemma Term.headTold_text (ha : Begins .path ag) (p : Path) : (text p).HeadTold ag := by
  intro t' rest rest' hhead hrest hrest' heq
  cases t' with
  | text q =>
    obtain ⟨rfl, hrests⟩ := Path.text_inj hrest hrest' heq
    exact ⟨.text p, hrests⟩
  | subscript l i => exact absurd hhead (l.head_ne_subscript l i)
  | _ => exact Beginning.noConfusion (beginning_eq ha heq)

lemma Term.headTold_number (ha : Begins .path ag) (p : Path) : (number p).HeadTold ag := by
  intro t' rest rest' hhead hrest hrest' heq
  cases t' with
  | number q =>
    simp only [pieces, glyphs_cons, List.append_assoc, List.cons_append, glyphs_append,
      List.append_cancel_left_eq] at heq
    obtain ⟨rfl, hbehind⟩ := Path.json_inj (by simp [Stops]) (by simp [Stops]) heq
    simp only [List.append_cancel_left_eq] at hbehind
    exact ⟨.number p, hbehind⟩
  | subscript l i => exact absurd hhead (l.head_ne_subscript l i)
  | _ => exact Beginning.noConfusion (beginning_eq ha heq)

lemma Term.headTold_literal (ha : Begins .path ag) (s : String) : (literal s).HeadTold ag := by
  intro t' rest rest' hhead hrest hrest' heq
  cases t' with
  | literal s' =>
    obtain ⟨hs, hrests⟩ := List.cons.inj heq
    obtain rfl := String.toList_inj.mp (Glyph.literal.inj hs)
    exact ⟨.literal s, hrests⟩
  | subscript l i => exact absurd hhead (l.head_ne_subscript l i)
  | _ => exact Beginning.noConfusion (beginning_eq ha heq)

/-- Every term is told from its text: a group and an index by what they are made of, everything
else by its first glyph and its end. -/
lemma Term.told (ha : Begins .path ag) (t : Term) : t.Told ag := by
  have hhead : t.head.HeadTold ag ∧ ∀ i ∈ t.indices, i.Told ag := by
    induction t with
    | text p => exact ⟨headTold_text ha p, List.forall_mem_nil _⟩
    | number p => exact ⟨headTold_number ha p, List.forall_mem_nil _⟩
    | integer i => exact ⟨headTold_of_figures ha rfl rfl, List.forall_mem_nil _⟩
    | decimal d => exact ⟨headTold_of_figures ha rfl rfl, List.forall_mem_nil _⟩
    | literal s => exact ⟨headTold_literal ha s, List.forall_mem_nil _⟩
    | compare c l r hl hr =>
      exact ⟨headTold_of_parts ha rfl rfl (told_of_head hl.1 hl.2) (told_of_head hr.1 hr.2),
        List.forall_mem_nil _⟩
    | connect k l r hl hr =>
      exact ⟨headTold_of_parts ha rfl rfl (told_of_head hl.1 hl.2) (told_of_head hr.1 hr.2),
        List.forall_mem_nil _⟩
    | contains l s hl =>
      have hpattern : (literal (containsPattern s)).Told ag :=
        told_of_head (headTold_literal ha _) (List.forall_mem_nil _)
      exact ⟨headTold_of_parts ha rfl rfl (told_of_head hl.1 hl.2) hpattern,
        List.forall_mem_nil _⟩
    | subscript l i hl hi =>
      refine ⟨hl.1, fun j hj => ?_⟩
      rcases List.mem_append.mp hj with hj | hj
      · exact hl.2 j hj
      · rw [List.mem_singleton.mp hj]
        exact told_of_head hi.1 hi.2
  exact told_of_head hhead.1 hhead.2

/-- Terms with one text are alike. -/
theorem Term.alike_of_glyphs_eq (ha : Begins .path ag) {t t' : Term}
    (h : glyphs ag t.pieces = glyphs ag t'.pieces) : t.Alike t' :=
  (t.told ha ends_nil ends_nil (by rw [h])).1

end Catalog.Sql
