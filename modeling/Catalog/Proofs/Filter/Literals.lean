import Catalog.Proofs.Filter.Clause
import Catalog.Proofs.Filter.Shape

/-!
What stands in the literals of a clause: the texts of its filter, each as it is, in the order of
the filter, and a few fixed words. Together with what is outside of them this says that no text
changes the structure of a clause.
-/

namespace Catalog.Sql

variable {ag : List Glyph}

/-- What a literal of a clause stands for. -/
inductive Shown
  /-- The literals of the anchor. -/
  | anchor
  | text (s : String)
  /-- The pattern that looks for a text. -/
  | pattern (s : String)
  | fixed (word : String)
  deriving DecidableEq

/-- What is inside the quotes, over an anchor whose literals hold `al`. -/
def Shown.contents (al : List (List Char)) : Shown → List (List Char)
  | anchor => al
  | text s | fixed s => [s.toList]
  | pattern s => ['%' :: (escapePattern s.toList ++ ['%'])]

def Step.shown : Step → List Shown
  | key name => [.text name]
  | position _ => []

def Path.shown : Path → List Shown
  | root s => .anchor :: s.shown
  | child p s => p.shown ++ s.shown

/-- The literals of a term; a path that is read as a number is written twice. -/
def Term.shown : Term → List Shown
  | text p => p.shown
  | number p => p.shown ++ .fixed "number" :: p.shown
  | integer _ | decimal _ => []
  | literal s => [.text s]
  | compare _ l r | connect _ l r | subscript l r => l.shown ++ r.shown
  | contains l s => l.shown ++ [.pattern s]

lemma Step.literals_glyphs (s : Step) :
    literals (s.piece.glyphs ag) = s.shown.flatMap (Shown.contents (literals ag)) := by
  cases s with
  | key name => rfl
  | position i => exact literals_chars _

lemma Path.literals_json (p : Path) :
    literals (glyphs ag p.json) = p.shown.flatMap (Shown.contents (literals ag)) := by
  induction p with
  | root s => simp [json, shown, Shown.contents, s.literals_glyphs]
  | child p s ih => simp [json, shown, ih, s.literals_glyphs]

lemma Path.literals_text (p : Path) :
    literals (glyphs ag p.text) = p.shown.flatMap (Shown.contents (literals ag)) := by
  cases p with
  | root s => simp [text, shown, Shown.contents, s.literals_glyphs]
  | child p s => simp [text, shown, p.literals_json, s.literals_glyphs]

lemma literals_between (op : String) (ps qs : List Piece) :
    literals (glyphs ag (between op ps qs))
      = literals (glyphs ag ps) ++ literals (glyphs ag qs) := by
  simp [between]

/-- The literals of a term hold what it shows, and nothing else. -/
lemma Term.literals_glyphs (t : Term) :
    literals (glyphs ag t.pieces) = t.shown.flatMap (Shown.contents (literals ag)) := by
  induction t with
  | text p => exact p.literals_text
  | number p =>
    simp [pieces, shown, Shown.contents, p.literals_json, p.literals_text]
  | integer | decimal => simp [pieces, shown]
  | literal s => rfl
  | compare c l r hl hr => simp [pieces, shown, literals_between, hl, hr]
  | connect k l r hl hr => simp [pieces, shown, literals_between, hl, hr]
  | contains l s hl =>
    simp [pieces, shown, literals_between, hl, Shown.contents, containsPattern]
  | subscript l i hl hi => simp [pieces, shown, hl, hi]

end Catalog.Sql

namespace Catalog.Filter

open Catalog.Number Catalog.Sql

/-- A constant as a containment test looks for it. -/
def Constant.plainText : Constant → String
  | int64 i => toString i.toInt
  | uint64 u => toString u.toNat
  | double d => d.fixed 6
  | string s => s
  | bool b => boolText b

/-- The texts of an operand in a comparison; those of a path beside a number come twice. -/
def shownBeside (e other : Expr) (shown : List Shown) : List Shown :=
  match e.path? with
  | .ok _ => if other.isNumeric then shown ++ .fixed "number" :: shown else shown
  | .error _ => shown

mutual

/-- The texts of an expression in their order, with the words that stand beside them. -/
def Expr.shown : Expr → List Shown
  | .call f args =>
    match Operator.ofFunction? f, args, shownAll args with
    | some (.compare _), [l, r], [sl, sr] => shownBeside l r sl ++ shownBeside r l sr
    | some .has, [_, .const c], [sl, _] => sl ++ [.pattern c.plainText]
    | _, _, ss => ss.flatten
  | .select e field => e.shown ++ [.text field]
  | .ident name => [.anchor, .text name]
  | .const (.string s) => [.text s]
  | .const (.bool b) => [.text (Constant.boolText b)]
  | .const _ => []

def shownAll : List Expr → List (List Shown)
  | [] => []
  | e :: es => e.shown :: shownAll es

end

lemma Expr.shown_compare (c : Comparison) (l r : Expr) :
    (Expr.binary (.compare c) l r).shown
      = shownBeside l r l.shown ++ shownBeside r l r.shown := by
  simp [Expr.binary, Expr.shown, shownAll, Operator.ofFunction?_function]

lemma Expr.shown_connect (k : Connective) (l r : Expr) :
    (Expr.binary (.connect k) l r).shown = l.shown ++ r.shown := by
  simp [Expr.binary, Expr.shown, shownAll, Operator.ofFunction?_function]

lemma Expr.shown_index (l i : Expr) : (Expr.binary .index l i).shown = l.shown ++ i.shown := by
  simp [Expr.binary, Expr.shown, shownAll, Operator.ofFunction?_function]

lemma Expr.shown_has (l : Expr) (c : Constant) :
    (Expr.binary .has l (.const c)).shown = l.shown ++ [.pattern c.plainText] := by
  simp [Expr.binary, Expr.shown, shownAll, Operator.ofFunction?_function]

lemma shown_of_step? {i : Expr} {s : Step} (h : i.step? = .ok s) : s.shown = i.shown := by
  cases i with
  | const c =>
    cases c with
    | string k =>
      obtain rfl : Step.key k = s := by simpa [Expr.step?] using h
      rfl
    | int64 n =>
      obtain rfl : Step.position n = s := by simpa [Expr.step?] using h
      rfl
    | uint64 u =>
      rw [Expr.step?] at h
      split at h
      · obtain rfl := Except.ok.inj h
        rfl
      · simp at h
    | double | bool => simp [Expr.step?] at h
  | _ => simp [Expr.step?] at h

lemma Spells.shown {e : Expr} {p : Path} (h : Spells e p) : p.shown = e.shown := by
  induction h with
  | ident name => rfl
  | select field _ ih => simp [Path.shown, Step.shown, Expr.shown, ih]
  | index _ hs ih => rw [Path.shown, Expr.shown_index, ih, shown_of_step? hs]

lemma shown_of_term? {c : Constant} {t : Term} (h : c.term? = .ok t) :
    t.shown = (Expr.const c).shown := by
  cases c with
  | int64 | uint64 =>
    obtain rfl := Except.ok.inj h
    rfl
  | double d =>
    rw [Constant.term?] at h
    split at h
    · obtain rfl := Except.ok.inj h
      rfl
    · simp at h
  | string s =>
    obtain ⟨s', hs, rfl⟩ := map_eq_ok.mp h
    rw [checkText] at hs
    split at hs
    · simp at hs
    · obtain rfl := Except.ok.inj hs
      rfl
  | bool b =>
    obtain rfl := Except.ok.inj h
    rfl

lemma plainText_of_needle? {c : Constant} {s : String} (h : c.needle? = .ok s) :
    s = c.plainText := by
  cases c with
  | double | string =>
    simp only [Constant.needle?, checkText] at h
    split at h
    · simp_all [Constant.plainText]
    · simp_all [Constant.plainText]
  | int64 | uint64 | bool => exact (Except.ok.inj h).symm

/-- Beside another expression, the literals of a term are those of its operand. -/
lemma Compiles.shown_beside {e : Expr} {t : Term} (h : Compiles e t) (hs : t.shown = e.shown)
    (other : Expr) : (beside other t).shown = shownBeside e other e.shown := by
  cases hp : e.path? with
  | ok p =>
    obtain rfl : t = .text p := Except.ok.inj (h.term?.symm.trans (spells_of_path? hp).term?)
    have hps : p.shown = e.shown := hs
    by_cases hn : other.isNumeric <;> simp [beside, shownBeside, hp, hn, Term.shown, hps]
  | error =>
    rw [shownBeside, hp]
    cases t with
    | text p => exact absurd hp (by rw [h.spells.path?]; simp)
    | _ => exact hs

/-- A term shows what its expression shows. -/
lemma Compiles.shown {e : Expr} {t : Term} (h : Compiles e t) : t.shown = e.shown := by
  induction h with
  | path spells => exact spells.shown
  | const term => exact shown_of_term? term
  | subscript _ _ _ hl hi => rw [Expr.shown_index, Term.shown, hl, hi]
  | contains _ needle hl => rw [Expr.shown_has, Term.shown, hl, plainText_of_needle? needle]
  | compare c left right hl hr =>
    rw [Expr.shown_compare, Term.shown, left.shown_beside hl, right.shown_beside hr]
  | connect k _ _ hl hr => rw [Expr.shown_connect, Term.shown, hl, hr]

/-! ### Clauses -/

/-- **No text changes the structure of a clause**: a clause is one group in parentheses, equal
outside of literals for all expressions of one shape, and its literals hold the texts as they
are. -/
theorem clause_keeps_structure {anchor sql : String} {e : Expr} (ha : IsAnchor anchor)
    (h : e.compile anchor = .ok sql) :
    ∃ ag gs, glyphs? anchor = some ag ∧ glyphs? sql = some gs ∧ IsGroup gs
      ∧ (∀ e' sql', SameShape e e' → e'.compile anchor = .ok sql' →
        ∃ gs', glyphs? sql' = some gs' ∧ gs'.map Glyph.blank = gs.map Glyph.blank)
      ∧ literals gs = e.shown.flatMap (Shown.contents (literals ag)) := by
  obtain ⟨ag, hag⟩ := ha.anchored
  obtain ⟨t, ht, hreads, hgroup⟩ := clause_reads hag h
  refine ⟨ag, glyphs ag t.pieces, hag.reads.glyphs?, hreads.glyphs?, hgroup, ?_, ?_⟩
  · intro e' sql' hshape h'
    obtain ⟨t', ht', hreads', -⟩ := clause_reads hag h'
    refine ⟨_, hreads'.glyphs?, ?_⟩
    exact (blankGlyphs_eq_of_sameShape ht ht' hshape ag).symm
  · rw [t.literals_glyphs, ht.shown]

/-- A name, a text and a part of a text, each in its place. -/
def lookup (name text part : String) : Expr :=
  .binary (.connect .or)
    (.binary (.compare .eq) (.select (.ident name) "uri") (.const (.string text)))
    (.binary (.connect .and)
      (.binary (.compare .gt) (.binary .index (.ident "n") (.const (.string name)))
        (.const (.int64 5)))
      (.binary .has (.ident "d") (.const (.string part))))

/-- Quotes, wildcards and a forged end of the literal stay where they are. -/
theorem clause_keeps_structure_lookup :
    ∃ sql sql' gs gs',
      (lookup "it's" "') OR ('1'='1" "50%_\\").compile payloadAnchor = .ok sql
      ∧ (lookup "" "" "x").compile payloadAnchor = .ok sql'
      ∧ glyphs? sql = some gs ∧ glyphs? sql' = some gs'
      ∧ IsGroup gs ∧ gs'.map Glyph.blank = gs.map Glyph.blank
      ∧ literals gs = ["it's", "uri", "') OR ('1'='1", "n", "it's", "number", "n", "it's", "d",
        "%50\\%\\_\\\\%"].map String.toList := by
  have hsql : (lookup "it's" "') OR ('1'='1" "50%_\\").compile payloadAnchor = .ok _ := rfl
  have hsql' : (lookup "" "" "x").compile payloadAnchor = .ok _ := rfl
  obtain ⟨ag, gs, hag, hgs, hgroup, hshape, hlit⟩ := clause_keeps_structure (.inl rfl) hsql
  obtain ⟨gs', hgs', hblank⟩ := hshape (lookup "" "" "x") _ rfl hsql'
  obtain rfl : "data".toList.map .char = ag := Option.some.inj hag
  exact ⟨_, _, gs, gs', hsql, hsql', hgs, hgs', hgroup, hblank, hlit⟩

end Catalog.Filter
