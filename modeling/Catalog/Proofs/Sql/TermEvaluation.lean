import Catalog.Proofs.Sql.Evaluation
import Catalog.Proofs.Sql.TermExpression

/-!
The values of paths, over an anchor that is a document. A path never fails: where it leads nowhere
it is null, and it is only cast to a number where it leads to one.
-/

namespace Catalog.Sql

variable {engine : Engine} {row : Row} {anchor : Expression} {d : Document}

/-- The expression is the document. -/
structure IsDocument (engine : Engine) (row : Row) (anchor : Expression) (d : Document) : Prop where
  type : anchor.type? row = some .json
  eval : anchor.eval engine row = .ok (some (.json d))

/-! ### Texts that can be sent -/

def Piece.NulFree : Piece → Prop
  | .anchor => True
  | code s | literal s => Sql.NulFree s

lemma nulFree_quoteLiteral {s : String} (h : NulFree s) : NulFree (quoteLiteral s) := by
  have hdoubled : '\x00' ∉ doubleQuotes s.toList := by
    intro hmem
    obtain ⟨c, hc, hin⟩ := List.mem_flatMap.mp hmem
    split at hin
    · simp at hin
    · obtain rfl := List.mem_singleton.mp hin
      exact h hc
  simpa [NulFree, quoteLiteral] using hdoubled

lemma nulFree_containsPattern {s : String} (h : NulFree s) : NulFree (containsPattern s) := by
  have hescaped : '\x00' ∉ escapePattern s.toList := by
    intro hmem
    obtain ⟨c, hc, hin⟩ := List.mem_flatMap.mp hmem
    split at hin
    · obtain rfl : '\x00' = c := by simpa using hin
      exact h hc
    · obtain rfl := List.mem_singleton.mp hin
      exact h hc
  simpa [NulFree, containsPattern] using hescaped

lemma nulFree_toString (i : ℤ) : NulFree (toString i) := (isNumeral_int i).notMem (by decide)

/-- What is written out of such pieces can be sent. -/
lemma nulFree_written {name : String} (ha : NulFree name) {ps : List Piece}
    (h : ∀ p ∈ ps, p.NulFree) : '\x00' ∉ written name ps := by
  intro hmem
  obtain ⟨p, hp, hin⟩ := List.mem_flatMap.mp hmem
  have hnul := h p hp
  cases p with
  | anchor => exact ha hin
  | code s => exact hnul hin
  | literal s => exact nulFree_quoteLiteral hnul hin

/-- Texts that can be sent, and positions of 32 bits. -/
def Step.Plain : Step → Prop
  | key name => NulFree name
  | position i => FitsIn 32 i.toInt

def Path.Plain : Path → Prop
  | root s => s.Plain
  | child p s => p.Plain ∧ s.Plain

lemma nulFree_step {s : Step} (h : s.Plain) : s.piece.NulFree := by
  cases s with
  | key name => exact h
  | position i => exact nulFree_toString i.toInt

lemma nulFree_json {p : Path} (h : p.Plain) : ∀ q ∈ p.json, q.NulFree := by
  induction p with
  | root s =>
    simp only [Path.json, List.forall_mem_cons]
    exact ⟨trivial, (by decide : NulFree "->"), nulFree_step h, by simp⟩
  | child p s ih =>
    simp only [Path.json, List.forall_mem_append, List.forall_mem_cons]
    exact ⟨ih h.1, (by decide : NulFree "->"), nulFree_step h.2, by simp⟩

lemma nulFree_text {p : Path} (h : p.Plain) : ∀ q ∈ p.text, q.NulFree := by
  cases p with
  | root s =>
    simp only [Path.text, List.forall_mem_cons]
    exact ⟨trivial, (by decide : NulFree "->>"), nulFree_step h, by simp⟩
  | child p s =>
    simp only [Path.text, List.forall_mem_append, List.forall_mem_cons]
    exact ⟨nulFree_json h.1, (by decide : NulFree "->>"), nulFree_step h.2, by simp⟩

lemma nulFree_number {p : Path} (h : p.Plain) : ∀ q ∈ (Term.number p).pieces, q.NulFree := by
  simp only [Term.pieces, List.cons_append, List.forall_mem_append, List.forall_mem_cons]
  exact ⟨(by decide : NulFree "CASE WHEN jsonb_typeof("),
    ⟨⟨nulFree_json h, (by decide : NulFree ") = "), (by decide : NulFree "number"),
      (by decide : NulFree " THEN ("), by simp⟩, nulFree_text h⟩,
    (by decide : NulFree ")::numeric END"), by simp⟩

lemma nulFree_single {q : Piece} (h : q.NulFree) : ∀ r ∈ [q], r.NulFree := by simpa using h

lemma nulFree_between {op : String} (hop : NulFree op) {ps qs : List Piece}
    (hp : ∀ q ∈ ps, q.NulFree) (hq : ∀ q ∈ qs, q.NulFree) :
    ∀ q ∈ between op ps qs, q.NulFree := by
  have hspaced : NulFree (" " ++ op ++ " ") := by simpa [NulFree] using hop
  simp only [between, List.cons_append, List.forall_mem_append, List.forall_mem_cons]
  exact ⟨(by decide : NulFree "("), ⟨hp, hspaced, hq⟩, (by decide : NulFree ")"), by simp⟩

/-! ### Values at paths -/

def Step.datum : Step → Datum
  | key name => .text name
  | position i => .integer i.toInt

lemma Step.eval (s : Step) : s.expression.eval engine row = .ok (some s.datum) := by
  cases s with
  | key name => simp [Step.expression, Expression.eval, Step.datum]
  | position i => rfl

lemma Step.access?_datum (s : Step) (d : Document) : access? d s.datum = .ok (d.step? s) := by
  cases s <;> rfl

/-- All operators but AND and OR need both of their operands. -/
lemma eval_binary {op : BinaryOp} {l r : Expression} {a b : Option Datum}
    (hop : ∀ k, op ≠ .connect k) (hl : l.eval engine row = .ok a) (hr : r.eval engine row = .ok b) :
    (Expression.binary op l r).eval engine row = strict (op.apply engine) a b := by
  rw [Expression.eval, hl, hr]
  · rfl
  · exact hop

/-- One step further as JSON. -/
lemma eval_json {e : Expression} {v : Option Document} (s : Step)
    (h : e.eval engine row = .ok (v.map .json)) :
    (Expression.binary .json e s.expression).eval engine row
      = .ok ((v.bind (·.step? s)).map .json) := by
  rw [eval_binary (by simp) h s.eval]
  cases v with
  | none => rfl
  | some d => simp [strict, BinaryOp.apply, s.access?_datum, Except.map]

/-- One step further as text. -/
lemma eval_text {e : Expression} {v : Option Document} (s : Step)
    (h : e.eval engine row = .ok (v.map .json)) :
    (Expression.binary .text e s.expression).eval engine row
      = .ok (((v.bind (·.step? s)).bind (·.text? engine.shown)).map .text) := by
  rw [eval_binary (by simp) h s.eval]
  cases v with
  | none => rfl
  | some d => simp [strict, BinaryOp.apply, s.access?_datum, Except.map]

lemma Path.eval_json (ha : IsDocument engine row anchor d) (p : Path) :
    (p.jsonIn anchor).eval engine row = .ok ((d.value? p).map .json) := by
  induction p with
  | root s => exact Sql.eval_json (v := some d) s ha.eval
  | child p s ih => exact Sql.eval_json s ih

lemma Path.eval_text (ha : IsDocument engine row anchor d) (p : Path) :
    (p.textIn anchor).eval engine row
      = .ok (((d.value? p).bind (·.text? engine.shown)).map .text) := by
  cases p with
  | root s => exact Sql.eval_text (v := some d) s ha.eval
  | child p s => exact Sql.eval_text s (p.eval_json ha)

/-- The guard before a cast asks for the kind of the value. -/
lemma Path.eval_guard (ha : IsDocument engine row anchor d) (p : Path) :
    (Expression.binary (.compare .eq) (.call "jsonb_typeof".toList (p.jsonIn anchor))
      (.literal "number".toList)).eval engine row
      = .ok ((d.value? p).map fun v => .bool (v.kind = "number")) := by
  have hkind : (Expression.call "jsonb_typeof".toList (p.jsonIn anchor)).eval engine row
      = .ok ((d.value? p).map fun v => .text v.kind) := by
    rw [Expression.eval, p.eval_json ha]
    cases d.value? p <;> rfl
  rw [eval_binary (by simp) hkind rfl]
  cases d.value? p with
  | none => rfl
  | some v =>
    simp only [Option.map_some, strict, BinaryOp.apply, compareData, String.ofList_toList]
    exact congrArg (Except.ok <| some <| Datum.bool ·) (decide_eq_decide.mpr Iff.rfl)

/-- The guard keeps all but numbers from the cast, and numbers are read back from their text. -/
lemma Path.eval_number (ha : IsDocument engine row anchor d) (p : Path) :
    (p.numberIn anchor).eval engine row
      = .ok (((d.value? p).bind Document.number?).map .number) := by
  have hcast : (Expression.cast (p.textIn anchor) "numeric".toList).eval engine row
      = ((d.value? p).bind (·.text? engine.shown)).elim (.ok none)
          fun t => (Datum.text t).toNumeric := by
    rw [Expression.eval, p.eval_text ha]
    cases (d.value? p).bind (·.text? engine.shown) <;> rfl
  rw [Path.numberIn, Expression.eval, p.eval_guard ha, hcast]
  cases d.value? p with
  | none => rfl
  | some v =>
    cases v with
    | number n =>
      show (Datum.text (String.ofList n.text)).toNumeric = .ok (some (.number n.value))
      rw [Datum.toNumeric, String.toList_ofList, readNumeric?_text]
    | _ => rfl

/-! ### Types -/

lemma Step.type?_of_plain (row : Row) {s : Step} (h : s.Plain) :
    ∃ t, s.expression.type? row = some t ∧ (t.isText = true ∨ t = .integer) := by
  cases s with
  | key name => exact ⟨.unknown, rfl, .inl rfl⟩
  | position i => exact ⟨.integer, congrArg some (if_pos h), .inr rfl⟩

lemma type?_access {e : Expression} {s : Step} (h : s.Plain)
    (he : e.type? row = some .json) :
    (Expression.binary .json e s.expression).type? row = some .json
      ∧ (Expression.binary .text e s.expression).type? row = some .text := by
  obtain ⟨t, ht, hfits⟩ := Step.type?_of_plain row h
  simp [Expression.type?, he, ht, BinaryOp.type?, hfits]

lemma Path.type?_json (ha : anchor.type? row = some .json) {p : Path} (hp : p.Plain) :
    (p.jsonIn anchor).type? row = some .json := by
  induction p with
  | root s => exact (type?_access hp ha).1
  | child p s ih => exact (type?_access hp.2 (ih hp.1)).1

lemma Path.type?_text (ha : anchor.type? row = some .json) {p : Path} (hp : p.Plain) :
    (p.textIn anchor).type? row = some .text := by
  cases p with
  | root s => exact (type?_access hp ha).2
  | child p s => exact (type?_access hp.2 (Path.type?_json ha hp.1)).2

lemma Path.type?_number (ha : anchor.type? row = some .json) {p : Path} (hp : p.Plain) :
    (p.numberIn anchor).type? row = some .numeric := by
  simp [Path.numberIn, Expression.type?, Path.type?_json ha hp, Path.type?_text ha hp,
    BinaryOp.type?, SqlType.isText]

lemma isNumeric_integerType (i : ℤ) : (integerType i).isNumeric = true := by
  unfold integerType
  split
  · rfl
  · split <;> rfl

lemma type?_numbers {c : Comparison} {l r : SqlType} (hl : l.isNumeric = true)
    (hr : r.isNumeric = true) : (BinaryOp.compare c).type? l r = some .bool :=
  if_pos (.inr ⟨hl, hr⟩)

/-! ### Connectives -/

lemma truth?_map (t : Option Bool) : truth? (t.map .bool) = .ok t := by
  cases t <;> rfl

lemma eval_connect (k : Connective) {l r : Expression} {a b : Option Bool}
    (hl : l.eval engine row = .ok (a.map .bool)) (hr : r.eval engine row = .ok (b.map .bool)) :
    (Expression.binary (.connect k) l r).eval engine row = .ok ((k.combine a b).map .bool) := by
  rw [Expression.eval, hl, hr]
  simp [bind, Except.bind, truth?_map, pure, Except.pure]

lemma combine_and {a b : Option Bool} :
    Connective.and.combine a b = some true ↔ a = some true ∧ b = some true := by
  rcases a with _ | _ | _ <;> rcases b with _ | _ | _ <;> decide

lemma combine_or {a b : Option Bool} :
    Connective.or.combine a b = some true ↔ a = some true ∨ b = some true := by
  rcases a with _ | _ | _ <;> rcases b with _ | _ | _ <;> decide

end Catalog.Sql
