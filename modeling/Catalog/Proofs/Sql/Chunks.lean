import Mathlib.Tactic.Common
import Catalog.Sql.Term

/-!
A term as a text with gaps. The chunks of its text between the gaps do not depend on the anchor,
which is put into all gaps alike; and behind each gap the document is gone into.
-/

namespace Catalog.Sql

variable {ps qs : List Piece}

/-! ### Chunks -/

/-- What stands before the anchors, between them and behind them. -/
def chunks : List Piece → List String
  | [] => [""]
  | .anchor :: ps => "" :: chunks ps
  | .code s :: ps => (chunks ps).modifyHead (s ++ ·)
  | .literal s :: ps => (chunks ps).modifyHead (quoteLiteral s ++ ·)

lemma chunks_ne_nil (ps : List Piece) : chunks ps ≠ [] := by
  induction ps with
  | nil => simp [chunks]
  | cons p ps ih => cases p <;> simp [chunks, ih]

lemma intercalate_modifyHead (anchor s : String) {cs : List String} (h : cs ≠ []) :
    anchor.intercalate (cs.modifyHead (s ++ ·)) = s ++ anchor.intercalate cs := by
  obtain ⟨c, cs, rfl⟩ := List.exists_cons_of_ne_nil h
  rw [List.modifyHead_cons, String.intercalate_cons_append]

/-- Pieces are written as their chunks, with the anchor between neighbours. -/
lemma intercalate_chunks (anchor : String) (ps : List Piece) :
    anchor.intercalate (chunks ps) = String.join (ps.map (Piece.render anchor)) := by
  induction ps with
  | nil => simp [chunks, String.intercalate_singleton]
  | cons p ps ih =>
    have hne := chunks_ne_nil ps
    rw [List.map_cons, String.join_cons]
    cases p with
    | anchor =>
      calc anchor.intercalate ("" :: chunks ps)
          = "" ++ anchor ++ anchor.intercalate (chunks ps) := String.intercalate_cons_of_ne_nil hne
        _ = anchor ++ String.join (ps.map (Piece.render anchor)) := by rw [String.empty_append, ih]
    | code s =>
      calc anchor.intercalate ((chunks ps).modifyHead (s ++ ·))
          = s ++ anchor.intercalate (chunks ps) := intercalate_modifyHead anchor s hne
        _ = s ++ String.join (ps.map (Piece.render anchor)) := by rw [ih]
    | literal s =>
      calc anchor.intercalate ((chunks ps).modifyHead (quoteLiteral s ++ ·))
          = quoteLiteral s ++ anchor.intercalate (chunks ps) :=
            intercalate_modifyHead anchor (quoteLiteral s) hne
        _ = quoteLiteral s ++ String.join (ps.map (Piece.render anchor)) := by rw [ih]

/-! ### Accessors -/

def IsAccessor (s : String) : Prop := s = "->" ∨ s = "->>"

/-- Each anchor has an accessor behind it. -/
inductive Accessed : List Piece → Prop
  | nil : Accessed []
  | code {ps : List Piece} (s : String) (rest : Accessed ps) : Accessed (.code s :: ps)
  | literal {ps : List Piece} (s : String) (rest : Accessed ps) : Accessed (.literal s :: ps)
  | anchor {ps : List Piece} {s : String} (accessor : IsAccessor s) (rest : Accessed ps) :
      Accessed (.anchor :: .code s :: ps)

lemma Accessed.append (hp : Accessed ps) (hq : Accessed qs) : Accessed (ps ++ qs) := by
  induction hp with
  | nil => exact hq
  | code s _ ih => exact .code s ih
  | literal s _ ih => exact .literal s ih
  | anchor accessor _ ih => exact .anchor accessor ih

/-- The chunk begins with an accessor. -/
def Accesses (chunk : String) : Prop :=
  ∃ accessor rest, IsAccessor accessor ∧ chunk = accessor ++ rest

lemma Accessed.accesses (h : Accessed ps) : ∀ chunk ∈ (chunks ps).tail, Accesses chunk := by
  induction h with
  | nil => simp [chunks]
  | code s _ ih => simpa [chunks] using ih
  | literal s _ ih => simpa [chunks] using ih
  | @anchor ps s accessor _ ih =>
    obtain ⟨chunk, cs, hchunks⟩ := List.exists_cons_of_ne_nil (chunks_ne_nil ps)
    simp only [chunks, hchunks, List.modifyHead_cons, List.tail_cons] at ih ⊢
    exact List.forall_mem_cons.mpr ⟨⟨s, chunk, accessor, rfl⟩, ih⟩

/-! ### Terms -/

lemma Step.accessed (s : Step) : Accessed [s.piece] := by
  cases s with
  | key name => exact .literal _ .nil
  | position i => exact .code _ .nil

lemma Path.accessed_json (p : Path) : Accessed p.json := by
  induction p with
  | root s => exact .anchor (.inl rfl) s.accessed
  | child p s ih => exact ih.append (.code _ s.accessed)

lemma Path.accessed_text (p : Path) : Accessed p.text := by
  cases p with
  | root s => exact .anchor (.inr rfl) s.accessed
  | child p s => exact p.accessed_json.append (.code _ s.accessed)

lemma accessed_between (op : String) (hp : Accessed ps) (hq : Accessed qs) :
    Accessed (between op ps qs) :=
  .code _ (hp.append (.code _ hq) |>.append (.code _ .nil))

lemma Term.accessed (t : Term) : Accessed t.pieces := by
  induction t with
  | text p => exact p.accessed_text
  | number p =>
    have hthen := p.accessed_text.append (.code ")::numeric END" .nil)
    have hcase := p.accessed_json.append (.code ") = " (.literal "number" (.code " THEN (" hthen)))
    simpa [Term.pieces] using hcase.code "CASE WHEN jsonb_typeof("
  | integer i => exact .code _ .nil
  | decimal d => exact .code _ .nil
  | literal s => exact .literal _ .nil
  | compare c l r hl hr => exact accessed_between c.sql hl hr
  | connect k l r hl hr => exact accessed_between k.sql hl hr
  | contains l s hl => exact accessed_between "LIKE" hl (.literal _ .nil)
  | subscript l i hl hi =>
    simpa [Term.pieces] using hl.append (.code "[" (hi.append (.code "]" .nil)))

/-- **A term is the same chunks over every anchor,** and all but the first go into the document. -/
theorem Term.render_eq_intercalate (t : Term) :
    chunks t.pieces ≠ [] ∧ (∀ chunk ∈ (chunks t.pieces).tail, Accesses chunk)
      ∧ ∀ anchor, t.render anchor = anchor.intercalate (chunks t.pieces) :=
  ⟨chunks_ne_nil _, t.accessed.accesses, fun anchor => (intercalate_chunks anchor _).symm⟩

end Catalog.Sql
