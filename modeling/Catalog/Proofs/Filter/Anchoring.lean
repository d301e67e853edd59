import Catalog.Proofs.Filter.Clause
import Catalog.Proofs.Sql.Chunks
import Catalog.Proofs.Sql.Words

/-!
Filters and their anchors. Nothing that is decided about a filter depends on the anchor, and its SQL
reaches a row through the anchor only.
-/

namespace Catalog.Filter

open Catalog.Sql

/-- What comes of a filter over each anchor: always the same refusal, or the same chunks around the
anchor. All but the first of these go into the document that the anchor stands for, and none names
anything. -/
inductive IsUniform (compiled : String → Except Error String) : Prop
  | refused (error : Error) (h : ∀ anchor, compiled anchor = .error error)
  | compiled (chunks : List String) (ne_nil : chunks ≠ [])
      (accesses : ∀ chunk ∈ chunks.tail, Accesses chunk)
      (h : ∀ anchor, compiled anchor = .ok (anchor.intercalate chunks))
      (names : ∀ anchor ag, Anchored anchor ag →
        ∃ gs, glyphs? (anchor.intercalate chunks) = some gs ∧ NamesWithin ag gs)

lemma IsUniform.eq_error_iff {compiled : String → Except Error String} (h : IsUniform compiled)
    (a b : String) (error : Error) : compiled a = .error error ↔ compiled b = .error error := by
  cases h with
  | refused _ h => rw [h a, h b]
  | compiled _ _ _ h => simp [h]

/-- Over an anchor that can be read, a filter names what the anchor names. -/
lemma exists_namesWithin {anchor sql : String} {ag : List Glyph} (ha : Anchored anchor ag)
    {e : Expr} (h : e.compile anchor = .ok sql) :
    ∃ gs, glyphs? sql = some gs ∧ NamesWithin ag gs := by
  obtain ⟨t, -, hreads, -⟩ := clause_reads ha h
  exact ⟨_, hreads.glyphs?, t.namesWithin ag⟩

lemma Expr.isUniform_compile (e : Expr) : IsUniform fun anchor => e.compile anchor := by
  cases he : e.condition? with
  | error error => exact .refused error fun anchor => by rw [Expr.compile, he]; rfl
  | ok t =>
    obtain ⟨hne, haccesses, hrender⟩ := t.render_eq_intercalate
    have hcompile : ∀ anchor, e.compile anchor = .ok (anchor.intercalate (chunks t.pieces)) := by
      intro anchor
      rw [Expr.compile, he, ← hrender anchor]
      rfl
    exact .compiled _ hne haccesses hcompile fun anchor _ ha =>
      exists_namesWithin ha (hcompile anchor)

lemma isUniform_compile (text : String) : IsUniform fun anchor => compile anchor text := by
  cases ht : parse text with
  | error error => exact .refused error fun anchor => by rw [compile, condition?, ht]; rfl
  | ok e =>
    have hcompile : ∀ anchor, compile anchor text = e.compile anchor := by
      intro anchor
      rw [compile, condition?, ht]
      rfl
    simpa only [hcompile] using e.isUniform_compile

/-- **A filter addresses rows through its anchor only.** It is refused with one error over every
anchor, or it is the same chunks of text around every anchor, and behind each anchor it goes into
the document. So filters of projects and of payloads are the same, and so are their errors. Outside
of literals, the words of the SQL are the anchor's, digits, and a few words of the language: no name
in a filter is the name of a column. -/
theorem filters_address_through_anchor :
    (∀ e : Expr, IsUniform fun anchor => e.compile anchor)
    ∧ (∀ text, IsUniform fun anchor => compile anchor text)
    ∧ (∀ (e : Expr) error, e.compile payloadAnchor = .error error
      ↔ e.compile projectAnchor = .error error)
    ∧ ∀ text error, compile payloadAnchor text = .error error
      ↔ compile projectAnchor text = .error error :=
  ⟨Expr.isUniform_compile, isUniform_compile,
    fun e => e.isUniform_compile.eq_error_iff payloadAnchor projectAnchor,
    fun text => (isUniform_compile text).eq_error_iff payloadAnchor projectAnchor⟩

/-- A filter on a field that is called like the column of payloads. -/
def dataBeyondOne : Expr := .binary (.compare .gt) (.ident "data") (.const (.int64 1))

/-- Over the anchor of projects it does not name that column. -/
theorem filters_address_through_anchor_dataBeyondOne :
    ∃ chunks : List String, chunks ≠ []
      ∧ (∀ anchor, dataBeyondOne.compile anchor = .ok (anchor.intercalate chunks))
      ∧ ∃ gs, glyphs? (projectAnchor.intercalate chunks) = some gs ∧ NamesWithin projectGlyphs gs
        ∧ "data".toList.map .char ∉ words gs := by
  have hcompile : dataBeyondOne.compile "" = .ok ("(CASE WHEN jsonb_typeof(->'data') = 'number' "
      ++ "THEN (->>'data')::numeric END > 1)") := rfl
  cases filters_address_through_anchor.1 dataBeyondOne with
  | refused error h =>
    rw [h ""] at hcompile
    cases hcompile
  | compiled chunks hne _ h names =>
    obtain ⟨gs, hgs, hnames⟩ := names projectAnchor projectGlyphs anchored_project
    refine ⟨chunks, hne, h, gs, hgs, hnames, fun hmem => ?_⟩
    rcases hnames.words _ hmem with hag | hplain
    · exact absurd hag (by decide +kernel)
    · exact absurd hplain (by decide +kernel)

end Catalog.Filter
