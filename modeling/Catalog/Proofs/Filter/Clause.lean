import Catalog.Proofs.Filter.Compilation

/-!
Compiled filters as clauses of a statement. Over both anchors that a store uses, a clause is read
as one group in parentheses, and it holds nothing that could end the statement around it.
-/

namespace Catalog.Filter

open Catalog.Sql

/-- What the anchor of projects is read as. -/
def projectGlyphs : List Glyph :=
  "jsonb_build_object(".toList.map .char ++ ([.literal "name".toList] ++ ", name)".toList.map .char)

lemma anchored_payload : Anchored payloadAnchor ("data".toList.map .char) where
  reads := reads_code (by decide)
  start := ⟨'d', "ata".toList, rfl, by decide⟩
  balanced := balanced_chars (by decide)
  harmless := harmless_chars (by decide)

lemma anchored_project : Anchored projectAnchor projectGlyphs where
  reads := reads_of_glyphsFrom rfl (by decide)
  start := ⟨'j', _, rfl, by decide⟩
  balanced := by
    have hinner : Balanced (.literal "name".toList :: ", name".toList.map .char) :=
      .literal _ (balanced_chars (by decide))
    have hname : Balanced ("jsonb_build_object".toList.map .char) := balanced_chars (by decide)
    exact hname.append hinner.parens
  harmless :=
    (harmless_chars (by decide)).append
      ((harmless_literal _).append (harmless_chars (by decide)))

/-- The texts that a store puts in for the anchor. -/
def IsAnchor (anchor : String) : Prop := anchor = payloadAnchor ∨ anchor = projectAnchor

lemma IsAnchor.anchored {anchor : String} (h : IsAnchor anchor) : ∃ ag, Anchored anchor ag := by
  rcases h with rfl | rfl
  · exact ⟨_, anchored_payload⟩
  · exact ⟨_, anchored_project⟩

/-- A clause is read as what its term stands for, and that is one group. -/
lemma clause_reads {anchor sql : String} {ag : List Glyph} (ha : Anchored anchor ag) {e : Expr}
    (h : e.compile anchor = .ok sql) :
    ∃ t, Compiles e t ∧ Reads sql.toList (glyphs ag t.pieces) ∧ IsGroup (glyphs ag t.pieces) := by
  obtain ⟨t, hp, hc, rfl⟩ := compile_eq_ok.mp h
  have ht := hc.isCondition hp
  exact ⟨t, hc, Term.reads ha ht, Term.isGroup ha ht⟩

end Catalog.Filter
