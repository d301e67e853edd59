import Catalog.Proofs.Sql.Chunks
import Catalog.Proofs.Sql.Outline
import Catalog.Proofs.Sql.Term

/-!
The words of a text outside of its literals. A term is spelled with a few words of the language and
with numbers; all other words are those of the anchor, and nothing stands in double quotes. So what
a term names is inside of literals.
-/

namespace Catalog.Sql

variable {ag gs hs : List Glyph} {ps qs : List Piece}

/-! ### Words -/

/-- No word goes on over it. -/
def Glyph.isBreak : Glyph → Bool
  | .char c => !isNameChar c
  | .literal _ => true

/-- What stands between the breaks; where two of them are neighbours, that is nothing. -/
def words (gs : List Glyph) : List (List Glyph) := gs.splitOnP Glyph.isBreak

def Glyph.isDigit : Glyph → Bool
  | .char c => c.isDigit
  | .literal _ => false

/-- The words that terms are spelled with. -/
def vocabulary : List String :=
  ["CASE", "WHEN", "jsonb_typeof", "THEN", "numeric", "END", "AND", "OR", "LIKE"]

/-- A word of the language, or digits. -/
def IsPlainWord (w : List Glyph) : Prop :=
  (∃ s ∈ vocabulary, w = s.toList.map .char) ∨ w.all Glyph.isDigit

instance : DecidablePred IsPlainWord := fun w =>
  inferInstanceAs (Decidable ((∃ s ∈ vocabulary, w = s.toList.map .char) ∨ w.all Glyph.isDigit))

/-- All names in a text are in `ag`, whether they are written plainly or in double quotes. -/
structure NamesWithin (ag gs : List Glyph) : Prop where
  words : ∀ w ∈ words gs, w ∈ Sql.words ag ∨ IsPlainWord w
  quotes : .char '"' ∈ gs → .char '"' ∈ ag

lemma words_append {g : Glyph} (h : g.isBreak = true) (gs hs : List Glyph) :
    words (gs ++ g :: hs) = words gs ++ words hs := List.splitOnP_append_cons gs hs h

/-- Words are made of what stands in the text and is no break. -/
lemma mem_of_mem_words {w : List Glyph} (h : w ∈ words gs) {g : Glyph} (hg : g ∈ w) :
    g ∈ gs ∧ g.isBreak = false := by
  induction gs generalizing w with
  | nil =>
    obtain rfl : w = [] := by simpa [words] using h
    cases hg
  | cons d gs ih =>
    rw [words, List.splitOnP_cons_eq_if_modifyHead] at h
    by_cases hd : d.isBreak
    · rw [if_pos hd] at h
      rcases List.mem_cons.mp h with rfl | h
      · cases hg
      · exact (ih h hg).imp_left (List.mem_cons_of_mem _)
    · obtain ⟨first, rest, hsplit⟩ := List.exists_cons_of_ne_nil (List.splitOnP_ne_nil _ gs)
      rw [if_neg hd, hsplit, List.modifyHead_cons] at h
      rcases List.mem_cons.mp h with rfl | h
      · rcases List.mem_cons.mp hg with rfl | hg
        · exact ⟨List.mem_cons_self, by simpa using hd⟩
        · have hfirst : first ∈ words gs := by simp [words, hsplit]
          exact (ih hfirst hg).imp_left (List.mem_cons_of_mem _)
      · have hrest : w ∈ words gs := by simp [words, hsplit, h]
        exact (ih hrest hg).imp_left (List.mem_cons_of_mem _)

/-! ### Names of a text -/

/-- Two texts with a mark between them name what either names. -/
lemma NamesWithin.join (hgs : NamesWithin ag gs) (mark : Char) (hhs : NamesWithin ag hs)
    (hmark : isNameChar mark = false ∧ mark ≠ '"') : NamesWithin ag (gs ++ .char mark :: hs) := by
  have hbreak : (Glyph.char mark).isBreak = true := by simp [Glyph.isBreak, hmark.1]
  refine ⟨fun w hw => ?_, fun hmem => ?_⟩
  · rw [words_append hbreak] at hw
    rcases List.mem_append.mp hw with hw | hw
    · exact hgs.words w hw
    · exact hhs.words w hw
  · rcases List.mem_append.mp hmem with hmem | hmem
    · exact hgs.quotes hmem
    · refine hhs.quotes ((List.mem_cons.mp hmem).resolve_left fun heq => hmark.2 ?_)
      exact (Glyph.char.inj heq).symm

lemma namesWithin_self (ag : List Glyph) : NamesWithin ag ag := ⟨fun _ => .inl, id⟩

lemma namesWithin_code {cs : List Char} (hwords : ∀ w ∈ words (cs.map .char), IsPlainWord w)
    (hquotes : '"' ∉ cs) : NamesWithin ag (cs.map .char) := by
  refine ⟨fun w hw => .inr (hwords w hw), fun hmem => ?_⟩
  obtain ⟨c, hc, heq⟩ := List.mem_map.mp hmem
  exact absurd (Glyph.char.inj heq ▸ hc) hquotes

lemma namesWithin_nil : NamesWithin ag [] := by
  have hnil : NamesWithin ag ([].map .char) := namesWithin_code (by decide) (by decide)
  exact hnil

lemma namesWithin_literal (s : List Char) : NamesWithin ag [.literal s] := by
  have hwords : words [.literal s] = [[], []] := rfl
  refine ⟨fun w hw => .inr ?_, by simp⟩
  obtain rfl : w = [] := by simpa [hwords] using hw
  exact .inr rfl

/-- Signs and points are breaks, so only digits are left. -/
lemma IsNumeral.namesWithin {cs : List Char} (h : IsNumeral cs) :
    NamesWithin ag (cs.map .char) := by
  refine namesWithin_code (fun w hw => .inr ?_) (h.notMem (by decide))
  rw [List.all_eq_true]
  intro g hg
  obtain ⟨hmem, hbreak⟩ := mem_of_mem_words hw hg
  obtain ⟨c, hc, rfl⟩ := List.mem_map.mp hmem
  rcases h.forall c hc with hdigit | rfl | rfl
  · exact hdigit
  · exact absurd hbreak (by decide)
  · exact absurd hbreak (by decide)

/-! ### Names of a term -/

lemma Step.namesWithin (s : Step) : NamesWithin ag (s.piece.glyphs ag) := by
  cases s with
  | key name => exact namesWithin_literal _
  | position i => exact (isNumeral_int i.toInt).namesWithin

/-- An accessor is marks and nothing else. -/
lemma NamesWithin.access {accessor : String} (h : IsAccessor accessor)
    (hgs : NamesWithin ag gs) (s : Step) :
    NamesWithin ag (gs ++ (accessor.toList.map .char ++ s.piece.glyphs ag)) := by
  have hstep : NamesWithin ag (s.piece.glyphs ag) := s.namesWithin
  have harrow := namesWithin_nil.join '>' hstep (by decide)
  rcases h with rfl | rfl
  · exact hgs.join '-' harrow (by decide)
  · exact hgs.join '-' (namesWithin_nil.join '>' harrow (by decide)) (by decide)

lemma Path.namesWithin_json (p : Path) : NamesWithin ag (glyphs ag p.json) := by
  induction p with
  | root s => simpa [Path.json] using (namesWithin_self ag).access (.inl rfl) s
  | child p s ih => simpa [Path.json] using ih.access (.inl rfl) s

lemma Path.namesWithin_text (p : Path) : NamesWithin ag (glyphs ag p.text) := by
  cases p with
  | root s => simpa [Path.text] using (namesWithin_self ag).access (.inr rfl) s
  | child p s => simpa [Path.text] using p.namesWithin_json.access (.inr rfl) s

lemma namesWithin_between {op : String} (hop : NamesWithin ag (op.toList.map .char))
    (hp : NamesWithin ag (glyphs ag ps)) (hq : NamesWithin ag (glyphs ag qs)) :
    NamesWithin ag (glyphs ag (between op ps qs)) := by
  have hbetween : glyphs ag (between op ps qs)
      = [] ++ .char '(' :: (glyphs ag ps ++ .char ' ' :: (op.toList.map .char
        ++ .char ' ' :: (glyphs ag qs ++ [.char ')']))) := by
    simp [between]
  rw [hbetween]
  have hclosed := hq.join ')' namesWithin_nil (by decide)
  have hright := hop.join ' ' hclosed (by decide)
  have hleft := hp.join ' ' hright (by decide)
  exact namesWithin_nil.join '(' hleft (by decide)

lemma Comparison.namesWithin (c : Comparison) : NamesWithin ag (c.sql.toList.map .char) := by
  cases c <;> exact namesWithin_code (by decide) (by decide)

lemma Connective.namesWithin (k : Connective) : NamesWithin ag (k.sql.toList.map .char) := by
  cases k <;> exact namesWithin_code (by decide) (by decide)

/-- A path that is read as a number, with the words around it. -/
lemma Path.namesWithin_number (p : Path) : NamesWithin ag (glyphs ag (Term.number p).pieces) := by
  have hnumber : glyphs ag (Term.number p).pieces
      = "CASE WHEN jsonb_typeof".toList.map .char ++ .char '(' :: (glyphs ag p.json
        ++ .char ')' :: (" =".toList.map .char ++ .char ' ' :: ([.literal "number".toList]
        ++ .char ' ' :: ("THEN ".toList.map .char ++ .char '(' :: (glyphs ag p.text
        ++ .char ')' :: "::numeric END".toList.map .char))))) := by
    simp [Term.pieces]
  have hcase : NamesWithin ag ("CASE WHEN jsonb_typeof".toList.map .char) :=
    namesWithin_code (by decide) (by decide)
  have hequals : NamesWithin ag (" =".toList.map .char) :=
    namesWithin_code (by decide) (by decide)
  have hthen : NamesWithin ag ("THEN ".toList.map .char) :=
    namesWithin_code (by decide) (by decide)
  have hcast : NamesWithin ag ("::numeric END".toList.map .char) :=
    namesWithin_code (by decide) (by decide)
  have htext := hthen.join '(' (p.namesWithin_text.join ')' hcast (by decide)) (by decide)
  have hkind := (namesWithin_literal "number".toList).join ' ' htext (by decide)
  have hjson := p.namesWithin_json.join ')' (hequals.join ' ' hkind (by decide)) (by decide)
  rw [hnumber]
  exact hcase.join '(' hjson (by decide)

/-- A term names nothing that its anchor does not name. -/
theorem Term.namesWithin (ag : List Glyph) (t : Term) : NamesWithin ag (glyphs ag t.pieces) := by
  induction t with
  | text p => exact p.namesWithin_text
  | number p => exact p.namesWithin_number
  | integer i => simpa [Term.pieces] using (isNumeral_int i).namesWithin
  | decimal d => simpa [Term.pieces] using (isNumeral_fixed 6 d).namesWithin
  | literal s => exact namesWithin_literal _
  | compare c l r hl hr => exact namesWithin_between c.namesWithin hl hr
  | connect k l r hl hr => exact namesWithin_between k.namesWithin hl hr
  | contains l s hl =>
    exact namesWithin_between (namesWithin_code (by decide) (by decide)) hl
      (namesWithin_literal _)
  | subscript l i hl hi =>
    have hclosed := hi.join ']' namesWithin_nil (by decide)
    simpa [Term.pieces] using hl.join '[' hclosed (by decide)

end Catalog.Sql
