import Catalog.Proofs.Sql.Piece

/-!
Terms as they are read. Over an anchor that is itself in order, the text of a term is read piece
by piece, its brackets are balanced, and nothing in it ends the statement; a comparison, a
connective or a containment test is one group in parentheses.
-/

namespace Catalog.Sql

variable {anchor : String} {ag : List Glyph} {ps qs : List Piece}

/-- What pieces stand for, over an anchor that reads as `ag`. -/
def glyphs (ag : List Glyph) (ps : List Piece) : List Glyph := ps.flatMap (Piece.glyphs ag)

@[simp] lemma glyphs_nil : glyphs ag [] = [] := rfl

@[simp] lemma glyphs_cons (p : Piece) (ps : List Piece) :
    glyphs ag (p :: ps) = p.glyphs ag ++ glyphs ag ps := List.flatMap_cons

@[simp] lemma glyphs_append (ps qs : List Piece) :
    glyphs ag (ps ++ qs) = glyphs ag ps ++ glyphs ag qs := List.flatMap_append

/-- Pieces that keep their borders when they are written one behind the other. -/
structure Tidy (ps : List Piece) : Prop where
  sound : ∀ p ∈ ps, p.Sound
  apart : ps.IsChain Piece.Apart

lemma tidy_nil : Tidy [] := ⟨by simp, by simp⟩

lemma tidy_singleton {p : Piece} (h : p.Sound) : Tidy [p] := ⟨by simpa using h, by simp⟩

/-- Code between two texts keeps them apart. -/
lemma Tidy.join {s : String} (hp : Tidy ps) (hs : (Piece.code s).Sound) (hq : Tidy qs) :
    Tidy (ps ++ .code s :: qs) := by
  refine ⟨?_, ?_⟩
  · intro p hmem
    rcases List.mem_append.mp hmem with h | h
    · exact hp.sound p h
    · rcases List.mem_cons.mp h with rfl | h
      · exact hs
      · exact hq.sound p h
  · refine List.isChain_append.mpr ⟨hp.apart, List.isChain_cons.mpr ⟨?_, hq.apart⟩, ?_⟩
    · exact fun _ _ => .inl rfl
    · intro _ _ q hq'
      obtain rfl : .code s = q := by simpa using hq'
      exact .inr rfl

/-! ### Reading -/

/-- The text of pieces. -/
def written (anchor : String) (ps : List Piece) : List Char :=
  ps.flatMap fun p => (p.render anchor).toList

lemma toList_render (anchor : String) (t : Term) :
    (t.render anchor).toList = written anchor t.pieces := by
  rw [Term.render, String.toList_join, List.flatMap_map]
  rfl

/-- What is no literal does not start like one. -/
lemma start_of_not_literal (ha : Anchored anchor ag) {p : Piece} (hp : p.Sound)
    (hl : p.isLiteral = false) : ∃ c cs, (p.render anchor).toList = c :: cs ∧ c ≠ '\'' := by
  cases p with
  | anchor => exact ha.start
  | code s =>
    obtain ⟨c, cs, hs⟩ := List.exists_cons_of_ne_nil (hp.ne_nil s rfl)
    refine ⟨c, cs, hs, ?_⟩
    rintro rfl
    exact hp.quoteless s rfl (by simp [hs])
  | literal s => simp [Piece.isLiteral] at hl

/-- Tidy pieces that do not end in a literal are read one by one, whatever follows. -/
lemma Tidy.reads (ha : Anchored anchor ag) (h : Tidy ps)
    (hend : ∀ p ∈ ps.getLast?, p.isLiteral = false) :
    Reads (written anchor ps) (glyphs ag ps) := by
  induction ps with
  | nil => exact reads_nil
  | cons p ps ih =>
    have hsound := h.sound p List.mem_cons_self
    have htail : Tidy ps :=
      ⟨fun q hq => h.sound q (List.mem_cons_of_mem _ hq), h.apart.tail⟩
    rcases ps with _ | ⟨q, ps⟩
    · -- the last piece is no literal
      cases p with
      | anchor => simpa [written, Piece.render] using ha.reads
      | code s => simpa [written, Piece.render] using reads_code (hsound.quoteless s rfl)
      | literal s => simp [Piece.isLiteral] at hend
    · have hrest := ih htail (by simpa using hend)
      cases p with
      | anchor => exact ha.reads.append hrest
      | code s => exact (reads_code (hsound.quoteless s rfl)).append hrest
      | literal s =>
        -- behind a literal comes something else
        have hq : q.isLiteral = false := by
          have := (List.isChain_cons_cons.mp h.apart).1
          simpa [Piece.Apart, Piece.isLiteral] using this
        obtain ⟨c, cs, hc, hne⟩ := start_of_not_literal ha (htail.sound q List.mem_cons_self) hq
        intro rest
        have hw : written anchor (.literal s :: q :: ps) ++ rest
            = '\'' :: (doubleQuotes s.toList ++ '\'' :: (written anchor (q :: ps) ++ rest)) := by
          simp [written, Piece.render, quoteLiteral]
        have hhead : (written anchor (q :: ps) ++ rest).head? ≠ some '\'' := by
          simp [written, hc, hne]
        rw [hw, glyphsFrom, glyphsFrom_literal _ hhead, hrest, Option.map_map]
        rfl

/-! ### Brackets and harm -/

lemma harmless_glyphs (ha : Anchored anchor ag) (h : ∀ p ∈ ps, p.Sound) :
    Harmless (glyphs ag ps) := by
  induction ps with
  | nil => exact harmless_nil
  | cons p ps ih =>
    refine Harmless.append ?_ (ih fun q hq => h q (List.mem_cons_of_mem _ hq))
    cases p with
    | anchor => exact ha.harmless
    | code s => exact (h _ List.mem_cons_self).harmless s rfl
    | literal s => exact harmless_literal _

/-- Parentheses around a balanced text. -/
lemma Balanced.parens {gs : List Glyph} (h : Balanced gs) :
    Balanced (.char '(' :: (gs ++ [.char ')'])) :=
  .group rfl h .nil

/-! ### Paths -/

lemma Step.sound (s : Step) : s.piece.Sound := by
  cases s with
  | key name => exact Piece.sound_literal name
  | position i => exact Piece.sound_numeral (isNumeral_int i.toInt)

lemma Path.tidy_json (p : Path) : Tidy p.json := by
  induction p with
  | root s =>
    exact (tidy_singleton Piece.sound_anchor).join (Piece.sound_accessor _ (.inl rfl))
      (tidy_singleton s.sound)
  | child p s ih => exact ih.join (Piece.sound_accessor _ (.inl rfl)) (tidy_singleton s.sound)

lemma Path.tidy_text (p : Path) : Tidy p.text := by
  cases p with
  | root s =>
    exact (tidy_singleton Piece.sound_anchor).join (Piece.sound_accessor _ (.inr rfl))
      (tidy_singleton s.sound)
  | child p s =>
    exact p.tidy_json.join (Piece.sound_accessor _ (.inr rfl)) (tidy_singleton s.sound)

lemma Step.balanced (ag : List Glyph) (s : Step) : Balanced (s.piece.glyphs ag) := by
  cases s with
  | key name => exact .literal _ .nil
  | position i => exact (isNumeral_int i.toInt).balanced

lemma Path.balanced_json (ha : Anchored anchor ag) (p : Path) : Balanced (glyphs ag p.json) := by
  induction p with
  | root s =>
    simp only [Path.json, glyphs_cons, glyphs_nil, List.append_nil]
    exact ha.balanced.append ((balanced_chars (by decide)).append (s.balanced ag))
  | child p s ih =>
    simp only [Path.json, glyphs_append, glyphs_cons, glyphs_nil, List.append_nil]
    exact ih.append ((balanced_chars (by decide)).append (s.balanced ag))

lemma Path.balanced_text (ha : Anchored anchor ag) (p : Path) : Balanced (glyphs ag p.text) := by
  cases p with
  | root s =>
    simp only [Path.text, glyphs_cons, glyphs_nil, List.append_nil]
    exact ha.balanced.append ((balanced_chars (by decide)).append (s.balanced ag))
  | child p s =>
    simp only [Path.text, glyphs_append, glyphs_cons, glyphs_nil, List.append_nil]
    exact (p.balanced_json ha).append ((balanced_chars (by decide)).append (s.balanced ag))

/-! ### Terms -/

/-- An operator's spelling, with what may stand in it. -/
structure IsOperator (op : String) : Prop where
  plain : ∀ c ∈ op.toList, c ∉ ['\'', ';', '$', '/', '-']
  brackets : ∀ c ∈ op.toList, isBracket c = false

lemma Comparison.isOperator (c : Comparison) : IsOperator c.sql := by
  cases c <;> exact ⟨by decide, by decide⟩

lemma Connective.isOperator (k : Connective) : IsOperator k.sql := by
  cases k <;> exact ⟨by decide, by decide⟩

lemma isOperator_like : IsOperator "LIKE" := ⟨by decide, by decide⟩

lemma IsOperator.spaced {op : String} (h : IsOperator op) : IsOperator (" " ++ op ++ " ") := by
  refine ⟨?_, ?_⟩ <;> intro c hc <;>
    simp only [String.toList_append, List.mem_append] at hc <;>
    rcases hc with (hc | hc) | hc
  · obtain rfl : c = ' ' := by simpa using hc
    decide
  · exact h.plain c hc
  · obtain rfl : c = ' ' := by simpa using hc
    decide
  · obtain rfl : c = ' ' := by simpa using hc
    decide
  · exact h.brackets c hc
  · obtain rfl : c = ' ' := by simpa using hc
    decide

lemma between_eq (op : String) (ps qs : List Piece) :
    between op ps qs
      = [] ++ .code "(" :: (ps ++ .code (" " ++ op ++ " ") :: (qs ++ [.code ")"])) := by
  simp [between]

lemma getLast?_between (op : String) (ps qs : List Piece) :
    (between op ps qs).getLast? = some (.code ")") := List.getLast?_concat

lemma tidy_between {op : String} (h : IsOperator op) (hp : Tidy ps) (hq : Tidy qs) :
    Tidy (between op ps qs) := by
  have hop : (Piece.code (" " ++ op ++ " ")).Sound :=
    Piece.sound_plain ⟨by simp, h.spaced.plain⟩
  have hclose := hq.join (s := ")") (Piece.sound_plain (by decide)) tidy_nil
  rw [between_eq]
  exact tidy_nil.join (Piece.sound_plain (by decide)) (hp.join hop hclose)

lemma isGroup_between {op : String} (h : IsOperator op) (hp : Balanced (glyphs ag ps))
    (hq : Balanced (glyphs ag qs)) : IsGroup (glyphs ag (between op ps qs)) := by
  refine ⟨glyphs ag ps ++ ((" " ++ op ++ " ").toList.map .char ++ glyphs ag qs), ?_,
    hp.append ((balanced_chars h.spaced.brackets).append hq)⟩
  rw [between_eq]
  simp only [List.nil_append, glyphs_cons, glyphs_append, glyphs_nil, List.append_nil,
    Piece.glyphs_code, List.append_assoc]
  rfl

lemma balanced_literal (s : String) : Balanced (glyphs ag [.literal s]) := .literal _ .nil

lemma Term.tidy (t : Term) : Tidy t.pieces := by
  induction t with
  | text p => exact p.tidy_text
  | number p =>
    have hend := p.tidy_text.join (s := ")::numeric END") (Piece.sound_plain (by decide)) tidy_nil
    have hthen := (tidy_singleton (Piece.sound_literal "number")).join (s := " THEN (")
      (Piece.sound_plain (by decide)) hend
    have hjson := p.tidy_json.join (s := ") = ") (Piece.sound_plain (by decide)) hthen
    have := tidy_nil.join (s := "CASE WHEN jsonb_typeof(") (Piece.sound_plain (by decide)) hjson
    simpa [Term.pieces] using this
  | integer i => exact tidy_singleton (Piece.sound_numeral (isNumeral_int i))
  | decimal d => exact tidy_singleton (Piece.sound_numeral (isNumeral_fixed 6 d))
  | literal s => exact tidy_singleton (Piece.sound_literal s)
  | compare c l r hl hr => exact tidy_between c.isOperator hl hr
  | connect k l r hl hr => exact tidy_between k.isOperator hl hr
  | contains l s hl =>
    exact tidy_between isOperator_like hl (tidy_singleton (Piece.sound_literal _))
  | subscript l i hl hi =>
    have hclose := hi.join (s := "]") (Piece.sound_plain (by decide)) tidy_nil
    have := hl.join (s := "[") (Piece.sound_plain (by decide)) hclose
    simpa [Term.pieces] using this

lemma Term.balanced (ha : Anchored anchor ag) (t : Term) : Balanced (glyphs ag t.pieces) := by
  induction t with
  | text p => exact p.balanced_text ha
  | number p =>
    -- two groups with code around them
    have hcase : glyphs ag (Term.number p).pieces
        = "CASE WHEN jsonb_typeof".toList.map .char
          ++ (.char '(' :: (glyphs ag p.json ++ [.char ')']) ++ (" = ".toList.map .char
          ++ (.literal "number".toList :: (" THEN ".toList.map .char
          ++ (.char '(' :: (glyphs ag p.text ++ [.char ')'])
          ++ "::numeric END".toList.map .char))))) := by
      simp [Term.pieces]
    rw [hcase]
    refine (balanced_chars (by decide)).append ((p.balanced_json ha).parens.append ?_)
    refine (balanced_chars (by decide)).append (.literal _ ?_)
    refine (balanced_chars (by decide)).append ((p.balanced_text ha).parens.append ?_)
    exact balanced_chars (by decide)
  | integer i => simpa [Term.pieces] using (isNumeral_int i).balanced
  | decimal d => simpa [Term.pieces] using (isNumeral_fixed 6 d).balanced
  | literal s => exact balanced_literal s
  | compare c l r hl hr => exact (isGroup_between c.isOperator hl hr).balanced
  | connect k l r hl hr => exact (isGroup_between k.isOperator hl hr).balanced
  | contains l s hl => exact (isGroup_between isOperator_like hl (balanced_literal _)).balanced
  | subscript l i hl hi =>
    have : Balanced (.char '[' :: (glyphs ag i.pieces ++ .char ']' :: [])) := .group rfl hi .nil
    simpa [Term.pieces] using hl.append this

/-! ### Conditions -/

/-- The term is a comparison, a connective or a containment test. -/
def Term.IsCondition : Term → Prop
  | compare .. | connect .. | contains .. => True
  | _ => False

lemma Term.isGroup (ha : Anchored anchor ag) {t : Term} (h : t.IsCondition) :
    IsGroup (glyphs ag t.pieces) := by
  cases t with
  | compare c l r => exact isGroup_between c.isOperator (l.balanced ha) (r.balanced ha)
  | connect k l r => exact isGroup_between k.isOperator (l.balanced ha) (r.balanced ha)
  | contains l s => exact isGroup_between isOperator_like (l.balanced ha) (balanced_literal _)
  | _ => exact h.elim

lemma Term.harmless (ha : Anchored anchor ag) (t : Term) : Harmless (glyphs ag t.pieces) :=
  harmless_glyphs ha t.tidy.sound

/-- A condition ends in a parenthesis, so its text is read the same before anything else. -/
lemma Term.reads (ha : Anchored anchor ag) {t : Term} (h : t.IsCondition) :
    Reads (t.render anchor).toList (glyphs ag t.pieces) := by
  rw [toList_render]
  refine t.tidy.reads ha fun p hp => ?_
  cases t with
  | compare | connect | contains =>
    rw [Term.pieces, getLast?_between] at hp
    obtain rfl := Option.some.inj hp
    rfl
  | _ => exact h.elim

end Catalog.Sql
