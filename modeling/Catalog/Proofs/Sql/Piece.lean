import Mathlib.Data.List.Chain
import Catalog.Proofs.Sql.Reading
import Catalog.Proofs.Text.Integer
import Catalog.Sql.Term

/-!
What the text of a term reads as. The pieces of a term keep their borders: a literal is never
next to another one, so every literal piece is read as the literal that it is, and everything
else as code.
-/

namespace Catalog.Sql

open Catalog.Number Catalog.Text

/-! ### Harmless code -/

def isDash (g : Glyph) : Prop := g = .char '-'

instance : DecidablePred isDash := fun g => inferInstanceAs (Decidable (g = .char '-'))

/-- Nothing in it ends a statement or starts a comment, also if more of the like stands behind
it. -/
structure Quiet (gs : List Glyph) : Prop where
  chars : ∀ c ∈ [';', '/'], .char c ∉ gs
  dashes : gs.IsChain fun g h => ¬ (isDash g ∧ isDash h)
  last : ∀ g ∈ gs.getLast?, ¬ isDash g

lemma Quiet.append {gs hs : List Glyph} (hg : Quiet gs) (hh : Quiet hs) : Quiet (gs ++ hs) := by
  refine ⟨?_, ?_, ?_⟩
  · intro c hc
    rw [List.mem_append, not_or]
    exact ⟨hg.chars c hc, hh.chars c hc⟩
  · refine List.isChain_append.mpr ⟨hg.dashes, hh.dashes, ?_⟩
    rintro g hlast h - ⟨hd, -⟩
    exact hg.last g hlast hd
  · intro g hlast
    rw [List.getLast?_append] at hlast
    cases hl : hs.getLast? with
    | none => exact hg.last g (by simpa [hl] using hlast)
    | some h =>
      have : h = g := by simpa [hl] using hlast
      exact this ▸ hh.last h (by simp [hl])

lemma Quiet.closed {gs : List Glyph} (h : Quiet gs) : Closed gs := by
  refine ⟨h.chars ';' (by simp), ?_⟩
  intro a b hstart hin
  cases hstart with
  | line =>
    have := h.dashes.infix hin
    simp [isDash] at this
  | block => exact h.chars '/' (by simp) (hin.subset (by simp))

/-- Quiet code in which nothing stands for an argument. -/
structure Harmless (gs : List Glyph) : Prop extends Quiet gs where
  argument : .char '$' ∉ gs

lemma harmless_nil : Harmless [] := ⟨⟨by simp, by simp, by simp⟩, by simp⟩

lemma Harmless.append {gs hs : List Glyph} (hg : Harmless gs) (hh : Harmless hs) :
    Harmless (gs ++ hs) := by
  refine ⟨hg.toQuiet.append hh.toQuiet, ?_⟩
  rw [List.mem_append, not_or]
  exact ⟨hg.argument, hh.argument⟩

lemma harmless_literal (s : List Char) : Harmless [.literal s] :=
  ⟨⟨by simp, by simp, by simp [isDash]⟩, by simp⟩

/-- Code without dashes. -/
lemma harmless_chars {cs : List Char} (h : ∀ c ∈ cs, c ∉ [';', '$', '/', '-']) :
    Harmless (cs.map .char) := by
  have hnot : ∀ c ∈ [';', '$', '/', '-'], .char c ∉ cs.map Glyph.char := by
    intro c hc hmem
    obtain ⟨d, hd, hdc⟩ := List.mem_map.mp hmem
    exact h d hd (Glyph.char.inj hdc ▸ hc)
  have hdash : ∀ g ∈ cs.map Glyph.char, ¬ isDash g := by
    rintro g hg rfl
    exact hnot '-' (by simp) hg
  refine ⟨⟨?_, ?_, ?_⟩, hnot '$' (by simp)⟩
  · intro c hc
    refine hnot c ?_
    simp only [List.mem_cons, List.not_mem_nil, or_false] at hc
    rcases hc with rfl | rfl <;> simp
  · refine List.Pairwise.isChain (List.pairwise_of_forall_mem_list ?_)
    rintro g hg - - ⟨hd, -⟩
    exact hdash g hg hd
  · intro g hg
    exact hdash g (List.mem_of_getLast? hg)

/-! ### Numbers as text -/

/-- Digits and points, at least one of them, and maybe a sign before them. -/
def IsNumeral (cs : List Char) : Prop :=
  ∃ body, body ≠ [] ∧ (∀ c ∈ body, c.isDigit ∨ c = '.') ∧ (cs = body ∨ cs = '-' :: body)

lemma isNumeral_toDigits (n : Nat) : IsNumeral (Nat.toDigits 10 n) :=
  ⟨_, Nat.toDigits_ne_nil, fun _ hc => .inl (isDigit_toDigits hc), .inl rfl⟩

lemma isNumeral_int (i : Int) : IsNumeral (toString i).toList := by
  cases i with
  | ofNat n => simpa [Int.toString_eq_repr, Int.repr, Nat.repr] using isNumeral_toDigits n
  | negSucc n =>
    refine ⟨Nat.toDigits 10 (n + 1), Nat.toDigits_ne_nil, fun _ hc => .inl (isDigit_toDigits hc),
      ?_⟩
    simp [Int.toString_eq_repr, Int.repr, Nat.repr]

lemma isNumeral_fixed (places : Nat) (d : Double) : IsNumeral (d.fixed places).toList := by
  rcases hr : d.ratio with ⟨num, den⟩
  generalize hs : roundDiv .even (num * Nat.pow 10 places) den = scaled at *
  refine ⟨Nat.toDigits 10 (scaled / Nat.pow 10 places) ++ ['.']
    ++ List.replicate (places - (Nat.toDigits 10 (scaled % Nat.pow 10 places)).length) '0'
    ++ Nat.toDigits 10 (scaled % Nat.pow 10 places), by simp, ?_, ?_⟩
  · intro c hc
    simp only [List.mem_append, List.mem_singleton, List.mem_replicate] at hc
    rcases hc with ((hc | hc) | ⟨-, rfl⟩) | hc
    · exact .inl (isDigit_toDigits hc)
    · exact .inr hc
    · exact .inl (by decide)
    · exact .inl (isDigit_toDigits hc)
  · unfold Double.fixed Double.sign
    simp only [hr, hs]
    cases d.negative <;> simp

lemma IsNumeral.forall {cs : List Char} (h : IsNumeral cs) :
    ∀ c ∈ cs, c.isDigit ∨ c = '.' ∨ c = '-' := by
  obtain ⟨body, -, hbody, rfl | rfl⟩ := h
  · exact fun c hc => (hbody c hc).imp_right .inl
  · intro c hc
    rcases List.mem_cons.mp hc with rfl | hc
    · exact .inr (.inr rfl)
    · exact (hbody c hc).imp_right .inl

lemma IsNumeral.ne_nil {cs : List Char} (h : IsNumeral cs) : cs ≠ [] := by
  obtain ⟨body, hne, -, rfl | rfl⟩ := h
  · exact hne
  · simp

/-- Characters of numbers are neither digits in disguise nor any of these marks. -/
lemma IsNumeral.notMem {cs : List Char} (h : IsNumeral cs) {c : Char}
    (hc : c.isDigit = false ∧ c ≠ '.' ∧ c ≠ '-') : c ∉ cs := by
  intro hmem
  rcases h.forall c hmem with hd | hd | hd
  · simp [hd] at hc
  · exact hc.2.1 hd
  · exact hc.2.2 hd

lemma IsNumeral.harmless {cs : List Char} (h : IsNumeral cs) : Harmless (cs.map .char) := by
  obtain ⟨body, hne, hbody, hcs⟩ := h
  have hplain : ∀ c ∈ body, c ∉ [';', '$', '/', '-'] := by
    intro c hc hmem
    simp only [List.mem_cons, List.not_mem_nil, or_false] at hmem
    rcases hmem with rfl | rfl | rfl | rfl <;> simpa using hbody _ hc
  have hb := harmless_chars hplain
  rcases hcs with rfl | rfl
  · exact hb
  · refine ⟨⟨?_, ?_, ?_⟩, by simpa using hb.argument⟩
    · intro c hc hmem
      rcases List.mem_cons.mp hmem with hd | hmem
      · simp_all
      · exact hb.chars c hc hmem
    · refine List.isChain_cons.mpr ⟨?_, hb.dashes⟩
      rintro g hg ⟨-, hd⟩
      obtain ⟨c, hc, rfl⟩ := List.mem_map.mp (List.mem_of_head? hg)
      exact hplain c hc (by simp_all [isDash])
    · intro g hg
      refine hb.last g ?_
      rcases body with _ | ⟨c, body⟩
      · exact absurd rfl hne
      · simpa using hg

lemma IsNumeral.balanced {cs : List Char} (h : IsNumeral cs) : Balanced (cs.map .char) := by
  refine balanced_chars fun c hc => ?_
  by_contra hb
  refine h.notMem ?_ hc
  simp only [isBracket, List.contains_eq_mem, List.mem_cons, List.not_mem_nil, or_false,
    decide_eq_false_iff_not, not_not] at hb
  rcases hb with rfl | rfl | rfl | rfl <;> decide

/-! ### Pieces -/

/-- A text to put in for the anchor, and what it reads as. It does not start with a literal, and
nothing in it is left open. -/
structure Anchored (anchor : String) (ag : List Glyph) : Prop where
  reads : Reads anchor.toList ag
  start : ∃ c cs, anchor.toList = c :: cs ∧ c ≠ '\''
  balanced : Balanced ag
  harmless : Harmless ag

namespace Piece

/-- What a piece stands for, over an anchor that reads as `ag`. -/
def glyphs (ag : List Glyph) : Piece → List Glyph
  | .anchor => ag
  | code s => s.toList.map .char
  | literal s => [.literal s.toList]

@[simp] lemma glyphs_anchor (ag : List Glyph) : Piece.anchor.glyphs ag = ag := rfl

@[simp] lemma glyphs_code (ag : List Glyph) (s : String) :
    (code s).glyphs ag = s.toList.map .char := rfl

@[simp] lemma glyphs_literal (ag : List Glyph) (s : String) :
    (literal s).glyphs ag = [.literal s.toList] := rfl

def isLiteral : Piece → Bool
  | literal _ => true
  | _ => false

/-- Code is not empty, has no quotes, and does no harm. -/
structure Sound (p : Piece) : Prop where
  ne_nil : ∀ s, p = code s → s.toList ≠ []
  quoteless : ∀ s, p = code s → '\'' ∉ s.toList
  harmless : ∀ s, p = code s → Harmless (s.toList.map .char)

/-- Of two neighbours one is no literal. -/
def Apart (p q : Piece) : Prop := p.isLiteral = false ∨ q.isLiteral = false

lemma sound_anchor : Sound .anchor := ⟨by simp, by simp, by simp⟩

lemma sound_literal (s : String) : Sound (literal s) := ⟨by simp, by simp, by simp⟩

lemma sound_code {s : String} (hne : s.toList ≠ []) (hq : '\'' ∉ s.toList)
    (hh : Harmless (s.toList.map .char)) : Sound (code s) := by
  refine ⟨?_, ?_, ?_⟩ <;> rintro _ ⟨⟩
  · exact hne
  · exact hq
  · exact hh

lemma sound_numeral {s : String} (h : IsNumeral s.toList) : Sound (code s) :=
  sound_code h.ne_nil (h.notMem (by decide)) h.harmless

/-- Code that is written down in full is looked through. -/
lemma sound_plain {s : String}
    (h : s.toList ≠ [] ∧ ∀ c ∈ s.toList, c ∉ ['\'', ';', '$', '/', '-']) : Sound (code s) := by
  refine sound_code h.1 (fun hq => h.2 _ hq (by simp)) (harmless_chars fun c hc hmem => ?_)
  exact h.2 c hc (List.mem_cons_of_mem _ hmem)

/-- The two accessors start with a dash, but none follows it. -/
lemma sound_accessor (s : String) (h : s = "->" ∨ s = "->>") : Sound (code s) := by
  rcases h with rfl | rfl <;>
    exact sound_code (by decide) (by decide)
      ⟨⟨by decide, by simp [isDash], by simp [isDash]⟩, by decide⟩

end Piece

end Catalog.Sql
