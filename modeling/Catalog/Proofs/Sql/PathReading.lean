import Catalog.Proofs.Sql.Term

/-!
Paths and numbers are told from their text. A number goes on as long as its figures do, a name is
a literal, and behind a step that is not the last stands an accessor, so a path ends where no
accessor follows any more.
-/

namespace Catalog.Sql

variable {ag gs rest rest' : List Glyph} {last : List Char}

/-- Where two texts begin with members of a kind, and go on with others, the borders agree. -/
lemma append_inj_of_forall {α : Type} {P : α → Prop} {l l' r r' : List α} (hl : ∀ a ∈ l, P a)
    (hl' : ∀ a ∈ l', P a) (hr : ∀ a ∈ r.head?, ¬ P a) (hr' : ∀ a ∈ r'.head?, ¬ P a)
    (h : l ++ r = l' ++ r') : l = l' ∧ r = r' := by
  induction l generalizing l' with
  | nil =>
    cases l' with
    | nil => exact ⟨rfl, h⟩
    | cons a l' =>
      rw [List.nil_append] at h
      exact absurd (hl' a List.mem_cons_self) (hr a (by simp [h]))
  | cons a l ih =>
    cases l' with
    | nil =>
      rw [List.nil_append] at h
      exact absurd (hl a List.mem_cons_self) (hr' a (by simp [← h]))
    | cons a' l' =>
      rw [List.cons_append, List.cons_append, List.cons.injEq] at h
      obtain ⟨rfl, h⟩ := h
      obtain ⟨rfl, hrest⟩ := ih (fun b hb => hl b (List.mem_cons_of_mem _ hb))
        (fun b hb => hl' b (List.mem_cons_of_mem _ hb)) h
      exact ⟨rfl, hrest⟩

/-! ### Borders -/

/-- What may stand behind a term. -/
def Ends (gs : List Glyph) : Prop := ∀ g ∈ gs.head?, g ∈ [.char ' ', .char ')', .char ']']

/-- What may stand behind the head of a term: also an index. -/
def Stops (gs : List Glyph) : Prop :=
  ∀ g ∈ gs.head?, g ∈ [.char ' ', .char ')', .char ']', .char '[']

lemma Ends.stops (h : Ends gs) : Stops gs := by
  intro g hg
  have := h g hg
  simp only [List.mem_cons, List.not_mem_nil, or_false] at this ⊢
  tauto

lemma ends_nil : Ends [] := by simp [Ends]

lemma ends_cons {c : Char} (h : c ∈ [' ', ')', ']']) (gs : List Glyph) : Ends (.char c :: gs) := by
  simpa [Ends] using h

/-! ### Numbers -/

/-- A digit or a point. -/
def Glyph.isFigure : Glyph → Bool
  | .char c => c.isDigit || c = '.'
  | .literal _ => false

lemma Stops.not_isFigure (h : Stops gs) : ∀ g ∈ gs.head?, ¬ g.isFigure = true := by
  intro g hg
  have := h g hg
  simp only [List.mem_cons, List.not_mem_nil, or_false] at this
  rcases this with rfl | rfl | rfl | rfl <;> decide

/-- The sign of a number and its figures. -/
lemma IsNumeral.exists_sign {cs : List Char} (h : IsNumeral cs) :
    ∃ sign figures : List Glyph, cs.map .char = sign ++ figures ∧ (∀ g ∈ sign, g = .char '-')
      ∧ (∀ g ∈ figures, g.isFigure = true) ∧ figures ≠ [] := by
  obtain ⟨body, hne, hbody, hcs⟩ := h
  have hfigures : ∀ g ∈ body.map Glyph.char, g.isFigure = true := by
    intro g hg
    obtain ⟨c, hc, rfl⟩ := List.mem_map.mp hg
    simpa [Glyph.isFigure] using hbody c hc
  rcases hcs with rfl | rfl
  · exact ⟨[], _, rfl, by simp, hfigures, by simpa using hne⟩
  · exact ⟨[.char '-'], _, rfl, by simp, hfigures, by simpa using hne⟩

/-- A number ends where its figures do. -/
lemma IsNumeral.append_inj {cs cs' : List Char} (h : IsNumeral cs) (h' : IsNumeral cs')
    (hrest : ∀ g ∈ rest.head?, ¬ g.isFigure = true)
    (hrest' : ∀ g ∈ rest'.head?, ¬ g.isFigure = true)
    (heq : cs.map .char ++ rest = cs'.map .char ++ rest') : cs = cs' ∧ rest = rest' := by
  obtain ⟨sign, figures, hcs, hsign, hfigures, hne⟩ := h.exists_sign
  obtain ⟨sign', figures', hcs', hsign', hfigures', hne'⟩ := h'.exists_sign
  have hunsigned : ∀ {figures rest : List Glyph}, (∀ g ∈ figures, g.isFigure = true) →
      figures ≠ [] → ∀ g ∈ (figures ++ rest).head?, ¬ g = .char '-' := by
    rintro figures rest hfigures hne g hg rfl
    obtain ⟨f, fs, rfl⟩ := List.exists_cons_of_ne_nil hne
    obtain rfl : f = .char '-' := by simpa using hg
    simpa [Glyph.isFigure] using hfigures _ List.mem_cons_self
  rw [hcs, hcs', List.append_assoc, List.append_assoc] at heq
  obtain ⟨rfl, hbehind⟩ := append_inj_of_forall hsign hsign' (hunsigned hfigures hne)
    (hunsigned hfigures' hne') heq
  obtain ⟨rfl, hrests⟩ := append_inj_of_forall hfigures hfigures' hrest hrest' hbehind
  refine ⟨List.map_injective_iff.mpr (fun _ _ => Glyph.char.inj) ?_, hrests⟩
  rw [hcs, hcs']

/-! ### Paths -/

def Path.steps : Path → List Step
  | root s => [s]
  | child p s => p.steps ++ [s]

lemma Path.steps_ne_nil (p : Path) : p.steps ≠ [] := by
  cases p <;> simp [steps]

lemma Path.steps_inj {p q : Path} (h : p.steps = q.steps) : p = q := by
  have hlonger : ∀ {s t : Step} {q : Path}, [s] ≠ q.steps ++ [t] := by
    intro s t q heq
    obtain ⟨hq, -⟩ := List.append_inj' ((List.nil_append [s]).trans heq) rfl
    exact q.steps_ne_nil hq.symm
  induction p generalizing q with
  | root s =>
    cases q with
    | root t => rw [List.singleton_injective h]
    | child q t => exact absurd h hlonger
  | child p s ih =>
    cases q with
    | root t => exact absurd h.symm hlonger
    | child q t =>
      obtain ⟨hparent, hstep⟩ := List.append_inj' h rfl
      rw [ih hparent, List.singleton_injective hstep]

/-- The steps of a path, the last behind an accessor of its own. -/
def chain (last : List Char) : List Step → List Glyph
  | [] => []
  | [s] => last.map .char ++ s.piece.glyphs []
  | s :: t :: ss => .char '-' :: .char '>' :: (s.piece.glyphs [] ++ chain last (t :: ss))

lemma chain_concat (last : List Char) (ss : List Step) (s : Step) :
    chain last (ss ++ [s]) = chain ['-', '>'] ss ++ (last.map .char ++ s.piece.glyphs []) := by
  induction ss with
  | nil => rfl
  | cons t ss ih =>
    cases ss with
    | nil => simp [chain]
    | cons u ss =>
      simp only [List.cons_append, chain, List.append_assoc] at ih ⊢
      rw [ih]

lemma Step.glyphs_eq (s : Step) (ag : List Glyph) : s.piece.glyphs ag = s.piece.glyphs [] := by
  cases s <;> rfl

lemma Path.glyphs_json (p : Path) : glyphs ag p.json = ag ++ chain ['-', '>'] p.steps := by
  induction p with
  | root s => simp [json, steps, chain, s.glyphs_eq ag]
  | child p s ih => simp [json, steps, chain_concat, ih, s.glyphs_eq ag]

lemma Path.glyphs_text (p : Path) : glyphs ag p.text = ag ++ chain ['-', '>', '>'] p.steps := by
  cases p with
  | root s => simp [text, steps, chain, s.glyphs_eq ag]
  | child p s => simp [text, steps, chain_concat, p.glyphs_json, s.glyphs_eq ag]

/-- A position is no name. -/
lemma Step.position_ne_literal {i : Int64} {cs : List Char} :
    (Step.position i).piece.glyphs [] ++ rest ≠ .literal cs :: rest' := by
  intro heq
  obtain ⟨c, ds, hds⟩ := List.exists_cons_of_ne_nil (isNumeral_int i.toInt).ne_nil
  rw [Step.piece, Piece.glyphs_code, hds] at heq
  exact Glyph.noConfusion (List.cons.inj heq).1

/-- A step ends where its number does, or at once where it is a name. -/
lemma Step.append_inj {s t : Step} (hrest : ∀ g ∈ rest.head?, ¬ g.isFigure = true)
    (hrest' : ∀ g ∈ rest'.head?, ¬ g.isFigure = true)
    (h : s.piece.glyphs [] ++ rest = t.piece.glyphs [] ++ rest') : s = t ∧ rest = rest' := by
  cases s with
  | key name =>
    cases t with
    | key name' => simpa [Step.piece, String.toList_inj] using h
    | position i => exact absurd h.symm Step.position_ne_literal
  | position i =>
    cases t with
    | key name => exact absurd h Step.position_ne_literal
    | position j =>
      obtain ⟨htext, hrests⟩ :=
        (isNumeral_int i.toInt).append_inj (isNumeral_int j.toInt) hrest hrest' h
      have hvalue := Int64.toInt_inj.mp (Text.toString_inj htext)
      exact ⟨congrArg position hvalue, hrests⟩

/-- No step starts like the end of an accessor. -/
lemma Step.ne_accessor (s : Step) : s.piece.glyphs [] ++ rest ≠ .char '>' :: rest' := by
  intro h
  cases s with
  | key name => exact Glyph.noConfusion (List.cons.inj h).1
  | position i =>
    obtain ⟨c, cs, hcs⟩ := List.exists_cons_of_ne_nil (isNumeral_int i.toInt).ne_nil
    rw [Step.piece, Piece.glyphs_code, hcs] at h
    obtain rfl : c = '>' := Glyph.char.inj (List.cons.inj h).1
    exact (isNumeral_int i.toInt).notMem (by decide) (hcs ▸ List.mem_cons_self)

lemma chain_head? (hlast : last = ['-', '>'] ∨ last = ['-', '>', '>']) (s : Step)
    (ss : List Step) : (chain last (s :: ss) ++ rest).head? = some (.char '-') := by
  rcases hlast with rfl | rfl <;> cases ss <;> rfl

/-- Behind a step that is not the last stands an accessor, which no number goes on with. -/
lemma chain_not_isFigure (hlast : last = ['-', '>'] ∨ last = ['-', '>', '>']) (s : Step)
    (ss : List Step) : ∀ g ∈ (chain last (s :: ss) ++ rest).head?, ¬ g.isFigure = true := by
  intro g hg
  rw [chain_head? hlast, Option.mem_some_iff] at hg
  subst hg
  decide

lemma chain_singleton_ne (hlast : last = ['-', '>'] ∨ last = ['-', '>', '>']) (hrest : Stops rest)
    {s t u : Step} {ts : List Step} :
    chain last [s] ++ rest ≠ chain last (t :: u :: ts) ++ rest' := by
  intro h
  have hborder : ∀ g ∈ (chain last (u :: ts) ++ rest').head?, ¬ g.isFigure = true :=
    chain_not_isFigure hlast u ts
  have hhead : (chain last (u :: ts) ++ rest').head? = some (.char '-') := chain_head? hlast u ts
  rcases hlast with rfl | rfl
  · -- the steps agree, and behind the last one stands no accessor
    simp only [chain, List.map_cons, List.map_nil, List.cons_append, List.nil_append,
      List.cons.injEq, true_and, List.append_assoc] at h
    obtain ⟨-, rfl⟩ := Step.append_inj hrest.not_isFigure hborder h
    simpa using hrest _ hhead
  · simp only [chain, List.map_cons, List.map_nil, List.cons_append, List.nil_append,
      List.cons.injEq, true_and, List.append_assoc] at h
    exact t.ne_accessor h.symm

/-- A chain ends behind the step that its last accessor leads to. -/
lemma chain_inj (hlast : last = ['-', '>'] ∨ last = ['-', '>', '>']) {ss ts : List Step}
    (hss : ss ≠ []) (hts : ts ≠ []) (hrest : Stops rest) (hrest' : Stops rest')
    (h : chain last ss ++ rest = chain last ts ++ rest') : ss = ts ∧ rest = rest' := by
  induction ss generalizing ts with
  | nil => exact absurd rfl hss
  | cons s ss ih =>
    obtain ⟨t, ts, rfl⟩ := List.exists_cons_of_ne_nil hts
    rcases ss with _ | ⟨s', ss⟩ <;> rcases ts with _ | ⟨t', ts⟩
    · simp only [chain, List.append_assoc, List.append_cancel_left_eq] at h
      obtain ⟨rfl, hrests⟩ := Step.append_inj hrest.not_isFigure hrest'.not_isFigure h
      exact ⟨rfl, hrests⟩
    · exact absurd h (chain_singleton_ne hlast hrest)
    · exact absurd h.symm (chain_singleton_ne hlast hrest')
    · simp only [chain, List.cons_append, List.append_assoc, List.cons.injEq, true_and] at h
      obtain ⟨rfl, hbehind⟩ := Step.append_inj (chain_not_isFigure hlast s' ss)
        (chain_not_isFigure hlast t' ts) h
      obtain ⟨hsteps, hrests⟩ := ih (List.cons_ne_nil _ _) (List.cons_ne_nil _ _) hbehind
      exact ⟨congrArg (s :: ·) hsteps, hrests⟩

lemma Path.json_inj {p q : Path} (hrest : Stops rest) (hrest' : Stops rest')
    (h : glyphs ag p.json ++ rest = glyphs ag q.json ++ rest') : p = q ∧ rest = rest' := by
  rw [p.glyphs_json, q.glyphs_json, List.append_assoc, List.append_assoc,
    List.append_cancel_left_eq] at h
  obtain ⟨hsteps, hrests⟩ :=
    chain_inj (.inl rfl) p.steps_ne_nil q.steps_ne_nil hrest hrest' h
  exact ⟨steps_inj hsteps, hrests⟩

lemma Path.text_inj {p q : Path} (hrest : Stops rest) (hrest' : Stops rest')
    (h : glyphs ag p.text ++ rest = glyphs ag q.text ++ rest') : p = q ∧ rest = rest' := by
  rw [p.glyphs_text, q.glyphs_text, List.append_assoc, List.append_assoc,
    List.append_cancel_left_eq] at h
  obtain ⟨hsteps, hrests⟩ :=
    chain_inj (.inr rfl) p.steps_ne_nil q.steps_ne_nil hrest hrest' h
  exact ⟨steps_inj hsteps, hrests⟩

end Catalog.Sql
