import Catalog.Proofs.Except
import Catalog.Proofs.Filter.Grammar

/-!
The parser accepts exactly its grammar. What one lexeme does to a state is stated once, as a
relation that knows no limits; from it follows what a state has read, how a phrase is read, and
where the limits are met.
-/

namespace Catalog.Filter

/-! ### One lexeme -/

/-- The state that one lexeme leads to, limits aside. -/
inductive Moves : State → Lexeme → State → Prop
  | ident {l : Level} {k : List Frame} {n : ℕ} (name : String) :
      Moves ⟨.operand, l, k, n⟩ (.ident name) ⟨.after (.ident name), l, k, n⟩
  | const {l : Level} {k : List Frame} {n : ℕ} (c : Constant) :
      Moves ⟨.operand, l, k, n⟩ (.const c) ⟨.after (.const c), l, k, n⟩
  | group {l : Level} {k : List Frame} {n : ℕ} :
      Moves ⟨.operand, l, k, n⟩ (.opening .paren) ⟨.operand, .empty, .group l :: k, n⟩
  | field {l : Level} {k : List Frame} {n : ℕ} (base : Expr) (name : String) :
      Moves ⟨.field base, l, k, n⟩ (.ident name) ⟨.after (.select base name), l, k, n⟩
  | dot {l : Level} {k : List Frame} {n : ℕ} (e : Expr) :
      Moves ⟨.after e, l, k, n⟩ .dot ⟨.field e, l, k, n + 1⟩
  | subscript {l : Level} {k : List Frame} {n : ℕ} (e : Expr) :
      Moves ⟨.after e, l, k, n⟩ (.opening .square)
        ⟨.operand, .empty, .subscript l e :: k, n + 1⟩
  | relation {c d : Option Expr} {k : List Frame} {n : ℕ} (e : Expr) {t : Lexeme} {op : Operator}
      (h : t.relation? = some op) :
      Moves ⟨.after e, ⟨c, d, none⟩, k, n⟩ t ⟨.operand, ⟨c, d, some (e, op)⟩, k, n + 1⟩
  | or {l : Level} {k : List Frame} {n : ℕ} (e : Expr) :
      Moves ⟨.after e, l, k, n⟩ (.connect .or)
        ⟨.operand, ⟨l.conjunct, some (l.disjoined e), none⟩, k, n + 1⟩
  | and {l : Level} {k : List Frame} {n : ℕ} (e : Expr) :
      Moves ⟨.after e, l, k, n⟩ (.connect .and)
        ⟨.operand, ⟨some (l.conjoined e), none, none⟩, k, n + 1⟩
  | leaveGroup {l outer : Level} {k : List Frame} {n : ℕ} (e : Expr) :
      Moves ⟨.after e, l, .group outer :: k, n⟩ (.closing .paren)
        ⟨.after (l.conjoined e), outer, k, n⟩
  | leaveSubscript {l outer : Level} {k : List Frame} {n : ℕ} (e base : Expr) :
      Moves ⟨.after e, l, .subscript outer base :: k, n⟩ (.closing .square)
        ⟨.after (.binary .index base (l.conjoined e)), outer, k, n⟩

variable {s s' s'' : State} {t : Lexeme} {ts us : List Lexeme} {e : Expr}

/-- An operator that relates two sides is one of the operators, and no bracket. -/
lemma counts_of_relation? {op : Operator} (h : t.relation? = some op) :
    t.isOperator = true ∧ t.isOpening = false ∧ t.isClosing = false := by
  cases t <;> simp_all [Lexeme.relation?, Lexeme.isOperator, Lexeme.isOpening, Lexeme.isClosing]

/-- A lexeme does one thing only. -/
lemma Moves.unique (h : Moves s t s') (h' : Moves s t s'') : s' = s'' := by
  cases h with
  | relation e hop =>
    cases h' with
    | relation _ hop' => rw [Option.some.inj (hop.symm.trans hop')]
    | dot | subscript | or | and | leaveGroup | leaveSubscript => cases hop
  | dot | subscript | or | and | leaveGroup | leaveSubscript =>
    cases h' with
    | relation _ hop => cases hop
    | _ => rfl
  | _ => cases h'; rfl

/-- Operators are counted, and a bracket is on the stack as long as it is open. -/
lemma Moves.counts (h : Moves s t s') :
    s'.operators = s.operators + [t].countP Lexeme.isOperator
      ∧ s'.stack.length + [t].countP Lexeme.isClosing
        = s.stack.length + [t].countP Lexeme.isOpening := by
  cases h with
  | relation e hop =>
    obtain ⟨hoperator, hopening, hclosing⟩ := counts_of_relation? hop
    simp [hoperator, hopening, hclosing]
  | _ => exact ⟨rfl, rfl⟩

/-- The state is within the limits. -/
def State.Within (s : State) : Prop :=
  s.operators ≤ maxOperators ∧ s.stack.length ≤ maxNesting

lemma count_eq_ok {s s' : State} : s.count = .ok s' ↔
    s.operators < maxOperators ∧ s' = { s with operators := s.operators + 1 } := by
  unfold State.count
  split
  · rename_i h
    simp [h, eq_comm]
  · rename_i h
    simp [h]

lemma enter_eq_ok {s s' : State} {f : Frame} : s.enter f = .ok s' ↔
    s.stack.length < maxNesting
      ∧ s' = { s with place := .operand, level := .empty, stack := f :: s.stack } := by
  unfold State.enter
  split
  · rename_i h
    simp [h, eq_comm]
  · rename_i h
    simp [h]

/-- A comparison or a containment test is taken if none waits at this depth. -/
lemma stepAfter_relation {op : Operator} (h : t.relation? = some op)
    (hl : s.level.relation = none) :
    s.stepAfter e t = s.count.map fun s =>
      { s with place := .operand, level := { s.level with relation := some (e, op) } } := by
  cases t with
  | compare | colon => simp [State.stepAfter, h, hl]
  | _ => cases h

/-- Where an operand has ended, only what `Moves` knows goes on. -/
lemma moves_of_stepAfter {l : Level} {k : List Frame} {n : ℕ}
    (hs : State.Within ⟨.after e, l, k, n⟩)
    (h : State.stepAfter ⟨.after e, l, k, n⟩ e t = .ok s') :
    Moves ⟨.after e, l, k, n⟩ t s' ∧ s'.Within := by
  obtain ⟨hn, hk⟩ := hs
  cases t with
  | ident | const => cases h
  | dot =>
    obtain ⟨_, hcount, rfl⟩ := map_eq_ok.mp h
    obtain ⟨hlt, rfl⟩ := count_eq_ok.mp hcount
    exact ⟨.dot e, hlt, hk⟩
  | connect c =>
    cases c with
    | and =>
      obtain ⟨_, hcount, rfl⟩ := map_eq_ok.mp h
      obtain ⟨hlt, rfl⟩ := count_eq_ok.mp hcount
      exact ⟨.and e, hlt, hk⟩
    | or =>
      obtain ⟨_, hcount, rfl⟩ := map_eq_ok.mp h
      obtain ⟨hlt, rfl⟩ := count_eq_ok.mp hcount
      exact ⟨.or e, hlt, hk⟩
  | opening b =>
    cases b with
    | paren => cases h
    | square =>
      obtain ⟨_, hcount, henter⟩ := bind_eq_ok.mp h
      obtain ⟨hlt, rfl⟩ := count_eq_ok.mp hcount
      obtain ⟨hdepth, rfl⟩ := enter_eq_ok.mp henter
      exact ⟨.subscript e, hlt, hdepth⟩
  | closing b =>
    cases k with
    | nil => cases h
    | cons f k =>
      simp only [State.stepAfter] at h
      split at h
      · rename_i hb
        cases h
        subst hb
        cases f with
        | group outer => exact ⟨.leaveGroup e, hn, Nat.le_of_succ_le hk⟩
        | subscript outer base => exact ⟨.leaveSubscript e base, hn, Nat.le_of_succ_le hk⟩
      · cases h
  | compare c | colon =>
    obtain ⟨c, d, r⟩ := l
    cases r with
    | some r => cases h
    | none =>
      rw [stepAfter_relation rfl rfl] at h
      obtain ⟨_, hcount, rfl⟩ := map_eq_ok.mp h
      obtain ⟨hlt, rfl⟩ := count_eq_ok.mp hcount
      exact ⟨.relation e rfl, hlt, hk⟩

/-- A step is what `Moves` says, and ends within the limits. -/
lemma step_eq_ok (hs : s.Within) : s.step t = .ok s' ↔ Moves s t s' ∧ s'.Within := by
  constructor
  · intro h
    obtain ⟨place, l, k, n⟩ := s
    cases place with
    | operand =>
      cases t with
      | ident name => cases h; exact ⟨.ident name, hs⟩
      | const c => cases h; exact ⟨.const c, hs⟩
      | opening b =>
        cases b with
        | paren =>
          obtain ⟨hdepth, rfl⟩ := enter_eq_ok.mp h
          exact ⟨.group, hs.1, hdepth⟩
        | square => cases h
      | _ => cases h
    | field base =>
      cases t with
      | ident name => cases h; exact ⟨.field base name, hs⟩
      | _ => cases h
    | after e => exact moves_of_stepAfter hs h
  · rintro ⟨hm, hw⟩
    obtain ⟨hoperators, hdepth⟩ := hw
    cases hm with
    | ident | const | field => rfl
    | group => exact enter_eq_ok.mpr ⟨hdepth, rfl⟩
    | dot | or | and => exact map_eq_ok.mpr ⟨_, count_eq_ok.mpr ⟨hoperators, rfl⟩, rfl⟩
    | subscript e =>
      exact bind_eq_ok.mpr ⟨_, count_eq_ok.mpr ⟨hoperators, rfl⟩, enter_eq_ok.mpr ⟨hdepth, rfl⟩⟩
    | relation e hop =>
      exact (stepAfter_relation hop rfl).trans
        (map_eq_ok.mpr ⟨_, count_eq_ok.mpr ⟨hoperators, rfl⟩, rfl⟩)
    | leaveGroup | leaveSubscript => rfl

/-! ### All lexemes -/

/-- The state that some lexemes lead to, limits aside. -/
inductive Reaches : State → List Lexeme → State → Prop
  | refl (s : State) : Reaches s [] s
  | step {s s' s'' : State} {t : Lexeme} {ts : List Lexeme} (move : Moves s t s')
      (rest : Reaches s' ts s'') : Reaches s (t :: ts) s''

lemma Reaches.single (h : Moves s t s') : Reaches s [t] s' := .step h (.refl s')

lemma Reaches.trans (h : Reaches s ts s') (h' : Reaches s' us s'') : Reaches s (ts ++ us) s'' := by
  induction h with
  | refl s => exact h'
  | step move rest ih => exact .step move (ih h')

lemma Reaches.unique (h : Reaches s ts s') (h' : Reaches s ts s'') : s' = s'' := by
  induction h with
  | refl s => cases h'; rfl
  | step move rest ih =>
    cases h' with
    | step move' rest' => exact ih (move.unique move' ▸ rest')

/-- A run succeeds if the lexemes lead to a state that may end, and stay within the limits. -/
lemma run_eq_ok {stop : ℕ} {tokens : List Token} (hs : s.Within) :
    s.run stop tokens = .ok e ↔
      (∃ s', Reaches s (tokens.map Token.lexeme) s' ∧ s'.finish = .ok e)
        ∧ Fits s.operators s.stack.length (tokens.map Token.lexeme) := by
  induction tokens generalizing s with
  | nil =>
    have hfits : Fits s.operators s.stack.length [] := fits_nil.mpr hs
    constructor
    · intro h
      cases hf : s.finish with
      | ok e' =>
        rw [State.run, hf] at h
        cases h
        exact ⟨⟨s, .refl s, hf⟩, hfits⟩
      | error fault => rw [State.run, hf] at h; cases h
    · rintro ⟨⟨s', hr, hf⟩, -⟩
      cases hr
      rw [State.run, hf]
      rfl
  | cons token tokens ih =>
    simp only [State.run, List.map_cons]
    constructor
    · intro h
      split at h
      · cases h
      · rename_i s₁ hstep
        obtain ⟨hmove, hw⟩ := (step_eq_ok hs).mp hstep
        obtain ⟨⟨s', hr, hf⟩, hfits⟩ := (ih hw).mp h
        obtain ⟨hn, hd⟩ := hmove.counts
        exact ⟨⟨s', .step hmove hr, hf⟩, (fits_cons hn hd).mpr ⟨hs.2, hfits⟩⟩
    · rintro ⟨⟨s', hr, hf⟩, hfits⟩
      cases hr with
      | step hmove hr =>
        obtain ⟨hn, hd⟩ := hmove.counts
        have hrest := ((fits_cons hn hd).mp hfits).2
        rw [(step_eq_ok hs).mpr ⟨hmove, hrest.start⟩]
        exact (ih hrest.start).mpr ⟨⟨s', hr, hf⟩, hrest⟩

/-! ### What a state has read -/

/-- A phrase and the connective behind it, if there is one. -/
inductive Waits (p : Phrase) (t : Lexeme) : Option Expr → List Lexeme → Prop
  | none : Waits p t none []
  | some {ts : List Lexeme} {e : Expr} (left : Derives p ts e) : Waits p t (some e) (ts ++ [t])

/-- The left side of a comparison or a containment test, if there is one. -/
inductive Relates : Option (Expr × Operator) → List Lexeme → Prop
  | none : Relates none []
  | some {ts : List Lexeme} {t : Lexeme} {e : Expr} {op : Operator} (left : Derives .member ts e)
      (h : t.relation? = some op) : Relates (some (e, op)) (ts ++ [t])

/-- The lexemes have left what waits at one bracket depth. -/
inductive Level.Reads : Level → List Lexeme → Prop
  | parts {c d : Option Expr} {r : Option (Expr × Operator)} {cs ds rs : List Lexeme}
      (conjunct : Waits .conjunction (.connect .and) c cs)
      (disjunct : Waits .disjunction (.connect .or) d ds) (relation : Relates r rs) :
      Level.Reads ⟨c, d, r⟩ (cs ++ (ds ++ rs))

/-- The lexemes have left the open brackets. -/
inductive Encloses : List Frame → List Lexeme → Prop
  | outside : Encloses [] []
  | group {k : List Frame} {l : Level} {ks ls : List Lexeme} (outer : Encloses k ks)
      (level : l.Reads ls) : Encloses (.group l :: k) (ks ++ (ls ++ [.opening .paren]))
  | subscript {k : List Frame} {l : Level} {e : Expr} {ks ls ts : List Lexeme}
      (outer : Encloses k ks) (level : l.Reads ls) (base : Derives .member ts e) :
      Encloses (.subscript l e :: k) (ks ++ (ls ++ (ts ++ [.opening .square])))

/-- The lexemes have led to the place, from where an operand is expected. -/
inductive Place.Reads : Place → List Lexeme → Prop
  | operand : Place.Reads .operand []
  | field {ts : List Lexeme} {e : Expr} (base : Derives .member ts e) :
      Place.Reads (.field e) (ts ++ [.dot])
  | after {ts : List Lexeme} {e : Expr} (operand : Derives .member ts e) : Place.Reads (.after e) ts

/-- What a state holds is what the lexemes say so far. -/
inductive State.Reads : State → List Lexeme → Prop
  | parts {p : Place} {l : Level} {k : List Frame} {n : ℕ} {ks ls ps : List Lexeme}
      (stack : Encloses k ks) (level : l.Reads ls) (place : p.Reads ps) :
      State.Reads ⟨p, l, k, n⟩ (ks ++ (ls ++ ps))

lemma Level.Reads.empty : Level.empty.Reads [] := .parts .none .none .none

lemma Relates.related {l : Level} {rs : List Lexeme} (hr : Relates l.relation rs)
    (he : Derives .member ts e) : Derives .comparison (rs ++ ts) (l.related e) := by
  obtain ⟨c, d, r⟩ := l
  cases hr with
  | none => exact .member he
  | @some ls t left op hl hop =>
    rw [List.append_assoc]
    cases t with
    | compare c => cases hop; exact .compare hl c he
    | colon => cases hop; exact .has hl he
    | _ => cases hop

lemma Waits.disjoined {l : Level} {ds rs : List Lexeme}
    (hd : Waits .disjunction (.connect .or) l.disjunct ds) (hr : Relates l.relation rs)
    (he : Derives .member ts e) : Derives .disjunction (ds ++ (rs ++ ts)) (l.disjoined e) := by
  obtain ⟨c, d, r⟩ := l
  cases hd with
  | none => exact .comparison (hr.related he)
  | some hl =>
    rw [List.append_assoc]
    exact .or hl (hr.related he)

/-- The tree of a level, when its last operand is read. -/
lemma Level.Reads.conjoined {l : Level} {ls : List Lexeme} (hl : l.Reads ls)
    (he : Derives .member ts e) : Derives .conjunction (ls ++ ts) (l.conjoined e) := by
  cases hl with
  | @parts c d r cs ds rs hc hd hr =>
    have hdisjoined := Waits.disjoined (l := ⟨c, d, r⟩) hd hr he
    simp only [List.append_assoc]
    cases hc with
    | none => exact .disjunction hdisjoined
    | some hleft =>
      rw [List.append_assoc]
      exact .and hleft hdisjoined

/-- One lexeme more is read. -/
lemma Moves.reads (hm : Moves s t s') (hs : s.Reads ts) : s'.Reads (ts ++ [t]) := by
  obtain ⟨hk, hl, hp⟩ := hs
  cases hm with
  | ident name =>
    cases hp
    simpa using State.Reads.parts hk hl (.after (.primary (.ident name)))
  | const c =>
    cases hp
    simpa using State.Reads.parts hk hl (.after (.primary (.const c)))
  | group =>
    cases hp
    simpa using State.Reads.parts (.group hk hl) .empty .operand
  | field base name =>
    cases hp with
    | field hbase => simpa using State.Reads.parts hk hl (.after (.select hbase name))
  | dot e =>
    cases hp with
    | after he => simpa using State.Reads.parts hk hl (.field he)
  | subscript e =>
    cases hp with
    | after he => simpa using State.Reads.parts (.subscript hk hl he) .empty .operand
  | relation e hop =>
    cases hp with
    | after he =>
      cases hl with
      | parts hc hd hr =>
        cases hr
        simpa using State.Reads.parts hk (.parts hc hd (.some he hop)) .operand
  | or e =>
    cases hp with
    | after he =>
      cases hl with
      | @parts c d r cs ds rs hc hd hr =>
        have hleft := Waits.disjoined (l := ⟨c, d, r⟩) hd hr he
        simpa using State.Reads.parts hk (.parts hc (.some hleft) .none) .operand
  | and e =>
    cases hp with
    | after he =>
      simpa using State.Reads.parts hk (.parts (.some (hl.conjoined he)) .none .none) .operand
  | leaveGroup e =>
    cases hp with
    | after he =>
      cases hk with
      | group houter hlevel =>
        simpa using State.Reads.parts houter hlevel (.after (.primary (.group (hl.conjoined he))))
  | leaveSubscript e base =>
    cases hp with
    | after he =>
      cases hk with
      | subscript houter hlevel hbase =>
        simpa using State.Reads.parts houter hlevel (.after (.subscript hbase (hl.conjoined he)))

lemma Reaches.reads (hr : Reaches s us s') (hs : s.Reads ts) : s'.Reads (ts ++ us) := by
  induction hr generalizing ts with
  | refl s => simpa using hs
  | step move rest ih => simpa using ih (move.reads hs)

/-- Where the text may end, all of it is one conjunction. -/
lemma derives_of_finish (hs : s.Reads ts) (h : s.finish = .ok e) : Derives .conjunction ts e := by
  obtain ⟨hk, hl, hp⟩ := hs
  cases hp with
  | operand | field => cases h
  | after he =>
    cases hk with
    | outside =>
      cases h
      exact hl.conjoined he
    | group | subscript => cases h

lemma derives_of_reaches (hr : Reaches .start ts s) (h : s.finish = .ok e) :
    Derives .conjunction ts e :=
  derives_of_finish (hr.reads (.parts .outside .empty .operand)) h

/-! ### How a phrase is read -/

/-- What waits at a level once a phrase of the kind is over. -/
def Level.without (l : Level) : Phrase → Level
  | .conjunction => .empty
  | .disjunction => ⟨l.conjunct, none, none⟩
  | .comparison => ⟨l.conjunct, l.disjunct, none⟩
  | .member | .primary => l

/-- The tree of the phrase of the kind that `e` ends. -/
def Level.joined (l : Level) (e : Expr) : Phrase → Expr
  | .conjunction => l.conjoined e
  | .disjunction => l.disjoined e
  | .comparison => l.related e
  | .member | .primary => e

/-- From every state where nothing waits that binds as tight as the phrase, the parser goes on to
the end of the phrase, and holds its tree. -/
def Parses (p : Phrase) (ts : List Lexeme) (e : Expr) : Prop :=
  ∀ (l : Level) (k : List Frame) (n : ℕ), l.without p = l →
    ∃ (l' : Level) (last : Expr) (n' : ℕ),
      Reaches ⟨.operand, l, k, n⟩ ts ⟨.after last, l', k, n'⟩
        ∧ l'.without p = l ∧ l'.joined last p = e

lemma Parses.related {ls rs : List Lexeme} {l r : Expr} {op : Operator} (left : Parses .member ls l)
    (h : t.relation? = some op) (right : Parses .member rs r) :
    Parses .comparison (ls ++ t :: rs) (.binary op l r) := by
  rintro ⟨c, d, _⟩ k n hl
  cases hl
  obtain ⟨_, m, n₁, hr₁, rfl, rfl⟩ := left ⟨c, d, none⟩ k n rfl
  obtain ⟨_, m', n₂, hr₂, rfl, rfl⟩ := right ⟨c, d, some (m, op)⟩ k (n₁ + 1) rfl
  exact ⟨_, m', n₂, hr₁.trans (.step (.relation m h) hr₂), rfl, rfl⟩

/-- Every phrase is parsed. -/
lemma Derives.parses {p : Phrase} (h : Derives p ts e) : Parses p ts e := by
  induction h with
  | ident name => exact fun l k n _ => ⟨l, _, n, .single (.ident name), rfl, rfl⟩
  | const c => exact fun l k n _ => ⟨l, _, n, .single (.const c), rfl, rfl⟩
  | group inner ih =>
    intro l k n _
    obtain ⟨l', last, n', hr, -, rfl⟩ := ih .empty (.group l :: k) n rfl
    exact ⟨l, _, n', .step .group (hr.trans (.single (.leaveGroup last))), rfl, rfl⟩
  | primary alone ih => exact ih
  | select base name ih =>
    intro l k n hl
    obtain ⟨l', last, n', hr, rfl, rfl⟩ := ih l k n hl
    exact ⟨l', _, n' + 1, hr.trans (.step (.dot last) (.single (.field last name))), rfl, rfl⟩
  | subscript base index ihbase ihindex =>
    intro l k n hl
    obtain ⟨l₁, last₁, n₁, hr₁, rfl, rfl⟩ := ihbase l k n hl
    obtain ⟨l₂, last₂, n₂, hr₂, -, rfl⟩ := ihindex .empty (.subscript l₁ last₁ :: k) (n₁ + 1) rfl
    have hleave := hr₂.trans (.single (.leaveSubscript last₂ last₁))
    exact ⟨l₁, _, n₂, hr₁.trans (.step (.subscript last₁) hleave), rfl, rfl⟩
  | member alone ih =>
    rintro ⟨c, d, _⟩ k n hl
    cases hl
    obtain ⟨_, last, n', hr, rfl, rfl⟩ := ih ⟨c, d, none⟩ k n rfl
    exact ⟨_, last, n', hr, rfl, rfl⟩
  | compare left c right ihleft ihright => exact ihleft.related rfl ihright
  | has left right ihleft ihright => exact ihleft.related rfl ihright
  | comparison alone ih =>
    rintro ⟨c, _, _⟩ k n hl
    cases hl
    obtain ⟨⟨c', d', r'⟩, last, n', hr, hl', rfl⟩ := ih ⟨c, none, none⟩ k n rfl
    cases hl'
    exact ⟨_, last, n', hr, rfl, rfl⟩
  | or left right ihleft ihright =>
    rintro ⟨c, _, _⟩ k n hl
    cases hl
    obtain ⟨⟨c₁, d₁, r₁⟩, m, n₁, hr₁, hl₁, rfl⟩ := ihleft ⟨c, none, none⟩ k n rfl
    obtain rfl : c₁ = c := congrArg Level.conjunct hl₁
    obtain ⟨⟨c₂, d₂, r₂⟩, m', n₂, hr₂, hl₂, rfl⟩ :=
      ihright ⟨c₁, some (Level.disjoined ⟨c₁, d₁, r₁⟩ m), none⟩ k (n₁ + 1) rfl
    obtain rfl : d₂ = some (Level.disjoined ⟨c₁, d₁, r₁⟩ m) := congrArg Level.disjunct hl₂
    obtain rfl : c₂ = c₁ := congrArg Level.conjunct hl₂
    exact ⟨_, m', n₂, hr₁.trans (.step (.or m) hr₂), rfl, rfl⟩
  | disjunction alone ih =>
    rintro ⟨_, _, _⟩ k n hl
    cases hl
    obtain ⟨⟨c', d', r'⟩, last, n', hr, hl', rfl⟩ := ih .empty k n rfl
    cases hl'
    exact ⟨_, last, n', hr, rfl, rfl⟩
  | and left right ihleft ihright =>
    rintro ⟨_, _, _⟩ k n hl
    cases hl
    obtain ⟨l₁, m, n₁, hr₁, -, rfl⟩ := ihleft .empty k n rfl
    obtain ⟨⟨c₂, d₂, r₂⟩, m', n₂, hr₂, hl₂, rfl⟩ :=
      ihright ⟨some (l₁.conjoined m), none, none⟩ k (n₁ + 1) rfl
    cases hl₂
    exact ⟨_, m', n₂, hr₁.trans (.step (.and m) hr₂), rfl, rfl⟩

/-- Limits aside, the parser reads exactly the grammar. -/
lemma reaches_iff_derives :
    (∃ s, Reaches .start ts s ∧ s.finish = .ok e) ↔ Derives .conjunction ts e := by
  constructor
  · rintro ⟨s, hr, hf⟩
    exact derives_of_reaches hr hf
  · intro h
    obtain ⟨l, last, n, hr, -, rfl⟩ := h.parses .empty [] 0 rfl
    exact ⟨_, hr, rfl⟩

/-- Lexemes that can be derived have one tree. -/
lemma Derives.unique {e' : Expr} (h : Derives .conjunction ts e) (h' : Derives .conjunction ts e') :
    e = e' := by
  obtain ⟨s, hr, hf⟩ := reaches_iff_derives.mpr h
  obtain ⟨s', hr', hf'⟩ := reaches_iff_derives.mpr h'
  rw [hr.unique hr', hf'] at hf
  cases hf
  rfl

lemma start_run_eq_ok {stop : ℕ} {tokens : List Token} :
    State.start.run stop tokens = .ok e ↔
      Derives .conjunction (tokens.map Token.lexeme) e ∧ Fits 0 0 (tokens.map Token.lexeme) := by
  rw [run_eq_ok ⟨Nat.zero_le _, Nat.zero_le _⟩, reaches_iff_derives]
  rfl

lemma fits_zero : Fits 0 0 ts ↔
    ts.countP Lexeme.isOperator ≤ 256
      ∧ ∀ p, p <+: ts → p.countP Lexeme.isOpening ≤ p.countP Lexeme.isClosing + 32 := by
  constructor
  · intro h
    exact ⟨by simpa [maxOperators] using h.operators_le,
      fun p hp => by simpa [maxNesting] using h.depth_le p hp⟩
  · rintro ⟨hn, hd⟩
    exact ⟨by simpa [maxOperators] using hn, fun p hp => by simpa [maxNesting] using hd p hp⟩

/-! ### The parser and its grammar -/

lemma parse_eq_ok {text : String} : parse text = .ok e ↔
    ∃ tokens, tokenize text = .ok tokens ∧ Derives .conjunction (tokens.map Token.lexeme) e
      ∧ Fits 0 0 (tokens.map Token.lexeme) := by
  rw [parse, bind_eq_ok]
  simp only [start_run_eq_ok]

/-- **The parser accepts exactly its grammar**: a filter gets a tree if and only if it can be split
into lexemes, all of these are one conjunction with this tree, and no more than 256 are operators
and nowhere are more than 32 brackets open. The grammar gives no more than one tree. -/
theorem parse_eq_ok_iff_derives :
    (∀ (text : String) (e : Expr), parse text = .ok e ↔
      ∃ tokens, tokenize text = .ok tokens
        ∧ Derives .conjunction (tokens.map Token.lexeme) e
        ∧ (tokens.map Token.lexeme).countP Lexeme.isOperator ≤ 256
        ∧ ∀ p, p <+: tokens.map Token.lexeme →
          p.countP Lexeme.isOpening ≤ p.countP Lexeme.isClosing + 32)
    ∧ ∀ (ts : List Lexeme) (e e' : Expr),
      Derives .conjunction ts e → Derives .conjunction ts e' → e = e' := by
  refine ⟨fun text e => ?_, fun ts e e' => Derives.unique⟩
  have hparse : parse text = tokenize text >>= State.start.run text.utf8ByteSize := rfl
  simp only [hparse, bind_eq_ok, start_run_eq_ok, fits_zero]

/-- `a OR b AND c` joins `a` and `b` first, and can be read in no other way. -/
theorem derives_or_within_and :
    Derives .conjunction
        [.ident "a", .connect .or, .ident "b", .connect .and, .ident "c"]
        (.binary (.connect .and) (.binary (.connect .or) (.ident "a") (.ident "b")) (.ident "c"))
      ∧ ¬ Derives .conjunction
        [.ident "a", .connect .or, .ident "b", .connect .and, .ident "c"]
        (.binary (.connect .or) (.ident "a")
          (.binary (.connect .and) (.ident "b") (.ident "c"))) := by
  have operand (name : String) : Derives .comparison [.ident name] (.ident name) :=
    .member (.primary (.ident name))
  have derived := Derives.and (.disjunction (.or (.comparison (operand "a")) (operand "b")))
    (.comparison (operand "c"))
  refine ⟨derived, fun other => ?_⟩
  have := parse_eq_ok_iff_derives.2 _ _ _ derived other
  simp [Expr.binary, Operator.function] at this

end Catalog.Filter
