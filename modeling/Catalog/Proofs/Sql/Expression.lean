import Catalog.Proofs.Sql.Lexing

/-!
Expressions of SQL, read from their lexemes by the precedence of operators: from the loosest, OR,
AND, comparisons, LIKE, the accessors of JSON, the sign of a number, and casts. Comparisons and
LIKE do not associate, all other operators group to the left.
-/

namespace Catalog.Sql

inductive Expression
  | column (name : List Char)
  | integer (i : ℤ)
  | literal (s : List Char)
  | binary (op : BinaryOp) (l r : Expression)
  | cast (e : Expression) (type : List Char)
  | call (f : List Char) (x : Expression)
  | callPair (f : List Char) (x y : Expression)
  /-- The result where the condition is true. -/
  | case (condition result : Expression)
  deriving DecidableEq

def BinaryOp.level : BinaryOp → ℕ
  | connect .or => 1
  | connect .and => 2
  | compare _ => 3
  | like => 4
  | json | text => 5

def BinaryOp.associates : BinaryOp → Bool
  | compare _ | like => false
  | _ => true

lemma BinaryOp.level_pos (op : BinaryOp) : 0 < op.level := by
  cases op with
  | connect k => cases k <;> decide
  | _ => exact Nat.zero_lt_succ _

/-! ### Reading -/

/-- What has been read and waits for its right side. -/
inductive Pending
  | operand (op : BinaryOp) (left : Expression)
  | minus
  | group
  | argument (f : List Char) (first : Option Expression)
  | condition
  | result (condition : Expression)

inductive Place
  | operand
  /-- Behind the first word of a case. -/
  | opened
  /-- Behind a name, which is a column unless arguments follow. -/
  | named (w : List Char)
  | typed (e : Expression)
  | after (e : Expression)

def Place.expression? : Place → Option Expression
  | named w => some (.column w)
  | after e => some e
  | _ => none

structure Progress where
  place : Place
  stack : List Pending

/-- Completes what binds at least as tight as the level. -/
def settle (level : ℕ) : List Pending → Expression → Option (List Pending × Expression)
  | .minus :: k, .integer i => settle level k (.integer (-i))
  | .minus :: _, _ => none
  | .operand op l :: k, e =>
    if op.level < level then some (.operand op l :: k, e)
    else if op.level = level && !op.associates then none
    else settle level k (.binary op l e)
  | k, e => some (k, e)

namespace Progress

def settle? (s : Progress) (level : ℕ) : Option (List Pending × Expression) :=
  s.place.expression?.bind (settle level s.stack)

/-- Reads a lexeme where an operand is expected. -/
def stepOperand (k : List Pending) : Lexeme → Option Progress
  | .word w => some ⟨.named w, k⟩
  | .number n => some ⟨.after (.integer n), k⟩
  | .literal s => some ⟨.after (.literal s), k⟩
  | .minus => some ⟨.operand, .minus :: k⟩
  | .opening => some ⟨.operand, .group :: k⟩
  | .keyword .case => some ⟨.opened, k⟩
  | _ => none

/-- Reads a lexeme behind an operand. -/
def stepAfter (s : Progress) : Lexeme → Option Progress
  | .cast => s.place.expression?.map fun e => ⟨.typed e, s.stack⟩
  | .operator op => (s.settle? op.level).map fun (k, e) => ⟨.operand, .operand op e :: k⟩
  | .closing =>
    match s.settle? 0 with
    | some (.group :: k, e) => some ⟨.after e, k⟩
    | some (.argument f none :: k, e) => some ⟨.after (.call f e), k⟩
    | some (.argument f (some x) :: k, e) => some ⟨.after (.callPair f x e), k⟩
    | _ => none
  | .comma =>
    match s.settle? 0 with
    | some (.argument f none :: k, e) => some ⟨.operand, .argument f (some e) :: k⟩
    | _ => none
  | .keyword .result =>
    match s.settle? 0 with
    | some (.condition :: k, e) => some ⟨.operand, .result e :: k⟩
    | _ => none
  | .keyword .finish =>
    match s.settle? 0 with
    | some (.result c :: k, e) => some ⟨.after (.case c e), k⟩
    | _ => none
  | _ => none

def step (s : Progress) (t : Lexeme) : Option Progress :=
  match s.place, t with
  | .operand, t => stepOperand s.stack t
  | .opened, .keyword .when => some ⟨.operand, .condition :: s.stack⟩
  | .named f, .opening => some ⟨.operand, .argument f none :: s.stack⟩
  | .typed e, .word w => some ⟨.after (.cast e w), s.stack⟩
  | _, t => s.stepAfter t

/-- Reads lexemes one by one. -/
def steps (s : Progress) (ls : List Lexeme) : Option Progress := ls.foldlM step s

/-- The expression that has been read as a whole. -/
def finish? (s : Progress) : Option Expression :=
  match s.settle? 0 with
  | some ([], e) => some e
  | _ => none

end Progress

/-- A text that can be sent to a database. -/
def NulFree (s : String) : Prop := '\x00' ∉ s.toList

instance (s : String) : Decidable (NulFree s) := inferInstanceAs (Decidable (_ ∉ _))

/-- The expression that a text is, if it can be sent and all of it is known. -/
def expression? (sql : String) : Option Expression :=
  if NulFree sql then
    ((glyphs? sql).bind lexemes?).bind fun ls =>
      (Progress.steps ⟨.operand, []⟩ ls).bind Progress.finish?
  else none

/-! ### Operands -/

variable {s : Progress} {k : List Pending} {e l r x : Expression} {ls ms : List Lexeme}

namespace Progress

lemma steps_cons (s : Progress) (t : Lexeme) (ls : List Lexeme) :
    s.steps (t :: ls) = (s.step t).bind (·.steps ls) := rfl

lemma steps_append (s : Progress) (ls ms : List Lexeme) :
    s.steps (ls ++ ms) = (s.steps ls).bind (·.steps ms) := by
  simp [steps, List.foldlM_append]

/-- The reader goes on as if the expression had been read as a whole over the stack. -/
def Holds (s : Progress) (k : List Pending) (e : Expression) : Prop :=
  ∀ level ≤ 5, s.settle? level = settle level k e

/-- Where an operand has ended, what is no bracket is read as what stands behind one. -/
lemma step_of_settle? {n : ℕ} (h : (s.settle? n).isSome) {t : Lexeme} (ht : t ≠ .opening) :
    s.step t = s.stepAfter t := by
  obtain ⟨place, stack⟩ := s
  cases place with
  | operand | opened | typed => cases h
  | named w =>
    cases t with
    | opening => exact absurd rfl ht
    | _ => rfl
  | after => rfl

end Progress

/-- Nothing waits that binds as tight as an accessor. -/
def Loose (k : List Pending) : Prop := ∀ e, settle 5 k e = some (k, e)

/-- Nothing waits for a right side, or a bracket is open. -/
def Bottom (k : List Pending) : Prop := ∀ level e, settle level k e = some (k, e)

lemma Bottom.loose (h : Bottom k) : Loose k := h 5

lemma bottom_group : Bottom (.group :: k) := fun _ _ => rfl

lemma bottom_argument (f : List Char) (first : Option Expression) :
    Bottom (.argument f first :: k) := fun _ _ => rfl

lemma bottom_condition : Bottom (.condition :: k) := fun _ _ => rfl

lemma bottom_result (c : Expression) : Bottom (.result c :: k) := fun _ _ => rfl

lemma loose_operand {op : BinaryOp} (h : op.level < 5) : Loose (.operand op l :: k) := by
  intro e
  rw [settle, if_pos h]

/-- What waits with an operator is completed by everything that does not bind tighter. -/
lemma settle_operand {op : BinaryOp} {level : ℕ} (h : level ≤ op.level)
    (ha : op.level = level → op.associates = true) :
    settle level (.operand op l :: k) e = settle level k (.binary op l e) := by
  rw [settle, if_neg (Nat.not_lt.mpr h), if_neg]
  intro hand
  rw [Bool.and_eq_true, decide_eq_true_iff] at hand
  simp [ha hand.1] at hand

/-- The lexemes are an operand, whatever waits for it. -/
def Primary (ls : List Lexeme) (e : Expression) : Prop :=
  ∀ k, ∃ s, Progress.steps ⟨.operand, k⟩ ls = some s ∧ s.Holds k e

/-- The lexemes are an operand, maybe with accessors. -/
def Operand (ls : List Lexeme) (e : Expression) : Prop :=
  ∀ k, Loose k → ∃ s, Progress.steps ⟨.operand, k⟩ ls = some s ∧ s.Holds k e

/-- The lexemes are an expression between brackets. -/
def Whole (ls : List Lexeme) (e : Expression) : Prop :=
  ∀ k, Bottom k → ∃ s, Progress.steps ⟨.operand, k⟩ ls = some s ∧ s.settle? 0 = some (k, e)

lemma Primary.operand (h : Primary ls e) : Operand ls e := fun k _ => h k

lemma Operand.whole (h : Operand ls e) : Whole ls e := by
  intro k hk
  obtain ⟨s, hs, hholds⟩ := h k hk.loose
  exact ⟨s, hs, (hholds 0 (by decide)).trans (hk 0 e)⟩

lemma primary_word (w : List Char) : Primary [.word w] (.column w) :=
  fun k => ⟨⟨.named w, k⟩, rfl, fun _ _ => rfl⟩

lemma primary_literal (t : List Char) : Primary [.literal t] (.literal t) :=
  fun k => ⟨⟨.after _, k⟩, rfl, fun _ _ => rfl⟩

lemma primary_number (n : ℕ) : Primary [.number n] (.integer n) :=
  fun k => ⟨⟨.after _, k⟩, rfl, fun _ _ => rfl⟩

lemma primary_negative (n : ℕ) : Primary [.minus, .number n] (.integer (-n)) :=
  fun k => ⟨⟨.after (.integer n), .minus :: k⟩, rfl, fun _ _ => rfl⟩

/-- Accessors group to the left. -/
lemma Operand.access (hl : Operand ls l) {op : BinaryOp} (hop : op.level = 5)
    (ha : op.associates = true) (hm : Primary ms x) :
    Operand (ls ++ .operator op :: ms) (.binary op l x) := by
  intro k hk
  obtain ⟨s, hs, hholds⟩ := hl k hk
  have hsettle : s.settle? 5 = some (k, l) := (hholds 5 (by decide)).trans (hk l)
  have hstep : s.step (.operator op) = some ⟨.operand, .operand op l :: k⟩ := by
    rw [Progress.step_of_settle? (n := 5) (by simp [hsettle]) (by simp), Progress.stepAfter, hop,
      hsettle]
    rfl
  obtain ⟨s', hs', hholds'⟩ := hm (.operand op l :: k)
  refine ⟨s', ?_, fun level hlevel => ?_⟩
  · rw [Progress.steps_append, hs, Option.bind_some, Progress.steps_cons, hstep, Option.bind_some,
      hs']
  · rw [hholds' level hlevel, settle_operand (hop ▸ hlevel) fun _ => ha]

/-- Two operands with any other operator between them. -/
lemma Operand.between (hl : Operand ls l) {op : BinaryOp} (hop : op.level < 5) (hm : Operand ms r) :
    Whole (ls ++ .operator op :: ms) (.binary op l r) := by
  intro k hk
  obtain ⟨s, hs, hholds⟩ := hl k hk.loose
  have hsettle : s.settle? op.level = some (k, l) := (hholds _ hop.le).trans (hk _ l)
  have hstep : s.step (.operator op) = some ⟨.operand, .operand op l :: k⟩ := by
    rw [Progress.step_of_settle? (n := op.level) (by simp [hsettle]) (by simp), Progress.stepAfter,
      hsettle]
    rfl
  obtain ⟨s', hs', hholds'⟩ := hm (.operand op l :: k) (loose_operand hop)
  refine ⟨s', ?_, ?_⟩
  · rw [Progress.steps_append, hs, Option.bind_some, Progress.steps_cons, hstep, Option.bind_some,
      hs']
  · rw [hholds' 0 (by decide), settle_operand (Nat.zero_le _), hk]
    intro hzero
    exact absurd hzero op.level_pos.ne'

/-- Behind an expression, what needs all of it. -/
lemma Whole.step (h : Whole ls e) (hk : Bottom k) :
    ∃ s, Progress.steps ⟨.operand, k⟩ ls = some s ∧ s.settle? 0 = some (k, e)
      ∧ ∀ t, t ≠ .opening → s.step t = s.stepAfter t := by
  obtain ⟨s, hs, hsettle⟩ := h k hk
  exact ⟨s, hs, hsettle, fun t => Progress.step_of_settle? (n := 0) (by simp [hsettle])⟩

/-- An expression in parentheses. -/
lemma Whole.group (h : Whole ls e) (k : List Pending) :
    Progress.steps ⟨.operand, k⟩ (.opening :: (ls ++ [.closing])) = some ⟨.after e, k⟩ := by
  obtain ⟨s, hs, hsettle, hstep⟩ := h.step (k := .group :: k) bottom_group
  show Progress.steps ⟨.operand, .group :: k⟩ (ls ++ [.closing]) = _
  rw [Progress.steps_append, hs, Option.bind_some, Progress.steps_cons, hstep _ (by simp),
    Progress.stepAfter, hsettle]
  rfl

lemma Whole.primary (h : Whole ls e) : Primary (.opening :: (ls ++ [.closing])) e :=
  fun k => ⟨_, h.group k, fun _ _ => rfl⟩

lemma Whole.call (h : Whole ls e) (f : List Char) :
    Primary (.word f :: .opening :: (ls ++ [.closing])) (.call f e) := by
  intro k
  obtain ⟨s, hs, hsettle, hstep⟩ := h.step (k := .argument f none :: k) (bottom_argument _ _)
  refine ⟨⟨.after (.call f e), k⟩, ?_, fun _ _ => rfl⟩
  show Progress.steps ⟨.operand, .argument f none :: k⟩ (ls ++ [.closing]) = _
  rw [Progress.steps_append, hs, Option.bind_some, Progress.steps_cons, hstep _ (by simp),
    Progress.stepAfter, hsettle]
  rfl

lemma Whole.case (hc : Whole ls l) (hr : Whole ms r) :
    Primary (.keyword .case :: .keyword .when ::
      (ls ++ .keyword .result :: (ms ++ [.keyword .finish]))) (.case l r) := by
  intro k
  obtain ⟨s, hs, hsettle, hstep⟩ := hc.step (k := .condition :: k) bottom_condition
  obtain ⟨s', hs', hsettle', hstep'⟩ := hr.step (k := .result l :: k) (bottom_result l)
  refine ⟨⟨.after (.case l r), k⟩, ?_, fun _ _ => rfl⟩
  have hresult : s.step (.keyword .result) = some ⟨.operand, .result l :: k⟩ := by
    rw [hstep _ (by simp), Progress.stepAfter, hsettle]
  have hfinish : s'.step (.keyword .finish) = some ⟨.after (.case l r), k⟩ := by
    rw [hstep' _ (by simp), Progress.stepAfter, hsettle']
  show Progress.steps ⟨.operand, .condition :: k⟩ _ = _
  rw [Progress.steps_append, hs, Option.bind_some, Progress.steps_cons, hresult, Option.bind_some,
    Progress.steps_append, hs', Option.bind_some, Progress.steps_cons, hfinish]
  rfl

lemma Whole.cast (h : Whole ls e) (w : List Char) :
    Whole (.opening :: (ls ++ [.closing]) ++ [.cast, .word w]) (.cast e w) := by
  intro k hk
  refine ⟨⟨.after (.cast e w), k⟩, ?_, hk 0 _⟩
  rw [Progress.steps_append, h.group]
  rfl

lemma Primary.finish (h : Primary ls e) :
    (Progress.steps ⟨.operand, []⟩ ls).bind Progress.finish? = some e := by
  obtain ⟨s, hs, hholds⟩ := h []
  have hsettle : s.settle? 0 = some ([], e) := hholds 0 (by decide)
  rw [hs, Option.bind_some, Progress.finish?, hsettle]

end Catalog.Sql
