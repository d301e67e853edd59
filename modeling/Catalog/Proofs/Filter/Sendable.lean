import Catalog.Proofs.Filter.Containment
import Catalog.Proofs.Filter.Literals
import Catalog.Proofs.Filter.Vocabulary
import Catalog.Proofs.Sql.TermEvaluation

/-!
The character zero on its way from a filter to its clause. A statement that holds it is never run.
The compiler looks for it in every text that is compared or searched for, and not in the keys of a
path: so a clause holds the character if and only if its filter does, and then in a key.
-/

namespace Catalog.Sql

variable {name op s : String} {ps qs : List Piece}

/-! ### Pieces -/

lemma nulFree_quoteLiteral_iff : NulFree (quoteLiteral s) ↔ NulFree s := by
  refine ⟨fun h hmem => h ?_, nulFree_quoteLiteral⟩
  have hdoubled : '\x00' ∈ doubleQuotes s.toList := List.mem_flatMap.mpr ⟨_, hmem, by decide⟩
  simpa [quoteLiteral] using hdoubled

lemma nulFree_containsPattern_iff : NulFree (containsPattern s) ↔ NulFree s := by
  refine ⟨fun h hmem => h ?_, nulFree_containsPattern⟩
  have hescaped : '\x00' ∈ escapePattern s.toList := List.mem_flatMap.mpr ⟨_, hmem, by decide⟩
  simpa [containsPattern] using hescaped

lemma nulFree_fixed (d : Number.Double) : NulFree (d.fixed 6) :=
  (isNumeral_fixed 6 d).notMem (by decide)

/-- Over an anchor that can be sent, what is written can be sent if all of its pieces can. -/
lemma nulFree_written_iff (ha : NulFree name) :
    '\x00' ∉ written name ps ↔ ∀ p ∈ ps, p.NulFree := by
  refine ⟨fun h p hp => ?_, nulFree_written ha⟩
  have hpiece : '\x00' ∉ (p.render name).toList :=
    fun hin => h (List.mem_flatMap.mpr ⟨p, hp, hin⟩)
  cases p with
  | anchor => trivial
  | code s => exact hpiece
  | literal s => exact nulFree_quoteLiteral_iff.mp hpiece

lemma nulFree_between_iff (hop : NulFree op) : (∀ q ∈ between op ps qs, q.NulFree) ↔
    (∀ q ∈ ps, q.NulFree) ∧ ∀ q ∈ qs, q.NulFree := by
  refine ⟨fun h => ⟨fun q hq => h q ?_, fun q hq => h q ?_⟩,
    fun h => nulFree_between hop h.1 h.2⟩
  · simp [between, hq]
  · simp [between, hq]

@[simp] lemma Piece.nulFree_anchor : Piece.anchor.NulFree := trivial

@[simp] lemma Piece.nulFree_code : (Piece.code s).NulFree ↔ Sql.NulFree s := Iff.rfl

@[simp] lemma Piece.nulFree_literal : (Piece.literal s).NulFree ↔ Sql.NulFree s := Iff.rfl

/-! ### What literals hold -/

/-- What a literal stands for can be sent. -/
def Shown.NulFree : Shown → Prop
  | anchor => True
  | text s | pattern s | fixed s => Sql.NulFree s

@[simp] lemma Shown.nulFree_anchor : Shown.anchor.NulFree := trivial

@[simp] lemma Shown.nulFree_text : (Shown.text s).NulFree ↔ Sql.NulFree s := Iff.rfl

@[simp] lemma Shown.nulFree_pattern : (Shown.pattern s).NulFree ↔ Sql.NulFree s := Iff.rfl

@[simp] lemma Shown.nulFree_fixed : (Shown.fixed s).NulFree ↔ Sql.NulFree s := Iff.rfl

lemma Step.nulFree_piece_iff (s : Step) : s.piece.NulFree ↔ ∀ x ∈ s.shown, x.NulFree := by
  cases s with
  | key name => simp [piece, shown]
  | position i => exact iff_of_true (nulFree_toString i.toInt) (by simp [shown])

lemma nulFree_arrows : NulFree "->" ∧ NulFree "->>" := by decide

lemma Path.nulFree_json_iff (p : Path) :
    (∀ q ∈ p.json, q.NulFree) ↔ ∀ x ∈ p.shown, x.NulFree := by
  induction p with
  | root s => simp [json, shown, s.nulFree_piece_iff, nulFree_arrows]
  | child p s ih =>
    rw [json, shown, List.forall_mem_append, List.forall_mem_append, ih, List.forall_mem_cons]
    simp [s.nulFree_piece_iff, nulFree_arrows]

lemma Path.nulFree_text_iff (p : Path) :
    (∀ q ∈ p.text, q.NulFree) ↔ ∀ x ∈ p.shown, x.NulFree := by
  cases p with
  | root s => simp [text, shown, s.nulFree_piece_iff, nulFree_arrows]
  | child p s =>
    rw [text, shown, List.forall_mem_append, List.forall_mem_append, p.nulFree_json_iff,
      List.forall_mem_cons]
    simp [s.nulFree_piece_iff, nulFree_arrows]

/-- A term can be sent if what its literals stand for can. -/
lemma Term.nulFree_pieces_iff (t : Term) :
    (∀ p ∈ t.pieces, p.NulFree) ↔ ∀ x ∈ t.shown, x.NulFree := by
  induction t with
  | text p => exact p.nulFree_text_iff
  | number p =>
    have hguard : NulFree "CASE WHEN jsonb_typeof(" ∧ NulFree ") = " ∧ NulFree "number"
        ∧ NulFree " THEN (" ∧ NulFree ")::numeric END" := by decide
    simp only [pieces, shown, List.cons_append, List.forall_mem_append, List.forall_mem_cons,
      p.nulFree_json_iff, p.nulFree_text_iff, Piece.nulFree_code, Piece.nulFree_literal,
      Shown.nulFree_fixed, hguard, true_and, List.not_mem_nil, false_imp_iff, implies_true,
      and_true]
  | integer i => exact iff_of_true (nulFree_single (nulFree_toString i)) (by simp [shown])
  | decimal d => exact iff_of_true (nulFree_single (nulFree_fixed d)) (by simp [shown])
  | literal s => simp [pieces, shown]
  | compare c l r hl hr =>
    rw [pieces, shown, nulFree_between_iff (by cases c <;> decide), hl, hr,
      List.forall_mem_append]
  | connect k l r hl hr =>
    rw [pieces, shown, nulFree_between_iff (by cases k <;> decide), hl, hr,
      List.forall_mem_append]
  | contains l s hl =>
    rw [pieces, shown, nulFree_between_iff (by decide), hl, List.forall_mem_append]
    simp [nulFree_containsPattern_iff]
  | subscript l i hl hi =>
    have hbrackets : NulFree "[" ∧ NulFree "]" := by decide
    simp only [pieces, shown, List.forall_mem_append, List.forall_mem_cons, hl, hi,
      Piece.nulFree_code, hbrackets, true_and, List.not_mem_nil, false_imp_iff, implies_true,
      and_true]

lemma Term.nulFree_render_iff (ha : NulFree name) (t : Term) :
    NulFree (t.render name) ↔ ∀ x ∈ t.shown, x.NulFree := by
  rw [NulFree, toList_render, nulFree_written_iff ha, t.nulFree_pieces_iff]

end Catalog.Sql

namespace Catalog.Filter

open Catalog.Sql Catalog.Text

variable {c : Char} {cs w : List Char} {ls : List Lexeme} {lexeme : Lexeme} {p : Phrase}
  {e l r x : Expr} {op : Operator} {t : Term} {k : String}

/-! ### Expressions -/

/-- No text that stands in the expression holds the character. -/
def Expr.NulFree (e : Expr) : Prop := ∀ k, Part (.const (.string k)) e → Sql.NulFree k

lemma nulFree_ident (name : String) : (Expr.ident name).NulFree := by
  intro k hpart
  cases hpart

lemma nulFree_const {c : Constant} :
    (Expr.const c).NulFree ↔ ∀ k, c = .string k → Sql.NulFree k := by
  simp only [Expr.NulFree, part_const, Expr.const.injEq, eq_comm]

lemma nulFree_select {field : String} : (Expr.select e field).NulFree ↔ e.NulFree := by
  refine forall_congr' fun k => imp_congr_left ⟨fun h => ?_, .select field⟩
  cases h with
  | select _ inner => exact inner

lemma nulFree_binary : (Expr.binary op l r).NulFree ↔ l.NulFree ∧ r.NulFree := by
  have hroot (k : String) : Expr.const (.string k) ≠ .binary op l r := fun h => by cases h
  simp only [Expr.NulFree, part_binary, hroot, false_or, or_imp, forall_and]

lemma IsName.nulFree {name : String} (h : IsName name) : Sql.NulFree name := by
  intro hmem
  rcases h.chars _ hmem with hchar | hchar
  · exact absurd hchar (by decide +kernel)
  · cases hchar

lemma nulFree_plainText {c : Constant} :
    Sql.NulFree c.plainText ↔ (Expr.const c).NulFree := by
  rw [nulFree_const]
  cases c with
  | int64 i => exact iff_of_true (nulFree_toString i.toInt) (by simp)
  | uint64 u => exact iff_of_true (nulFree_toString u.toNat) (by simp)
  | double d => exact iff_of_true (nulFree_fixed d) (by simp)
  | string k => simp [Constant.plainText]
  | bool b => exact iff_of_true (by cases b <;> decide) (by simp)

lemma nulFree_shownBeside {shown : List Shown} : (∀ y ∈ shownBeside e x shown, y.NulFree) ↔
    ∀ y ∈ shown, y.NulFree := by
  have hnumber : Sql.NulFree "number" := by decide
  unfold shownBeside
  split
  · split
    · simp only [List.forall_mem_append, List.forall_mem_cons, Shown.nulFree_fixed, hnumber,
        true_and, and_self]
    · rfl
  · rfl

/-- Names hold no such character, so the literals of an expression hold it if its texts do. -/
lemma WellFormed.nulFree_shown_iff (h : WellFormed e) :
    (∀ y ∈ e.shown, y.NulFree) ↔ e.NulFree := by
  induction h with
  | ident named =>
    refine iff_of_true ?_ (nulFree_ident _)
    simp [Expr.shown, named.nulFree]
  | const c =>
    rw [← nulFree_plainText]
    cases c with
    | int64 i => exact iff_of_true (by simp [Expr.shown]) (nulFree_toString i.toInt)
    | uint64 u => exact iff_of_true (by simp [Expr.shown]) (nulFree_toString u.toNat)
    | double d => exact iff_of_true (by simp [Expr.shown]) (nulFree_fixed d)
    | string | bool => simp [Expr.shown, Constant.plainText]
  | select operand named ih =>
    rw [nulFree_select, ← ih, Expr.shown, List.forall_mem_append]
    simp [named.nulFree]
  | @binary l r op left right ihleft ihright =>
    rw [nulFree_binary, ← ihleft, ← ihright]
    cases op with
    | compare c =>
      rw [Expr.shown_compare, List.forall_mem_append, nulFree_shownBeside, nulFree_shownBeside]
    | connect k => rw [Expr.shown_connect, List.forall_mem_append]
    | index => rw [Expr.shown_index, List.forall_mem_append]
    | has =>
      cases r with
      | const c =>
        rw [Expr.shown_has, List.forall_mem_append, ihright, ← nulFree_plainText]
        simp
      | call | select | ident =>
        simp only [Expr.binary, Expr.shown, shownAll, Operator.ofFunction?_function,
          List.flatten_cons, List.flatten_nil, List.append_nil, List.forall_mem_append]

/-! ### Texts -/

/-- An escape neither is the character nor stands for it. -/
lemma mem_of_scanStringBody {delimiter : Char} {b : StringBody} (hdelimiter : delimiter ≠ '\x00')
    (h : scanStringBody delimiter cs = .ok b) :
    '\x00' ∈ cs ↔ '\x00' ∈ b.text ∨ '\x00' ∈ b.rest := by
  fun_induction scanStringBody delimiter cs generalizing b with
  | case1 | case2 | case3 => cases h
  | case4 e cs v hv ih =>
    obtain ⟨b, hb, rfl⟩ := map_eq_ok.mp h
    have hescape : e ≠ '\x00' ∧ v ≠ '\x00' := by
      unfold unescape? at hv
      split at hv
      case h_7 => cases hv
      all_goals cases hv; decide
    simp [StringBody.cons, ih hb, hescape.1.symm, hescape.2.symm]
  | case5 =>
    cases h
    simp [hdelimiter.symm]
  | case6 c cs hlast hescape hne ih =>
    obtain ⟨b, hb, rfl⟩ := map_eq_ok.mp h
    simp [StringBody.cons, ih hb, or_assoc]

/-- Only a string has the character, and then in its text. -/
lemma Taken.nulFree_iff (h : Taken w lexeme) :
    '\x00' ∉ w ↔ ∀ k, lexeme = .const (.string k) → Sql.NulFree k := by
  cases h with
  | @sign word _ fixed =>
    have hsigns : ∀ s ∈ signs, Sql.NulFree s.1 := by decide
    refine iff_of_true (hsigns _ fixed) ?_
    rintro k rfl
    simp [signs] at fixed
  | @string delimiter cs text n quotes body =>
    have hdelimiter : delimiter ≠ '\x00' := by
      rcases quotes with rfl | rfl <;> decide
    simp [mem_of_scanStringBody hdelimiter body, Sql.NulFree, hdelimiter.symm]
  | @number _ c numeric chars =>
    refine iff_of_true (fun hmem => ?_) ?_
    · rcases chars _ hmem with hdigit | hmark
      · cases hdigit
      · simp at hmark
    · rintro k hk
      cases hk
      cases numeric
  | @word c cs start rest =>
    have hchars : ∀ d ∈ c :: cs, isWordChar d = true :=
      List.forall_mem_cons.mpr ⟨isWordChar_of_isWordStart start, rest⟩
    refine iff_of_true (fun hmem => ?_) fun k hk => ?_
    · exact absurd (hchars _ hmem) (by decide +kernel)
    · unfold wordLexeme at hk
      split_ifs at hk <;> cases hk

lemma Spans.nulFree_iff (h : Spans cs ls) :
    '\x00' ∉ cs ↔ ∀ k, .const (.string k) ∈ ls → Sql.NulFree k := by
  induction h with
  | nil => simp
  | blank hblank rest ih =>
    rw [← ih, List.mem_cons, not_or]
    refine and_iff_right ?_
    rintro rfl
    cases hblank
  | lexeme taken rest ih =>
    rw [List.mem_append, not_or, taken.nulFree_iff, ih]
    simp only [List.mem_cons, or_imp, forall_and, eq_comm]

/-- The constants of a tree are those of its text. -/
lemma Derives.mem_iff_part (h : Derives p ls e) (c : Constant) :
    .const c ∈ ls ↔ Part (.const c) e := by
  have hroot (op : Operator) (l r : Expr) : Expr.const c ≠ .binary op l r := fun h => by cases h
  induction h with
  | ident name =>
    refine iff_of_false (by simp) fun hpart => ?_
    cases hpart
  | const c' => simp [part_const]
  | group _ ih => simp [ih]
  | primary _ ih | member _ ih | comparison _ ih | disjunction _ ih => exact ih
  | select _ name ih =>
    simp only [List.mem_append, ih, List.mem_cons, reduceCtorEq, List.not_mem_nil, or_self,
      or_false]
    refine ⟨.select name, fun hpart => ?_⟩
    cases hpart with
    | select _ inner => exact inner
  | subscript _ _ ihl ihr | compare _ _ _ ihl ihr | has _ _ ihl ihr | or _ _ ihl ihr
  | and _ _ ihl ihr => simp [part_binary, hroot, ihl, ihr]

lemma nulFree_iff_of_parse {text : String} (h : parse text = .ok e) :
    Sql.NulFree text ↔ e.NulFree := by
  obtain ⟨tokens, htokens, hderives, -⟩ := parse_eq_ok.mp h
  rw [Sql.NulFree, (spans_of_tokensFrom htokens).nulFree_iff]
  simp only [hderives.mem_iff_part]
  rfl

/-! ### Clauses -/

/-- Somewhere in the expression a key of a path holds the character. -/
def KeyedByNul (e : Expr) : Prop :=
  ∃ l p k, Part (.binary .index l (.const (.string k))) e ∧ Spells l p ∧ ¬ Sql.NulFree k

lemma KeyedByNul.whole (h : KeyedByNul x) (hpart : Part x e) : KeyedByNul e := by
  obtain ⟨l, p, k, hindex, hl, hk⟩ := h
  exact ⟨l, p, k, hindex.trans hpart, hl, hk⟩

lemma nulFree_of_checkText {s : String} (h : checkText s = .ok k) : Sql.NulFree s :=
  (needle?_eq_ok (c := .string s).mp h).1

lemma nulFree_of_term? {c : Constant} (h : c.term? = .ok t) : (Expr.const c).NulFree := by
  rw [nulFree_const]
  rintro k rfl
  obtain ⟨s, hs, -⟩ := map_eq_ok.mp h
  exact nulFree_of_checkText hs

lemma nulFree_of_needle? {c : Constant} (h : c.needle? = .ok k) : (Expr.const c).NulFree := by
  rw [nulFree_const]
  rintro s rfl
  exact nulFree_of_checkText h

lemma Spells.nulFree {path : Path} (h : Spells e path) (hkeys : ¬ KeyedByNul e) : e.NulFree := by
  induction h with
  | ident name => exact nulFree_ident name
  | select field parent ih =>
    exact nulFree_select.mpr (ih fun hnul => hkeys (hnul.whole (.select field (.self _))))
  | @index l i p s parent step ih =>
    refine nulFree_binary.mpr ⟨ih fun hnul => hkeys (hnul.whole (part_left _ _ _)), ?_⟩
    cases folds_iff.mpr ⟨s, step⟩ with
    | int64 | uint64 => simp [nulFree_const]
    | string key =>
      have hkey : Sql.NulFree key := by
        by_contra hnul
        exact hkeys ⟨l, p, key, .self _, parent, hnul⟩
      simpa [nulFree_const] using hkey

/-- All texts of a compiled expression are looked at, apart from the keys of its paths. -/
lemma Compiles.nulFree_iff (h : Compiles e t) : e.NulFree ↔ ¬ KeyedByNul e := by
  constructor
  · rintro hfree ⟨l, p, k, hindex, -, hk⟩
    exact hk (hfree k ((part_right _ _ _).trans hindex))
  · intro hkeys
    induction h with
    | path spells => exact spells.nulFree hkeys
    | const term => exact nulFree_of_term? term
    | contains left needle ih =>
      exact nulFree_binary.mpr ⟨ih fun hnul => hkeys (hnul.whole (part_left _ _ _)),
        nulFree_of_needle? needle⟩
    | subscript _ _ _ ihl ihr | compare _ _ _ ihl ihr | connect _ _ _ ihl ihr =>
      exact nulFree_binary.mpr ⟨ihl fun hnul => hkeys (hnul.whole (part_left _ _ _)),
        ihr fun hnul => hkeys (hnul.whole (part_right _ _ _))⟩

/-- The sides of a compiled operation are compiled, apart from keys and from what a containment test
looks for. -/
lemma Compiles.sides (h : Compiles (.binary op l r) t) :
    (∃ tl, Compiles l tl) ∧ ((op = .index ∧ ∃ p, Spells l p)
      ∨ (∃ c s, r = .const c ∧ c.needle? = .ok s) ∨ ∃ tr, Compiles r tr) := by
  generalize he : Expr.binary op l r = e at h
  cases h with
  | path spells =>
    cases spells with
    | ident | select => cases he
    | @index l' i p s parent step =>
      obtain ⟨rfl, rfl, rfl⟩ := binary_inj.mp he
      exact ⟨⟨_, .path parent⟩, .inl ⟨rfl, p, parent⟩⟩
  | const => cases he
  | contains left needle =>
    obtain ⟨rfl, rfl, rfl⟩ := binary_inj.mp he
    exact ⟨⟨_, left⟩, .inr (.inl ⟨_, _, rfl, needle⟩)⟩
  | subscript _ left right | compare _ left right | connect _ left right =>
    obtain ⟨rfl, rfl, rfl⟩ := binary_inj.mp he
    exact ⟨⟨_, left⟩, .inr (.inr ⟨_, right⟩)⟩

lemma nulFree_of_compiles (h : Compiles (.const (.string k)) t) : Sql.NulFree k :=
  nulFree_const.mp (nulFree_of_term? (by simpa [Expr.term?_const] using h.term?)) k rfl

lemma IsAnchor.nulFree {anchor : String} (h : IsAnchor anchor) : Sql.NulFree anchor := by
  rcases h with rfl | rfl <;> decide

/-- **Only keys take the character zero into a clause**: the text of a compiled filter holds it if
and only if the clause does, and exactly if it stands in the key of a path. Everywhere else it is a
fault: no side of an operation is a text with it, other than the key of a path. -/
theorem compile_nul_iff {anchor text sql : String} (ha : IsAnchor anchor)
    (h : compile anchor text = .ok sql) :
    ∃ e, parse text = .ok e
      ∧ (Sql.NulFree sql ↔ Sql.NulFree text) ∧ (Sql.NulFree sql ↔ ¬ KeyedByNul e)
      ∧ ∀ op l r k, Part (.binary op l r) e → ¬ Sql.NulFree k →
        l ≠ .const (.string k) ∧ (r = .const (.string k) → op = .index ∧ ∃ p, Spells l p) := by
  obtain ⟨t, hcondition, rfl⟩ := map_eq_ok.mp h
  obtain ⟨e, hparse, he⟩ := bind_eq_ok.mp hcondition
  obtain ⟨_, -, hterm⟩ := bind_eq_ok.mp he
  have hcompiles := term?_eq_ok.mp hterm
  have hsql : Sql.NulFree (t.render anchor) ↔ e.NulFree := by
    rw [t.nulFree_render_iff ha.nulFree, hcompiles.shown,
      (wellFormed_of_parse hparse).nulFree_shown_iff]
  refine ⟨e, hparse, hsql.trans (nulFree_iff_of_parse hparse).symm,
    hsql.trans hcompiles.nulFree_iff, fun op l r k hpart hk => ?_⟩
  have hpart' : ∃ t', Compiles (.binary op l r) t' := by
    rcases hcompiles.part hpart with ⟨c, hc⟩ | hpart'
    · cases hc
    · exact hpart'
  obtain ⟨t', ht'⟩ := hpart'
  obtain ⟨⟨tl, hl⟩, hr⟩ := ht'.sides
  constructor
  · rintro rfl
    exact hk (nulFree_of_compiles hl)
  · rintro rfl
    rcases hr with hindex | ⟨c, s, hc, hs⟩ | ⟨tr, hr⟩
    · exact hindex
    · cases hc
      exact absurd (nulFree_of_checkText hs) hk
    · exact absurd (nulFree_of_compiles hr) hk

/-- A text that is looked for under a key, and the key holds the character. -/
def nulKeyed : Expr :=
  .binary (.compare .eq) (.binary .index (.ident "a") (.const (.string "\x00")))
    (.const (.string "x"))

lemma parse_nulKeyed : parse "a[\"\x00\"] = \"x\"" = .ok nulKeyed := by
  have htokens : tokenize "a[\"\x00\"] = \"x\""
      = .ok [⟨.ident "a", 0⟩, ⟨.opening .square, 1⟩, ⟨.const (.string "\x00"), 2⟩,
          ⟨.closing .square, 5⟩, ⟨.compare .eq, 7⟩, ⟨.const (.string "x"), 9⟩] :=
    toOption_eq_some.mp (by decide +kernel)
  rw [parse, htokens]
  rfl

/-- The clause holds the character because the filter does. -/
theorem compile_nul_iff_nulKeyed :
    ∃ sql, compile projectAnchor "a[\"\x00\"] = \"x\"" = .ok sql ∧ ¬ Sql.NulFree sql
      ∧ KeyedByNul nulKeyed := by
  have hcompile : ∃ sql, compile projectAnchor "a[\"\x00\"] = \"x\"" = .ok sql := by
    rw [compile, condition?, parse_nulKeyed]
    exact ⟨_, rfl⟩
  obtain ⟨sql, hsql⟩ := hcompile
  obtain ⟨e, he, htext, hkeyed, -⟩ := compile_nul_iff (.inr rfl) hsql
  rw [parse_nulKeyed] at he
  cases he
  have hnul : ¬ Sql.NulFree sql := fun hfree => absurd (htext.mp hfree) (by decide)
  exact ⟨sql, hsql, hnul, not_not.mp fun hnot => hnul (hkeyed.mpr hnot)⟩

/-- A key is not looked at, and yet no statement may hold the character. -/
theorem compile_nulKeyed :
    parse "a[\"\x00\"] = \"x\"" = .ok nulKeyed
      ∧ compile payloadAnchor "a[\"\x00\"] = \"x\"" = .ok "(data->'a'->>'\x00' = 'x')"
      ∧ ¬ ∀ anchor text sql : String, IsAnchor anchor → compile anchor text = .ok sql →
        '\x00' ∉ sql.toList := by
  have hcompile : compile payloadAnchor "a[\"\x00\"] = \"x\""
      = .ok "(data->'a'->>'\x00' = 'x')" := by
    rw [compile, condition?, parse_nulKeyed]
    rfl
  exact ⟨parse_nulKeyed, hcompile, fun hall => hall _ _ _ (.inl rfl) hcompile (by decide)⟩

end Catalog.Filter
