import Catalog.Json.Printer
import Catalog.Proofs.Json.Denotation
import Catalog.Proofs.Json.Tokens

/-!
A value that is written on one line is read back: the text denotes the value.
-/

namespace Catalog.Json

/-! ### Strings -/

/-- Escapes are undone one character at a time. -/
lemma stringUnits_escapeChar (c : Char) (cs : List Char) : ∃ u : Unit16,
    stringUnits (escapeChar c ++ cs) = (stringUnits cs).map (fun (us, r) => (u :: us, r))
      ∧ ∀ us, spell? (u :: us) = (spell? us).map (c :: ·) := by
  unfold escapeChar
  split
  case h_8 hquote hbackslash _ _ _ _ _ =>
    split
    · rename_i hcontrol
      have hhex : hexUnit? '0' '0' (Nat.digitChar (c.toNat / 16)) (Nat.digitChar (c.toNat % 16))
          = some c.toNat := by
        generalize c.toNat = n at hcontrol
        revert n
        decide
      refine ⟨.unit c.toNat, ?_, fun us => ?_⟩
      · simp only [List.cons_append, List.nil_append]
        rw [stringUnits, hhex]
      · have hhigh : isHighSurrogate c.toNat = false := by
          simp only [isHighSurrogate, Bool.and_eq_false_iff, decide_eq_false_iff_not]
          omega
        have hlow : isLowSurrogate c.toNat = false := by
          simp only [isLowSurrogate, Bool.and_eq_false_iff, decide_eq_false_iff_not]
          omega
        rw [spell?.eq_def]
        simp only [hhigh, hlow, Char.ofNat_toNat, Bool.false_eq_true, if_false]
    · rename_i hcontrol
      refine ⟨.char c, ?_, fun us => rfl⟩
      have hplain : (decide (c.toNat < 0x20) || decide (c = '\\')) = false := by
        simp only [Bool.or_eq_false_iff, decide_eq_false_iff_not]
        exact ⟨hcontrol, hbackslash⟩
      rw [List.singleton_append, stringUnits, hplain]
      · rfl
      · exact hquote
      · intro _ _ _ _ _ h
        exact absurd h hbackslash
      · intro _ _ h
        exact absurd h hbackslash
  all_goals exact ⟨.char _, rfl, fun us => rfl⟩

lemma stringUnits_escape (cs rest : List Char) :
    ∃ us, stringUnits (cs.flatMap escapeChar ++ '"' :: rest) = some (us, rest)
      ∧ spell? us = some cs := by
  induction cs with
  | nil => exact ⟨[], rfl, rfl⟩
  | cons c cs ih =>
    obtain ⟨us, hus, hspell⟩ := ih
    obtain ⟨u, hu, hcons⟩ := stringUnits_escapeChar c (cs.flatMap escapeChar ++ '"' :: rest)
    refine ⟨u :: us, ?_, ?_⟩
    · rw [List.flatMap_cons, List.append_assoc, hu, hus]
      rfl
    · rw [hcons, hspell]
      rfl

lemma toList_quote (s : String) :
    (quote s).toList = '"' :: (s.toList.flatMap escapeChar ++ ['"']) := by
  simp [quote]

lemma spellsTokens_quote (s : String) : SpellsTokens (quote s).toList [.string (some s)] := by
  intro rest _
  obtain ⟨us, hus, hspell⟩ := stringUnits_escape s.toList rest
  have htoken : token? '"' (s.toList.flatMap escapeChar ++ '"' :: rest)
      = some (.string (some s), rest) := by
    simp only [token?, hus, Option.map_some, hspell, String.ofList_toList]
  rw [toList_quote, List.cons_append, List.append_assoc, List.singleton_append,
    tokens?_token (by decide) htoken]
  rfl

/-! ### Numbers -/

/-- The digits of a number start with a zero only if they are nothing else. -/
lemma toDigits_ne_zero_cons (n : ℕ) (c : Char) (cs : List Char) :
    Nat.toDigits 10 n ≠ '0' :: c :: cs := by
  induction n using Nat.strong_induction_on generalizing c cs with
  | _ n ih =>
    rcases lt_or_ge n 10 with hlt | hge
    · rw [Nat.toDigits_of_lt_base hlt]
      simp
    · rw [Nat.toDigits_of_base_le (by decide) hge]
      rcases hd : Nat.toDigits 10 (n / 10) with _ | ⟨d, _ | ⟨d', ds⟩⟩
      · exact absurd hd Nat.toDigits_ne_nil
      · intro h
        have hzero : Nat.toDigits 10 (n / 10) = ['0'] := by
          rw [hd, (List.cons.inj h).1]
        have hvalue := Nat.ofDigitChars_ten_toDigits (n := n / 10)
        rw [hzero] at hvalue
        have : n / 10 = 0 := hvalue.symm
        omega
      · intro h
        exact ih (n / 10) (by omega) d' ds (by rw [hd, (List.cons.inj h).1])

lemma someDigits?_append {ds rest : List Char} (hne : ds ≠ []) (hds : ∀ c ∈ ds, c.isDigit = true)
    (hrest : ∀ c ∈ rest.head?, c.isDigit = false) :
    someDigits? (ds ++ rest) = some (ds, rest) := by
  have htake : rest.takeWhile Char.isDigit = [] ∧ rest.dropWhile Char.isDigit = rest := by
    cases rest with
    | nil => exact ⟨rfl, rfl⟩
    | cons c cs =>
      have hc : c.isDigit = false := hrest c rfl
      simp [hc]
  rw [someDigits?, List.takeWhile_append_of_pos hds, List.dropWhile_append_of_pos hds, htake.1,
    htake.2, List.append_nil]
  simp [hne]

/-- Digits before something else are an integer. -/
lemma numeral?_toDigits (negative : Bool) (n : ℕ) {rest : List Char} (h : Stops rest) :
    numeral? negative (Nat.toDigits 10 n ++ rest)
      = some (⟨negative, Nat.toDigits 10 n, [], 0, true⟩, rest) := by
  have hsome : someDigits? (Nat.toDigits 10 n ++ rest) = some (Nat.toDigits 10 n, rest) := by
    refine someDigits?_append Nat.toDigits_ne_nil (fun c hc => Text.isDigit_toDigits hc) ?_
    intro c hc
    have := h c hc
    simp only [isStop, Bool.and_eq_true, Bool.not_eq_true'] at this
    exact this.1.1.1
  have hwhole : wholeDigits? (Nat.toDigits 10 n ++ rest) = some (Nat.toDigits 10 n, rest) := by
    rw [wholeDigits?, hsome]
    split
    · rename_i c cs _ heq
      exact absurd (Prod.mk.inj (Option.some.inj heq)).1 (toDigits_ne_zero_cons n _ _)
    · rfl
  have hend : fraction? rest = some ([], rest) ∧ scale? rest = some (0, rest) := by
    cases rest with
    | nil => exact ⟨rfl, rfl⟩
    | cons c cs =>
      have hc : isStop c = true := stops_cons.mp h
      simp only [isStop, ne_eq, Bool.and_eq_true, decide_eq_true_eq] at hc
      obtain ⟨⟨⟨-, hpoint⟩, he⟩, hE⟩ := hc
      refine ⟨?_, by simp [scale?, he, hE]⟩
      rw [fraction?]
      intro cs' h
      exact absurd (List.cons.inj h).1 hpoint
  simp only [numeral?, hwhole, hend.1, hend.2, Option.bind_eq_bind, Option.bind_some,
    Option.pure_def, decide_true]

/-- A character that starts a number and nothing else does. -/
lemma token?_digit {c : Char} (h : c.isDigit = true) (cs : List Char) :
    token? c cs = (numeral? false (c :: cs)).map fun (n, rest) => (.number n, rest) := by
  unfold token?
  split
  case h_12 => rfl
  all_goals exact absurd h (by decide)

lemma spellsTokens_int (i : Int) :
    SpellsTokens (toString i).toList [.number (Numeral.ofInt i)] := by
  intro rest hrest
  rcases lt_or_ge i 0 with hneg | hpos
  · have htext : (toString i).toList = '-' :: Nat.toDigits 10 i.natAbs := by
      obtain ⟨n, rfl⟩ := Int.eq_negSucc_of_lt_zero hneg
      simp [Int.toString_eq_repr, Int.repr, Nat.repr, Int.natAbs]
    have htoken : token? '-' (Nat.toDigits 10 i.natAbs ++ rest)
        = some (.number (Numeral.ofInt i), rest) := by
      simp only [token?, numeral?_toDigits true i.natAbs hrest, Option.map_some, Numeral.ofInt,
        hneg, decide_true]
    rw [htext, List.cons_append, tokens?_token (by decide) htoken]
    rfl
  · obtain ⟨n, rfl⟩ := Int.eq_ofNat_of_zero_le hpos
    obtain ⟨c, cs, hc⟩ := List.exists_cons_of_ne_nil (Nat.toDigits_ne_nil (n := n) (b := 10))
    have hdigit : c.isDigit = true := Text.isDigit_toDigits (n := n) (by simp [hc])
    have htoken : token? c (cs ++ rest) = some (.number (Numeral.ofInt n), rest) := by
      rw [token?_digit hdigit, ← List.cons_append, ← hc, numeral?_toDigits false n hrest]
      simp [Numeral.ofInt]
    have hspace : isSpace c = false := by
      by_contra hspace
      simp only [Bool.not_eq_false, isSpace, Bool.or_eq_true, decide_eq_true_eq] at hspace
      rcases hspace with ((rfl | rfl) | rfl) | rfl <;> exact absurd hdigit (by decide)
    rw [Text.toList_toString, hc, List.cons_append, tokens?_token hspace htoken]
    rfl

/-! ### Words -/

lemma spellsTokens_null : SpellsTokens (compact .null).toList [.null] := by
  intro rest _
  have htoken : token? 'n' ('u' :: 'l' :: 'l' :: rest) = some (.null, rest) := rfl
  exact tokens?_token (by decide) htoken

lemma spellsTokens_bool (b : Bool) : SpellsTokens (compact (.bool b)).toList [.bool b] := by
  intro rest _
  cases b with
  | false =>
    have htoken : token? 'f' ('a' :: 'l' :: 's' :: 'e' :: rest) = some (.bool false, rest) := rfl
    exact tokens?_token (by decide) htoken
  | true =>
    have htoken : token? 't' ('r' :: 'u' :: 'e' :: rest) = some (.bool true, rest) := rfl
    exact tokens?_token (by decide) htoken

/-! ### Arrays and objects -/

section

variable {cs ds : List Char} {s : Shape} {ts : List Token}

/-- A value before a comma or a closing bracket. -/
lemma SpellsTokens.value (h : SpellsTokens cs s.tokens) (hrest : SpellsTokens ds ts)
    (hstops : Stops ds ∧ ds ≠ []) : SpellsTokens (cs ++ ds) (s.tokens ++ ts) :=
  h.append hrest hstops.1 hstops.2

/-- A member before a comma or a closing bracket. -/
lemma SpellsTokens.member (k : String) (h : SpellsTokens cs s.tokens) (hrest : SpellsTokens ds ts)
    (hstops : Stops ds ∧ ds ≠ []) :
    SpellsTokens ((quote k).toList ++ ':' :: (cs ++ ds))
      (.string (some k) :: .colon :: (s.tokens ++ ts)) :=
  (spellsTokens_quote k).append ((h.value hrest hstops).mark (by decide) fun _ => rfl)
    (stops_cons.mpr (by decide)) (by simp)

end

/-- The shape is one for the value, and the text of the value spells its tokens. -/
def IsSpelled (s : Shape) (v : Json) : Prop := Shows s v ∧ SpellsTokens v.compact.toList s.tokens

/-- What stands behind the first item of an array. -/
lemma spellsTokens_items {pairs : List (Shape × Json)} (h : ∀ e ∈ pairs, IsSpelled e.1 e.2) :
    SpellsTokens ((compactItems (pairs.map Prod.snd)).toList ++ [']'])
        (Shape.itemTokens (pairs.map Prod.fst) ++ [.closing .square])
      ∧ Stops ((compactItems (pairs.map Prod.snd)).toList ++ [']']) := by
  induction pairs with
  | nil => exact ⟨spellsTokens_nil.mark (by decide) fun _ => rfl, stops_cons.mpr (by decide)⟩
  | cons e pairs ih =>
    obtain ⟨hspells, hstops⟩ := ih fun e' he => h e' (List.mem_cons_of_mem _ he)
    have hvalue := (h e List.mem_cons_self).2.value hspells ⟨hstops, by simp⟩
    have hcomma := hvalue.mark (c := ',') (t := .comma) (by decide) fun _ => rfl
    constructor
    · simpa [compactItems, Shape.itemTokens] using hcomma
    · simp [compactItems, isStop]

/-- What stands behind the first member of an object. -/
lemma spellsTokens_members {entries : List (String × Shape × Json)}
    (h : ∀ e ∈ entries, IsSpelled e.2.1 e.2.2) :
    SpellsTokens ((compactMembers (entries.map fun e => (e.1, e.2.2))).toList ++ ['\x7d'])
        (Shape.memberTokens (entries.map fun e => (some e.1, e.2.1)) ++ [.closing .curly])
      ∧ Stops ((compactMembers (entries.map fun e => (e.1, e.2.2))).toList ++ ['\x7d']) := by
  induction entries with
  | nil => exact ⟨spellsTokens_nil.mark (by decide) fun _ => rfl, stops_cons.mpr (by decide)⟩
  | cons e entries ih =>
    obtain ⟨hspells, hstops⟩ := ih fun e' he => h e' (List.mem_cons_of_mem _ he)
    have hmember := (h e List.mem_cons_self).2.member e.1 hspells ⟨hstops, by simp⟩
    have hcomma := hmember.mark (c := ',') (t := .comma) (by decide) fun _ => rfl
    constructor
    · simpa [compactMembers, Shape.memberTokens] using hcomma
    · simp [compactMembers, isStop]

lemma isSpelled_array {pairs : List (Shape × Json)} (h : ∀ e ∈ pairs, IsSpelled e.1 e.2) :
    IsSpelled (.array (pairs.map Prod.fst)) (.array (pairs.map Prod.snd)) := by
  refine ⟨.array pairs rfl rfl fun e he => (h e he).1, ?_⟩
  cases pairs with
  | nil => exact (spellsTokens_nil.mark (by decide) fun _ => rfl).mark (by decide) fun _ => rfl
  | cons e pairs =>
    obtain ⟨hspells, hstops⟩ := spellsTokens_items fun e' he => h e' (List.mem_cons_of_mem _ he)
    have hvalue := (h e List.mem_cons_self).2.value hspells ⟨hstops, by simp⟩
    have hopen := hvalue.mark (c := '[') (t := .opening .square) (by decide) fun _ => rfl
    simpa [compact, Shape.tokens] using hopen

lemma isSpelled_object {entries : List (String × Shape × Json)}
    (h : ∀ e ∈ entries, IsSpelled e.2.1 e.2.2) (hnames : (entries.map Prod.fst).Nodup) :
    IsSpelled (.object (entries.map fun e => (some e.1, e.2.1)))
      (.object (entries.map fun e => (e.1, e.2.2))) := by
  refine ⟨.object entries rfl (.refl _) (by simpa [Function.comp_def] using hnames)
    fun e he => (h e he).1, ?_⟩
  cases entries with
  | nil => exact (spellsTokens_nil.mark (by decide) fun _ => rfl).mark (by decide) fun _ => rfl
  | cons e entries =>
    obtain ⟨hspells, hstops⟩ := spellsTokens_members fun e' he => h e' (List.mem_cons_of_mem _ he)
    have hmember := (h e List.mem_cons_self).2.member e.1 hspells ⟨hstops, by simp⟩
    have hopen := hmember.mark (c := '\x7b') (t := .opening .curly) (by decide) fun _ => rfl
    simpa [compact, Shape.tokens] using hopen

/-! ### Values -/

/-- A choice for each value of a list. -/
lemma exists_pairs {α : Type} {p : α → Json → Prop} {vs : List Json} (h : ∀ v ∈ vs, ∃ a, p a v) :
    ∃ pairs : List (α × Json), vs = pairs.map Prod.snd ∧ ∀ e ∈ pairs, p e.1 e.2 := by
  induction vs with
  | nil => exact ⟨[], rfl, by simp⟩
  | cons v vs ih =>
    obtain ⟨a, ha⟩ := h v List.mem_cons_self
    obtain ⟨pairs, rfl, hpairs⟩ := ih fun v hv => h v (List.mem_cons_of_mem _ hv)
    exact ⟨(a, v) :: pairs, rfl, List.forall_mem_cons.mpr ⟨ha, hpairs⟩⟩

/-- A choice for the value of each member. -/
lemma exists_entries {α : Type} {p : α → Json → Prop} {ms : List (String × Json)}
    (h : ∀ m ∈ ms, ∃ a, p a m.2) :
    ∃ entries : List (String × α × Json), ms = entries.map (fun e => (e.1, e.2.2))
      ∧ ∀ e ∈ entries, p e.2.1 e.2.2 := by
  induction ms with
  | nil => exact ⟨[], rfl, by simp⟩
  | cons m ms ih =>
    obtain ⟨a, ha⟩ := h m List.mem_cons_self
    obtain ⟨entries, rfl, hentries⟩ := ih fun m hm => h m (List.mem_cons_of_mem _ hm)
    exact ⟨(m.1, a, m.2) :: entries, rfl, List.forall_mem_cons.mpr ⟨ha, hentries⟩⟩

lemma exists_isSpelled {v : Json} (h : Sound v) : ∃ s, IsSpelled s v := by
  induction h with
  | null => exact ⟨_, .null, spellsTokens_null⟩
  | bool b => exact ⟨_, .bool b, spellsTokens_bool b⟩
  | int low high => exact ⟨_, .int (Numeral.value?_ofInt low high), spellsTokens_int _⟩
  | string s => exact ⟨_, .string s, spellsTokens_quote s⟩
  | array _ ih =>
    obtain ⟨pairs, rfl, hpairs⟩ := exists_pairs ih
    exact ⟨_, isSpelled_array hpairs⟩
  | object names _ ih =>
    obtain ⟨entries, rfl, hentries⟩ := exists_entries ih
    exact ⟨_, isSpelled_object hentries (by simpa [Function.comp_def] using names)⟩

/-- **A value that is written** on one line is denoted by its text. -/
theorem denotes_compact {v : Json} (h : Sound v) : Denotes v.compact v := by
  obtain ⟨s, hshows, hspells⟩ := exists_isSpelled h
  refine ⟨s, ?_, hshows⟩
  rw [read?, hspells.tokens?_eq, Option.bind_some, Reader.run_start]

end Catalog.Json
