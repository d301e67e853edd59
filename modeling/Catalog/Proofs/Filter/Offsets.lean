import Catalog.Proofs.Filter.Lexing

/-!
Where tokens stand. Each offset is the length of a part of the text that ends there, and offsets
grow from token to token. A text may be broken off behind any of its tokens: those before stay
what they are.
-/

namespace Catalog.Filter

open Catalog.Text

variable {cs : List Char} {n : ℕ} {tokens before after : List Token} {error : Error}

/-- The offset is the length of a part that the text starts with. -/
def EndsPart (n : ℕ) (cs : List Char) (offset : ℕ) : Prop :=
  ∃ part, part <+: cs ∧ offset = n + byteLength part

lemma endsPart_self (n : ℕ) (cs : List Char) : EndsPart n cs n := ⟨[], List.nil_prefix, rfl⟩

/-- What ends a part of the text behind some characters, ends a part of the whole text. -/
lemma EndsPart.behind {offset : ℕ} (w : List Char) (h : EndsPart (n + byteLength w) cs offset) :
    EndsPart n (w ++ cs) offset := by
  obtain ⟨part, hpart, rfl⟩ := h
  refine ⟨w ++ part, (List.prefix_append_right_inj w).mpr hpart, ?_⟩
  rw [byteLength_append, Nat.add_assoc]

lemma EndsPart.isValid {text : String} {offset : ℕ} (h : EndsPart 0 text.toList offset) :
    (⟨offset⟩ : String.Pos.Raw).IsValid text := by
  obtain ⟨part, ⟨rest, hrest⟩, rfl⟩ := h
  refine String.Pos.Raw.isValid_iff_exists_append.mpr
    ⟨String.ofList part, String.ofList rest, ?_, ?_⟩
  · rw [← String.ofList_append, hrest, String.ofList_toList]
  · rw [String.Pos.Raw.ext_iff, String.byteIdx_rawEndPos, utf8ByteSize_ofList, Nat.zero_add]

/-- Every token stands at a place of the text. -/
lemma endsPart_of_mem_tokens (h : tokensFrom n cs = .ok tokens) :
    ∀ t ∈ tokens, EndsPart n cs t.offset := by
  fun_induction tokensFrom n cs generalizing tokens with
  | case1 n =>
    cases h
    simp
  | case2 n c cs hblank ih =>
    intro t ht
    have hrest : EndsPart (n + byteLength [c]) cs t.offset := by simpa using ih h t ht
    exact hrest.behind [c]
  | case3 n c cs hblank fault hscan => cases h
  | case4 n c cs hblank t hscan ih =>
    obtain ⟨tokens, htokens, rfl⟩ := map_eq_ok.mp h
    obtain ⟨w, rfl, hwidth, -⟩ := isCut_of_scan hscan
    rw [List.forall_mem_cons]
    refine ⟨endsPart_self n _, fun t' ht' => ?_⟩
    have hrest := ih htokens t' ht'
    rw [hwidth] at hrest
    exact hrest.behind (c :: w)

/-- A fault in the characters stands at a place of the text. -/
lemma endsPart_of_tokens_error (h : tokensFrom n cs = .error error) :
    ∃ offset fault, error = .parse offset fault ∧ EndsPart n cs offset := by
  fun_induction tokensFrom n cs with
  | case1 n => cases h
  | case2 n c cs hblank ih =>
    obtain ⟨offset, fault, rfl, hrest⟩ := ih h
    have hrest : EndsPart (n + byteLength [c]) cs offset := by simpa using hrest
    exact ⟨offset, fault, rfl, hrest.behind [c]⟩
  | case3 n c cs hblank fault hscan =>
    cases h
    exact ⟨n, fault, rfl, endsPart_self n _⟩
  | case4 n c cs hblank t hscan ih =>
    obtain ⟨w, rfl, hwidth, -⟩ := isCut_of_scan hscan
    cases hrest : tokensFrom (n + t.width) t.rest with
    | ok tokens =>
      rw [hrest] at h
      cases h
    | error error' =>
      rw [hrest] at h
      cases h
      obtain ⟨offset, fault, rfl, hends⟩ := ih hrest
      rw [hwidth] at hends
      exact ⟨offset, fault, rfl, hends.behind (c :: w)⟩

/-- Offsets grow, up to the end of the text. -/
lemma pairwise_offsets (h : tokensFrom n cs = .ok tokens) :
    (∀ offset ∈ tokens.map Token.offset ++ [n + byteLength cs], n ≤ offset)
      ∧ (tokens.map Token.offset ++ [n + byteLength cs]).Pairwise (· < ·) := by
  fun_induction tokensFrom n cs generalizing tokens with
  | case1 n =>
    cases h
    simp
  | case2 n c cs hblank ih =>
    obtain ⟨hle, hpairwise⟩ := ih h
    rw [byteLength_cons, ← Nat.add_assoc]
    refine ⟨fun offset hoffset => ?_, hpairwise⟩
    exact Nat.le_trans (Nat.le_add_right n _) (hle offset hoffset)
  | case3 n c cs hblank fault hscan => cases h
  | case4 n c cs hblank t hscan ih =>
    obtain ⟨tokens, htokens, rfl⟩ := map_eq_ok.mp h
    obtain ⟨w, rfl, hwidth, -⟩ := isCut_of_scan hscan
    obtain ⟨hle, hpairwise⟩ := ih htokens
    have hlength : n + byteLength (c :: (w ++ t.rest)) = n + t.width + byteLength t.rest := by
      rw [← List.cons_append, byteLength_append, ← hwidth, Nat.add_assoc]
    have hlt : ∀ offset ∈ tokens.map Token.offset ++ [n + t.width + byteLength t.rest],
        n < offset := by
      intro offset hoffset
      have hstart := hle offset hoffset
      have hpos := byteLength_pos c w
      omega
    rw [hlength, List.map_cons, List.cons_append]
    exact ⟨List.forall_mem_cons.mpr
        ⟨Nat.le_refl n, fun offset hoffset => Nat.le_of_lt (hlt offset hoffset)⟩,
      List.pairwise_cons.mpr ⟨hlt, hpairwise⟩⟩

/-- The tokens that a text starts with do not change if it goes on in another way behind them,
when a blank comes first. -/
lemma tokensFrom_cut (h : tokensFrom n cs = .ok (before ++ after)) :
    ∃ part, part <+: cs ∧ ∀ rest, Detached rest →
      tokensFrom n (part ++ rest)
        = (tokensFrom (n + byteLength part) rest).map (before ++ ·) := by
  have hnone (n : ℕ) (cs : List Char) : ∃ part, part <+: cs ∧ ∀ rest, Detached rest →
      tokensFrom n (part ++ rest) = (tokensFrom (n + byteLength part) rest).map ([] ++ ·) := by
    refine ⟨[], List.nil_prefix, fun rest _ => ?_⟩
    cases hrest : tokensFrom n rest with
    | ok tokens => simp [hrest, Except.map]
    | error error => simp [hrest, Except.map]
  -- the scanner is followed token by token; `before` says how many of them are kept
  fun_induction tokensFrom n cs generalizing before with
  | case1 n =>
    cases before with
    | nil => exact hnone n []
    | cons t before => cases h
  | case2 n c cs hblank ih =>
    obtain ⟨part, hpart, hall⟩ := ih h
    refine ⟨c :: part, List.cons_prefix_cons.mpr ⟨rfl, hpart⟩, fun rest hrest => ?_⟩
    rw [List.cons_append, tokensFrom, if_pos hblank, hall rest hrest, byteLength_cons,
      Nat.add_assoc]
  | case3 n c cs hblank fault hscan => cases h
  | case4 n c cs hblank t hscan ih =>
    cases before with
    | nil => exact hnone n (c :: cs)
    | cons token before =>
      obtain ⟨tokens, htokens, heq⟩ := map_eq_ok.mp h
      obtain ⟨rfl, rfl⟩ := List.cons.inj heq
      obtain ⟨part, ⟨behind, hbehind⟩, hall⟩ := ih htokens
      obtain ⟨w, rfl, hwidth, hcut⟩ := isCut_of_scan hscan
      refine ⟨c :: w ++ part, ⟨behind, by simp [hbehind]⟩, fun rest hrest => ?_⟩
      have hscan' : scan c (w ++ (part ++ rest)) = .ok ⟨t.lexeme, t.width, part ++ rest⟩ :=
        hcut _ (hbehind ▸ hrest.goesOn part behind)
      have hlength : n + byteLength (c :: w ++ part) = n + t.width + byteLength part := by
        rw [byteLength_append, ← hwidth, Nat.add_assoc]
      calc tokensFrom n (c :: w ++ part ++ rest)
          = (tokensFrom (n + t.width) (part ++ rest)).map (⟨t.lexeme, n⟩ :: ·) := by
            rw [List.append_assoc, List.cons_append, tokensFrom_of_scan hscan']
        _ = ((tokensFrom (n + t.width + byteLength part) rest).map (before ++ ·)).map
              (⟨t.lexeme, n⟩ :: ·) := by rw [hall rest hrest]
        _ = (tokensFrom (n + byteLength (c :: w ++ part)) rest).map
              (⟨t.lexeme, n⟩ :: before ++ ·) := by
            rw [hlength]
            cases tokensFrom (n + t.width + byteLength part) rest with
            | ok tokens => rfl
            | error error => rfl

end Catalog.Filter
