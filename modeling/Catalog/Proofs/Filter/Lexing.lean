import Catalog.Proofs.Filter.Scanning
import Catalog.Proofs.Text.Integer
import Catalog.Filter.Parser

/-!
The lexemes of a text are those that are written in it. What counts as writing a lexeme is said
here without the scanner; a text of written lexemes with blanks between them gives back the
lexemes, each at the place where it is written.
-/

namespace Catalog.Filter

open Catalog.Text

/-! ### How a lexeme is written -/

/-- The words that are no names. -/
def keywords : List (String × Lexeme) :=
  [("AND", .connect .and), ("OR", .connect .or), ("true", .const (.bool true)),
   ("false", .const (.bool false))]

/-- Operators and brackets. -/
def signs : List (String × Lexeme) :=
  [("=", .compare .eq), ("==", .compare .eq), ("!=", .compare .ne), ("<", .compare .lt),
   ("<=", .compare .le), (">", .compare .gt), (">=", .compare .ge), (":", .colon), (".", .dot),
   ("(", .opening .paren), (")", .closing .paren), ("[", .opening .square),
   ("]", .closing .square)]

/-- The characters stand for one character of a string between two of `delimiter`. -/
inductive WritesChar (delimiter : Char) : List Char → Char → Prop
  | plain {c : Char} (escape : c ≠ '\\') (quote : c ≠ delimiter) : WritesChar delimiter [c] c
  | escape : WritesChar delimiter ['\\', '\\'] '\\'
  | quote : WritesChar delimiter ['\\', delimiter] delimiter
  | newline : WritesChar delimiter ['\\', 'n'] '\n'
  | tab : WritesChar delimiter ['\\', 't'] '\t'
  | carriageReturn : WritesChar delimiter ['\\', 'r'] '\r'

inductive WritesText (delimiter : Char) : List Char → List Char → Prop
  | nil : WritesText delimiter [] []
  | cons {cs ds s : List Char} {c : Char} (head : WritesChar delimiter cs c)
      (rest : WritesText delimiter ds s) : WritesText delimiter (cs ++ ds) (c :: s)

/-- The characters are one of the ways to write the lexeme. -/
inductive IsWritten : List Char → Lexeme → Prop
  | ident {c : Char} {cs : List Char} (start : isAlphabetic c = true ∨ c = '_')
      (rest : ∀ d ∈ cs, isAlphanumeric d = true ∨ d = '_')
      (name : ∀ k ∈ keywords, String.ofList (c :: cs) ≠ k.1) :
      IsWritten (c :: cs) (.ident (String.ofList (c :: cs)))
  | string {delimiter : Char} {cs s : List Char} (quotes : delimiter = '"' ∨ delimiter = '\'')
      (text : WritesText delimiter cs s) :
      IsWritten (delimiter :: (cs ++ [delimiter])) (.const (.string (String.ofList s)))
  | int64 (i : Int64) : IsWritten (toString i.toInt).toList (.const (.int64 i))
  | uint64 (u : UInt64) : IsWritten ((toString u.toNat).toList ++ ['u']) (.const (.uint64 u))
  | keyword {word : String} {l : Lexeme} (fixed : (word, l) ∈ keywords) : IsWritten word.toList l
  | sign {word : String} {l : Lexeme} (fixed : (word, l) ∈ signs) : IsWritten word.toList l

variable {c delimiter : Char} {cs s w rest : List Char} {l : Lexeme}

/-- What is scanned up to the end of a text is a lexeme in front of every blank. -/
lemma isWord_of_scan {n : ℕ} (h : scan c w = .ok ⟨l, n, []⟩) : IsWord c w l := by
  obtain ⟨w', hw, rfl, hcut⟩ := isCut_of_scan h
  obtain rfl : w = w' := by simpa using hw
  exact fun rest hrest => hcut rest (.stop hrest)

lemma isDigit_of_isWordStart (h : isWordStart c = true) : c.isDigit = false := by
  cases hdigit : c.isDigit with
  | false => rfl
  | true =>
    have hrange : Ranges.contains [(0x30, 0x39)] c = true := by
      simpa [Ranges.contains, Char.isDigit, UInt32.le_iff_toNat_le] using hdigit
    have := Ranges.forall_contains (p := fun c => !isWordStart c) (by decide +kernel) hrange
    simp [h] at this

lemma scan_of_isWordStart (h : isWordStart c = true) (cs : List Char) :
    scan c cs = .ok (scanWord (c :: cs)) := by
  have hmarks : c ∉ marks := not_mem_of_all h (by decide +kernel)
  rw [scan_of_not_mem_marks hmarks, if_neg (by simp [isDigit_of_isWordStart h]), if_pos h]

lemma scan_word (hstart : isWordStart c = true) (hrest : ∀ d ∈ cs, isWordChar d = true) :
    scan c cs
      = .ok ⟨wordLexeme (String.ofList (c :: cs)), byteLength (c :: cs), []⟩ := by
  have hchars : ∀ d ∈ c :: cs, isWordChar d = true :=
    List.forall_mem_cons.mpr ⟨isWordChar_of_isWordStart hstart, hrest⟩
  rw [scan_of_isWordStart hstart, ← List.append_nil (c :: cs), scanWord_append hchars (by simp),
    List.append_nil]

lemma wordLexeme_of_forall_ne {word : String} (h : ∀ k ∈ keywords, word ≠ k.1) :
    wordLexeme word = .ident word := by
  simp only [keywords, List.forall_mem_cons] at h
  obtain ⟨hand, hor, htrue, hfalse, -⟩ := h
  rw [wordLexeme, if_neg hand, if_neg hor, if_neg htrue, if_neg hfalse]

lemma scanStringBody_of_writesChar {cs ds : List Char} {b : StringBody}
    (h : WritesChar delimiter cs c) (hquotes : delimiter = '"' ∨ delimiter = '\'')
    (hrest : scanStringBody delimiter ds = .ok b) :
    ∃ n, scanStringBody delimiter (cs ++ ds) = .ok (b.cons c n) := by
  have hpair (e : Char) (he : unescape? e = some c) :
      scanStringBody delimiter (['\\', e] ++ ds) = .ok (b.cons c 2) := by
    simp only [List.cons_append, List.nil_append, scanStringBody, he, hrest, Except.map]
  cases h with
  | plain hescape hquote =>
    refine ⟨c.utf8Size, ?_⟩
    rw [List.singleton_append, scanStringBody_cons hescape, if_neg hquote, hrest]
    rfl
  | quote =>
    rcases hquotes with rfl | rfl
    · exact ⟨2, hpair _ rfl⟩
    · exact ⟨2, hpair _ rfl⟩
  | escape | newline | tab | carriageReturn => exact ⟨2, hpair _ rfl⟩

lemma scanStringBody_of_writesText (h : WritesText delimiter cs s)
    (hquotes : delimiter = '"' ∨ delimiter = '\'') :
    ∃ n, scanStringBody delimiter (cs ++ [delimiter]) = .ok ⟨s, n, []⟩ := by
  induction h with
  | nil =>
    have hescape : delimiter ≠ '\\' := by
      rintro rfl
      simp at hquotes
    refine ⟨1, ?_⟩
    rw [List.nil_append, scanStringBody_cons hescape, if_pos rfl]
  | cons head rest ih =>
    obtain ⟨n, hn⟩ := ih
    obtain ⟨m, hm⟩ := scanStringBody_of_writesChar head hquotes hn
    exact ⟨m + n, by rw [List.append_assoc, hm, StringBody.cons]⟩

lemma scanNumberBody_digits (hcs : ∀ c ∈ cs, c.isDigit = true)
    (hrest : ∀ c ∈ rest.head?, EndsNumber c) (afterMark : Bool) :
    scanNumberBody false afterMark (cs ++ rest) = ⟨cs, false, rest⟩ := by
  induction cs generalizing afterMark with
  | nil => exact scanNumberBody_stop hrest _ _
  | cons c cs ih =>
    obtain ⟨hc, hcs⟩ := List.forall_mem_cons.mp hcs
    have hmark : isScaleMark c = false := by
      cases hmark : isScaleMark c with
      | false => rfl
      | true =>
        simp only [isScaleMark, Bool.or_eq_true, decide_eq_true_iff] at hmark
        rcases hmark with rfl | rfl <;> cases hc
    have hpoint : c ≠ '.' := by
      rintro rfl
      cases hc
    simp only [List.cons_append, scanNumberBody, hc, hmark, hpoint, Bool.true_or, if_true,
      decide_false, Bool.false_and, Bool.or_self, ih hcs]

lemma scan_of_isDigit (h : c.isDigit = true) (cs : List Char) :
    scan c cs = scanNumber [] (c :: cs) := by
  have hmarks : c ∉ marks := not_mem_of_all h (by decide)
  rw [scan_of_not_mem_marks hmarks, if_pos h]

lemma scanNumber_int64 {sign ds : List Char} {i : Int64} (hne : ds ≠ [])
    (hds : ∀ c ∈ ds, c.isDigit = true)
    (hvalue : readWord? 64 (String.ofList (sign ++ ds)) = some i.toInt) :
    scanNumber sign ds = .ok ⟨.const (.int64 i), byteLength (sign ++ ds), []⟩ := by
  have hbody : scanNumberBody false false (ds ++ []) = ⟨ds, false, []⟩ :=
    scanNumberBody_digits hds (by simp) false
  have hnumeral := NumberScan.int64 (b := ⟨ds, false, []⟩) rfl (by simp) hvalue
  rw [Int64.ofInt_toInt] at hnumeral
  rw [List.append_nil] at hbody
  rw [scanNumber_eq_ok, hbody]
  exact ⟨hne, hnumeral⟩

lemma scanNumber_uint64 {ds : List Char} {u : UInt64} (hne : ds ≠ [])
    (hds : ∀ c ∈ ds, c.isDigit = true)
    (hvalue : readUnsigned? (maxUnsigned 64) (String.ofList ds) = some u.toNat) :
    scanNumber [] (ds ++ ['u']) = .ok ⟨.const (.uint64 u), byteLength ds + 1, []⟩ := by
  have hbody : scanNumberBody false false (ds ++ ['u']) = ⟨ds, false, ['u']⟩ :=
    scanNumberBody_digits hds (by simpa using endsNumber_suffix) false
  have hnumeral : NumberScan [] ⟨ds, false, ['u']⟩ _ := .uint64 rfl rfl hvalue
  rw [UInt64.ofNat_toNat] at hnumeral
  rw [scanNumber_eq_ok, hbody]
  exact ⟨hne, hnumeral⟩

lemma scan_int64 {i : Int64} (h : (toString i.toInt).toList = c :: cs) :
    ∃ n, scan c cs = .ok ⟨.const (.int64 i), n, []⟩ := by
  have hvalue : readWord? 64 (String.ofList (c :: cs)) = some i.toInt := by
    rw [← h, String.ofList_toList]
    exact readWord?_toInt i
  cases hi : i.toInt with
  | ofNat n =>
    have hcs : Nat.toDigits 10 n = c :: cs := by
      rw [← toList_toString, ← h, hi]
      rfl
    have hdigits : ∀ d ∈ c :: cs, d.isDigit = true := fun d hd => isDigit_toDigits (hcs ▸ hd)
    have hscan : scanNumber [] (c :: cs) = _ :=
      scanNumber_int64 (List.cons_ne_nil c cs) hdigits hvalue
    exact ⟨_, (scan_of_isDigit (hdigits c List.mem_cons_self) cs).trans hscan⟩
  | negSucc n =>
    rw [hi, toList_toString_negSucc] at h
    obtain ⟨rfl, rfl⟩ := List.cons.inj h
    have hscan : scanNumber ['-'] (Nat.toDigits 10 (n + 1)) = _ :=
      scanNumber_int64 Nat.toDigits_ne_nil (fun d hd => isDigit_toDigits hd) hvalue
    exact ⟨_, hscan⟩

lemma scan_uint64 {u : UInt64} (h : (toString u.toNat).toList ++ ['u'] = c :: cs) :
    ∃ n, scan c cs = .ok ⟨.const (.uint64 u), n, []⟩ := by
  have hlist : (toString u.toNat).toList = Nat.toDigits 10 u.toNat := by
    simp [Nat.repr]
  rw [hlist] at h
  have hdigits : ∀ d ∈ Nat.toDigits 10 u.toNat, d.isDigit = true := fun d hd => isDigit_toDigits hd
  have hvalue : readUnsigned? (maxUnsigned 64) (String.ofList (Nat.toDigits 10 u.toNat))
      = some u.toNat := by
    rw [← hlist, String.ofList_toList]
    exact readUnsigned?_toString (Nat.le_pred_of_lt u.toNat_lt)
  have hscan := scanNumber_uint64 Nat.toDigits_ne_nil hdigits hvalue
  have hc : c.isDigit = true := by
    obtain ⟨d, ds, hds⟩ := List.exists_cons_of_ne_nil (Nat.toDigits_ne_nil (b := 10) (n := u.toNat))
    rw [hds, List.cons_append] at h
    rw [← (List.cons.inj h).1]
    exact hdigits d (hds ▸ List.mem_cons_self)
  exact ⟨_, (scan_of_isDigit hc cs).trans (h ▸ hscan)⟩

/-- A written lexeme is one in front of every blank. -/
theorem IsWritten.isWord (h : IsWritten w l) : ∃ c cs, w = c :: cs ∧ IsWord c cs l := by
  have hscan {c : Char} {cs : List Char} (h : ∃ n, scan c cs = .ok ⟨l, n, []⟩) :
      ∃ c' cs', c :: cs = c' :: cs' ∧ IsWord c' cs' l := by
    obtain ⟨n, hn⟩ := h
    exact ⟨c, cs, rfl, isWord_of_scan hn⟩
  cases h with
  | @ident c cs start rest name =>
    have hstart : isWordStart c = true := by simpa [isWordStart] using start
    have hrest : ∀ d ∈ cs, isWordChar d = true := fun d hd => by
      simpa [isWordChar] using rest d hd
    have hword := scan_word hstart hrest
    rw [wordLexeme_of_forall_ne name] at hword
    exact hscan ⟨_, hword⟩
  | string quotes text =>
    obtain ⟨n, hn⟩ := scanStringBody_of_writesText text quotes
    refine hscan ⟨n + 1, ?_⟩
    rcases quotes with rfl | rfl
    · simp only [scan, scanString, hn, Except.map]
    · simp only [scan, scanString, hn, Except.map]
  | int64 i =>
    obtain ⟨c, cs, hcs⟩ := List.exists_cons_of_ne_nil (toString_ne_nil i.toInt)
    rw [hcs]
    exact hscan (scan_int64 hcs)
  | uint64 u =>
    obtain ⟨c, cs, hcs⟩ := List.exists_cons_of_ne_nil
      (List.append_ne_nil_of_right_ne_nil (toString u.toNat).toList (List.cons_ne_nil 'u' []))
    rw [hcs]
    exact hscan (scan_uint64 hcs)
  | @keyword word l fixed =>
    simp only [keywords, List.mem_cons, Prod.mk.injEq, List.not_mem_nil, or_false] at fixed
    rcases fixed with ⟨rfl, rfl⟩ | ⟨rfl, rfl⟩ | ⟨rfl, rfl⟩ | ⟨rfl, rfl⟩
    all_goals exact ⟨_, _, rfl, isWord_of_scan
      (scan_word (by decide +kernel) (List.all_eq_true.mp (by decide +kernel)))⟩
  | @sign word l fixed =>
    simp only [signs, List.mem_cons, Prod.mk.injEq, List.not_mem_nil, or_false] at fixed
    rcases fixed with ⟨rfl, rfl⟩ | ⟨rfl, rfl⟩ | ⟨rfl, rfl⟩ | ⟨rfl, rfl⟩ | ⟨rfl, rfl⟩ | ⟨rfl, rfl⟩
      | ⟨rfl, rfl⟩ | ⟨rfl, rfl⟩ | ⟨rfl, rfl⟩ | ⟨rfl, rfl⟩ | ⟨rfl, rfl⟩ | ⟨rfl, rfl⟩ | ⟨rfl, rfl⟩
    all_goals exact ⟨_, _, rfl, isWord_of_scan rfl⟩

/-! ### Texts of written lexemes -/

/-- A written lexeme and the blanks behind it. -/
structure Word where
  lexeme : Lexeme
  text : List Char
  gap : List Char
  written : IsWritten text lexeme
  blank : ∀ c ∈ gap, isBlank c = true

def Word.chars (w : Word) : List Char := w.text ++ w.gap

/-- The words one after the other, behind the blanks that lead. -/
def spread (lead : List Char) (words : List Word) : String :=
  String.ofList (lead ++ words.flatMap Word.chars)

/-- The tokens of the words if the first one stands at the offset. -/
def placed (offset : ℕ) : List Word → List Token
  | [] => []
  | w :: ws => ⟨w.lexeme, offset⟩ :: placed (offset + byteLength w.chars) ws

variable {words : List Word} {gap lead : List Char} {n : ℕ}

lemma placed_eq_mapIdx (n : ℕ) (words : List Word) :
    placed n words = words.mapIdx fun i w =>
      ⟨w.lexeme, n + byteLength ((words.take i).flatMap Word.chars)⟩ := by
  induction words generalizing n with
  | nil => rfl
  | cons w ws ih =>
    rw [placed, ih, List.mapIdx_cons]
    simp [Nat.add_assoc]

lemma forall_isBlank_space : ∀ c ∈ [' '], isBlank c = true := List.all_eq_true.mp (by decide)

lemma detached_of_forall_isBlank (h : ∀ c ∈ gap, isBlank c = true) : Detached gap :=
  fun c hc => h c (List.mem_of_mem_head? hc)

lemma tokensFrom_blanks (h : ∀ c ∈ gap, isBlank c = true) (n : ℕ) (cs : List Char) :
    tokensFrom n (gap ++ cs) = tokensFrom (n + byteLength gap) cs := by
  induction gap generalizing n with
  | nil => rfl
  | cons c gap ih =>
    obtain ⟨hc, hgap⟩ := List.forall_mem_cons.mp h
    rw [List.cons_append, tokensFrom, if_pos hc, ih hgap, byteLength_cons, Nat.add_assoc]

/-- A scanned lexeme is the first token, and the others stand behind it. -/
lemma tokensFrom_of_scan {t : Scan} (h : scan c cs = .ok t) (n : ℕ) :
    tokensFrom n (c :: cs) = (tokensFrom (n + t.width) t.rest).map (⟨t.lexeme, n⟩ :: ·) := by
  rw [tokensFrom, if_neg (by simp [isBlank_of_scan h])]
  split
  · rename_i fault hfault
    rw [h] at hfault
    cases hfault
  · rename_i t' ht'
    rw [h] at ht'
    cases ht'
    rfl

lemma tokensFrom_word (h : IsWord c w l) (hrest : Detached rest) (n : ℕ) :
    tokensFrom n (c :: w ++ rest)
      = (tokensFrom (n + byteLength (c :: w)) rest).map (⟨l, n⟩ :: ·) :=
  tokensFrom_of_scan (h rest hrest) n

lemma tokensFrom_words (apart : ∀ w ∈ words.dropLast, w.gap ≠ []) (n : ℕ) :
    tokensFrom n (words.flatMap Word.chars) = .ok (placed n words) := by
  induction words generalizing n with
  | nil => simp [tokensFrom, placed]
  | cons word words ih =>
    obtain ⟨c, cs, hchars, hword⟩ := word.written.isWord
    have hbehind : Detached (word.gap ++ words.flatMap Word.chars) := by
      cases words with
      | nil => simpa using detached_of_forall_isBlank word.blank
      | cons next words =>
        exact (detached_of_forall_isBlank word.blank).append (apart word (by simp)) _
    have hapart : ∀ w ∈ words.dropLast, w.gap ≠ [] := by
      cases words with
      | nil => simp
      | cons next words => exact fun w hw => apart w (List.mem_cons_of_mem word hw)
    have hlength : byteLength word.chars = byteLength (c :: cs) + byteLength word.gap := by
      rw [Word.chars, hchars, byteLength_append]
    calc tokensFrom n ((word :: words).flatMap Word.chars)
        = tokensFrom n (c :: cs ++ (word.gap ++ words.flatMap Word.chars)) := by
          rw [List.flatMap_cons, Word.chars, hchars, List.append_assoc]
      _ = (tokensFrom (n + byteLength (c :: cs)) (word.gap ++ words.flatMap Word.chars)).map
            (⟨word.lexeme, n⟩ :: ·) := tokensFrom_word hword hbehind n
      _ = .ok (⟨word.lexeme, n⟩ :: placed (n + byteLength word.chars) words) := by
          rw [tokensFrom_blanks word.blank, ih hapart, hlength, Nat.add_assoc]
          rfl

lemma tokenize_spread_placed (hlead : ∀ c ∈ lead, isBlank c = true)
    (apart : ∀ w ∈ words.dropLast, w.gap ≠ []) :
    tokenize (spread lead words) = .ok (placed (byteLength lead) words) := by
  rw [tokenize, spread, String.toList_ofList, tokensFrom_blanks hlead, tokensFrom_words apart,
    Nat.zero_add]

/-- **Written lexemes are read back**: a text that writes lexemes one after the other, with blanks
before, between and behind them, has exactly these tokens. Each stands at the byte where it is
written, and the text ends for the parser behind its last byte. -/
theorem tokenize_spread {lead : List Char} {words : List Word}
    (hlead : ∀ c ∈ lead, isBlank c = true) (apart : ∀ w ∈ words.dropLast, w.gap ≠ []) :
    ∃ tokens, tokenize (spread lead words) = .ok tokens
      ∧ tokens = (words.mapIdx fun i w =>
          ⟨w.lexeme, (spread lead (words.take i)).utf8ByteSize⟩)
      ∧ parse (spread lead words)
        = State.start.run (spread lead words).utf8ByteSize tokens := by
  refine ⟨_, tokenize_spread_placed hlead apart, ?_, ?_⟩
  · simp only [placed_eq_mapIdx, spread, utf8ByteSize_ofList, byteLength_append]
  · rw [parse, tokenize_spread_placed hlead apart]
    rfl

/-- A name, a string with an escaped quote, and the ends of both ranges of integers. -/
def extremes : List Word :=
  [{ lexeme := .ident "né_1", text := ['n', 'é', '_', '1'], gap := ['\u2003']
     written := .ident (by decide +kernel)
       (by simp only [List.forall_mem_cons, List.not_mem_nil, false_imp_iff, implies_true, and_true]
           decide +kernel)
       (by decide +kernel)
     blank := List.all_eq_true.mp (by decide) },
   { lexeme := .compare .eq, text := ['=', '='], gap := [' ', '\n']
     written := .sign (show ("==", Lexeme.compare .eq) ∈ signs by decide)
     blank := List.all_eq_true.mp (by decide) },
   { lexeme := .const (.string "'\n"), text := ['\'', '\\', '\'', '\n', '\''], gap := ['\t']
     written := .string (.inr rfl)
       (show WritesText '\'' ['\\', '\'', '\n'] ['\'', '\n'] from
         .cons .quote (.cons (.plain (by decide) (by decide)) .nil))
     blank := List.all_eq_true.mp (by decide) },
   { lexeme := .const (.int64 Int64.minValue), text := "-9223372036854775808".toList, gap := [' ']
     written := .int64 Int64.minValue
     blank := forall_isBlank_space },
   { lexeme := .const (.uint64 18446744073709551615), text := "18446744073709551615u".toList
     gap := []
     written := .uint64 18446744073709551615
     blank := List.all_eq_true.mp (by decide) }]

/-- Some characters take more than one byte, and the tokens stand where their bytes do. -/
theorem tokenize_spread_extremes :
    tokenize " né_1\u2003== \n'\\'\n'\t-9223372036854775808 18446744073709551615u"
      = .ok [⟨.ident "né_1", 1⟩, ⟨.compare .eq, 9⟩, ⟨.const (.string "'\n"), 13⟩,
          ⟨.const (.int64 Int64.minValue), 19⟩, ⟨.const (.uint64 18446744073709551615), 40⟩] := by
  have happart : ∀ w ∈ extremes.dropLast, w.gap ≠ [] := by decide
  obtain ⟨tokens, htokens, rfl, -⟩ := tokenize_spread forall_isBlank_space happart
  exact htokens

end Catalog.Filter
