import Mathlib.Data.Int.Notation
import Catalog.Proofs.Except
import Catalog.Proofs.Text.Class
import Catalog.Filter.Token.Scan

/-!
What one lexeme takes from a text. A lexeme is scanned with a look at what follows it; where that is
a blank or nothing, the lexeme is always the same, whatever stands there.
-/

namespace Catalog.Filter

open Catalog.Number Catalog.Text

variable {c delimiter : Char} {cs w rest : List Char} {l : Lexeme} {t : Scan}

/-! ### Lengths -/

lemma foldl_utf8Size (cs : List Char) (n : ℕ) :
    cs.foldl (fun n c => n + c.utf8Size) n = n + byteLength cs := by
  induction cs generalizing n with
  | nil => rfl
  | cons c cs ih =>
    rw [byteLength, List.foldl_cons, List.foldl_cons, ih, ih]
    omega

@[simp] lemma byteLength_nil : byteLength [] = 0 := rfl

@[simp] lemma byteLength_cons (c : Char) (cs : List Char) :
    byteLength (c :: cs) = c.utf8Size + byteLength cs := by
  rw [byteLength, List.foldl_cons, foldl_utf8Size, Nat.zero_add]

@[simp] lemma byteLength_append (cs ds : List Char) :
    byteLength (cs ++ ds) = byteLength cs + byteLength ds := by
  rw [byteLength, List.foldl_append, foldl_utf8Size]
  rfl

lemma byteLength_pos (c : Char) (w : List Char) : 0 < byteLength (c :: w) := by
  rw [byteLength_cons]
  have := c.utf8Size_pos
  omega

/-- The bytes of a text are those of its characters. -/
lemma utf8ByteSize_ofList (cs : List Char) : (String.ofList cs).utf8ByteSize = byteLength cs := by
  induction cs with
  | nil => rfl
  | cons c cs ih =>
    rw [String.ofList_cons, String.utf8ByteSize_append, String.utf8ByteSize_singleton, ih,
      byteLength_cons]

/-! ### What may follow -/

/-- Nothing stands here, or a blank. -/
def Detached (cs : List Char) : Prop := ∀ c ∈ cs.head?, isBlank c = true

lemma Detached.append (h : Detached w) (hne : w ≠ []) (rest : List Char) :
    Detached (w ++ rest) := by
  cases w with
  | nil => exact absurd rfl hne
  | cons c cs => exact h

/-- The second text goes on as the first one does, until it ends or a blank comes. -/
inductive GoesOn : List Char → List Char → Prop
  | stop {cs ds : List Char} (detached : Detached ds) : GoesOn cs ds
  | same {cs ds : List Char} (c : Char) (rest : GoesOn cs ds) : GoesOn (c :: cs) (c :: ds)

lemma Detached.goesOn (h : Detached rest) (cs behind : List Char) :
    GoesOn (cs ++ behind) (cs ++ rest) := by
  induction cs with
  | nil => exact .stop h
  | cons c cs ih => exact .same c ih

/-- What holds of every blank and of what the first text starts with, holds of what the second one
starts with. -/
lemma GoesOn.head? {p : Char → Prop} (h : GoesOn cs rest) (hblank : ∀ c, isBlank c = true → p c)
    (hcs : ∀ c ∈ cs.head?, p c) : ∀ c ∈ rest.head?, p c := by
  cases h with
  | stop detached => exact fun c hc => hblank c (detached c hc)
  | same c rest => exact hcs

/-- The text is a lexeme, wherever nothing touches it from behind. -/
def IsWord (c : Char) (w : List Char) (l : Lexeme) : Prop :=
  ∀ rest, Detached rest → scan c (w ++ rest) = .ok ⟨l, byteLength (c :: w), rest⟩

/-- From the text behind its first character a lexeme takes a part, and takes the same part if the
text behind it is broken off. -/
def IsCut (c : Char) (cs : List Char) (t : Scan) : Prop :=
  ∃ w, cs = w ++ t.rest ∧ t.width = byteLength (c :: w)
    ∧ ∀ rest, GoesOn t.rest rest → scan c (w ++ rest) = .ok ⟨t.lexeme, t.width, rest⟩

/-! ### Words -/

lemma isWordChar_of_isBlank (h : isBlank c = true) : isWordChar c = false := by
  have hline : c ≠ '_' := by
    rintro rfl
    exact absurd h (by decide)
  simp [isWordChar, not_isAlphanumeric_of_isBlank h, hline]

lemma isWordChar_of_isWordStart (h : isWordStart c = true) : isWordChar c = true := by
  simp only [isWordStart, isWordChar, isAlphanumeric, Bool.or_eq_true] at h ⊢
  exact h.imp_left .inl

/-- A word ends where no character of a word follows. -/
lemma scanWord_append (hw : ∀ c ∈ w, isWordChar c = true)
    (hrest : ∀ c ∈ rest.head?, isWordChar c = false) :
    scanWord (w ++ rest) = ⟨wordLexeme (String.ofList w), byteLength w, rest⟩ := by
  have hstop : rest.takeWhile isWordChar = [] ∧ rest.dropWhile isWordChar = rest := by
    cases rest with
    | nil => exact ⟨rfl, rfl⟩
    | cons c cs =>
      have hc : isWordChar c = false := hrest c rfl
      simp [hc]
  rw [scanWord, List.takeWhile_append_of_pos hw, List.dropWhile_append_of_pos hw, hstop.1, hstop.2,
    List.append_nil]

/-! ### Strings -/

lemma scanStringBody_cons (hc : c ≠ '\\') (cs : List Char) :
    scanStringBody delimiter (c :: cs) =
      if c = delimiter then .ok ⟨[], 1, cs⟩
      else (scanStringBody delimiter cs).map (.cons c c.utf8Size) := by
  rw [scanStringBody]
  · rintro rfl
    exact fun _ => hc rfl
  · rintro _ _ rfl
    exact fun _ => hc rfl

lemma utf8Size_of_unescape? {e v : Char} (h : unescape? e = some v) : e.utf8Size = 1 := by
  unfold unescape? at h
  split at h
  case h_7 => cases h
  all_goals rfl

/-- A string ends at its closing quote, so nothing behind it matters. -/
lemma scanStringBody_cut {b : StringBody} (h : scanStringBody delimiter cs = .ok b)
    (hsize : delimiter.utf8Size = 1) :
    ∃ w, cs = w ++ b.rest ∧ b.width = byteLength w
      ∧ ∀ rest, scanStringBody delimiter (w ++ rest) = .ok ⟨b.text, b.width, rest⟩ := by
  fun_induction scanStringBody delimiter cs generalizing b with
  | case1 | case2 | case3 => cases h
  | case4 e cs v hv ih =>
    obtain ⟨b, hb, rfl⟩ := map_eq_ok.mp h
    obtain ⟨w, rfl, hwidth, hall⟩ := ih hb
    refine ⟨'\\' :: e :: w, rfl, ?_, fun rest => ?_⟩
    · have he : e.utf8Size = 1 := utf8Size_of_unescape? hv
      have hbackslash : '\\'.utf8Size = 1 := rfl
      simp only [StringBody.cons, hwidth, byteLength_cons, he, hbackslash]
      omega
    · simp only [List.cons_append, scanStringBody, hv, hall, Except.map, StringBody.cons]
  | case5 cs hlast hescape =>
    cases h
    have hbackslash : delimiter ≠ '\\' := by
      rintro rfl
      cases cs with
      | nil => exact hlast rfl rfl
      | cons e cs => exact hescape e cs rfl rfl
    refine ⟨[delimiter], rfl, by simp [hsize], fun rest => ?_⟩
    rw [List.singleton_append, scanStringBody_cons hbackslash, if_pos rfl]
  | case6 c cs hlast hescape hne ih =>
    obtain ⟨b, hb, rfl⟩ := map_eq_ok.mp h
    obtain ⟨w, rfl, hwidth, hall⟩ := ih hb
    have hbackslash : c ≠ '\\' := by
      rintro rfl
      cases hcs : w ++ b.rest with
      | nil => exact hlast rfl hcs
      | cons e cs => exact hescape e cs rfl hcs
    refine ⟨c :: w, rfl, by simp [StringBody.cons, hwidth], fun rest => ?_⟩
    rw [List.cons_append, scanStringBody_cons hbackslash, if_neg hne, hall]
    rfl

/-! ### Numbers -/

/-- The character is no part of a number, whatever stands before it. -/
def EndsNumber (c : Char) : Prop :=
  c.isDigit = false ∧ isScaleMark c = false ∧ c ∉ ['.', '+', '-']

lemma endsNumber_of_isBlank (h : isBlank c = true) : EndsNumber c := by
  refine ⟨?_, ?_, not_mem_of_all h (by decide)⟩
  · cases hdigit : c.isDigit with
    | false => rfl
    | true => rw [isBlank_of_isDigit hdigit] at h; cases h
  · have hmark : c ∉ ['e', 'E'] := not_mem_of_all h (by decide)
    simpa [isScaleMark] using hmark

lemma scanNumberBody_stop (h : ∀ c ∈ rest.head?, EndsNumber c) (isDouble afterMark : Bool) :
    scanNumberBody isDouble afterMark rest = ⟨[], isDouble, rest⟩ := by
  cases rest with
  | nil => rfl
  | cons c cs =>
    obtain ⟨hdigit, hmark, hmem⟩ := h c rfl
    have hpoint : c ≠ '.' ∧ c ≠ '+' ∧ c ≠ '-' := by simpa using hmem
    simp [scanNumberBody, hdigit, hmark, hpoint]

lemma any_isDigit_eq_false (cs : List Char) :
    cs.head?.any Char.isDigit = false ↔ ∀ c ∈ cs.head?, c.isDigit = false := by
  cases cs <;> simp

lemma GoesOn.any_isDigit (h : GoesOn cs rest) (hcs : cs.head?.any Char.isDigit = false) :
    rest.head?.any Char.isDigit = false := by
  rw [any_isDigit_eq_false] at hcs ⊢
  exact h.head? (fun c hc => (endsNumber_of_isBlank hc).1) hcs

/-- A number takes the digit that comes next, so a digit comes next in what it takes if and only if
one comes next in the text. -/
lemma head?_scanNumberBody (isDouble afterMark : Bool) (cs : List Char)
    (hrest : GoesOn (scanNumberBody isDouble afterMark cs).rest rest) :
    ((scanNumberBody isDouble afterMark cs).text ++ rest).head?.any Char.isDigit
      = cs.head?.any Char.isDigit := by
  cases cs with
  | nil => exact hrest.any_isDigit rfl
  | cons c cs =>
    simp only [scanNumberBody] at hrest ⊢
    split
    · rfl
    · rename_i hstops
      rw [if_neg hstops] at hrest
      have hdigit : (c :: cs).head?.any Char.isDigit = false := by
        simp only [Bool.or_eq_true, not_or] at hstops
        simpa using hstops.1.1.1
      exact (hrest.any_isDigit hdigit).trans hdigit.symm

/-- The text of a number is the same number if what follows it is broken off. -/
lemma scanNumberBody_cut (isDouble afterMark : Bool) (cs : List Char)
    (hrest : GoesOn (scanNumberBody isDouble afterMark cs).rest rest) :
    scanNumberBody isDouble afterMark ((scanNumberBody isDouble afterMark cs).text ++ rest) =
      { scanNumberBody isDouble afterMark cs with rest := rest } := by
  have hstop {rest : List Char} (h : Detached rest) (isDouble afterMark : Bool) :
      scanNumberBody isDouble afterMark rest = ⟨[], isDouble, rest⟩ :=
    scanNumberBody_stop (fun c hc => endsNumber_of_isBlank (h c hc)) _ _
  fun_induction scanNumberBody isDouble afterMark cs with
  | case1 =>
    cases hrest with
    | stop detached => exact hstop detached _ _
  | case2 isDouble afterMark c cs point sign htaken b ih =>
    -- a point looks one character ahead, and sees a digit in both texts or in none
    have hhead : (b.text ++ rest).head?.any Char.isDigit = cs.head?.any Char.isDigit :=
      head?_scanNumberBody _ _ cs hrest
    simp only [List.cons_append, scanNumberBody, hhead]
    rw [if_pos htaken, ih hrest]
  | case3 isDouble afterMark c cs point sign hstops =>
    cases hrest with
    | stop detached => exact hstop detached _ _
    | @same _ ds _ hrest =>
      -- the number stops at `c`; behind it a text that breaks off has no digit that was not there
      have hpoint : (decide (c = '.') && !isDouble && ds.head?.any Char.isDigit) = true →
          point = true := by
        intro h
        cases hcs : cs.head?.any Char.isDigit with
        | false =>
          rw [hrest.any_isDigit hcs, Bool.and_false] at h
          cases h
        | true =>
          rw [Bool.and_eq_true] at h
          exact Bool.and_eq_true_iff.mpr ⟨h.1, hcs⟩
      have hstops' : ¬ (c.isDigit || (decide (c = '.') && !isDouble && ds.head?.any Char.isDigit)
          || sign || isScaleMark c) = true := by
        simp only [Bool.or_eq_true] at hstops ⊢
        exact fun h => hstops (h.imp_left (Or.imp_left (Or.imp_right hpoint)))
      simp only [List.nil_append, scanNumberBody]
      rw [if_neg hstops']

lemma endsNumber_suffix : EndsNumber 'u' := by
  refine ⟨by decide, by decide, by decide⟩

/-- The lexemes that the text of a number gives. -/
inductive NumberScan (sign : List Char) (b : NumberBody) : Scan → Prop
  | double {d : Double} (isDouble : b.isDouble = true)
      (value : readDouble? (sign ++ b.text) = some d) :
      NumberScan sign b ⟨.const (.double d), byteLength (sign ++ b.text), b.rest⟩
  | uint64 {n : ℕ} {rest : List Char} (isInteger : b.isDouble = false)
      (suffix : b.rest = 'u' :: rest)
      (value : readUnsigned? (maxUnsigned 64) (String.ofList (sign ++ b.text)) = some n) :
      NumberScan sign b
        ⟨.const (.uint64 (UInt64.ofNat n)), byteLength (sign ++ b.text) + 1, rest⟩
  | int64 {i : ℤ} (isInteger : b.isDouble = false) (bare : ∀ c ∈ b.rest.head?, c ≠ 'u')
      (value : readWord? 64 (String.ofList (sign ++ b.text)) = some i) :
      NumberScan sign b ⟨.const (.int64 (Int64.ofInt i)), byteLength (sign ++ b.text), b.rest⟩

lemma scanNumber_eq_ok {sign : List Char} : scanNumber sign cs = .ok t ↔
    (scanNumberBody false false cs).text ≠ []
      ∧ NumberScan sign (scanNumberBody false false cs) t := by
  unfold scanNumber
  generalize scanNumberBody false false cs = b
  obtain ⟨text, isDouble, behind⟩ := b
  constructor
  · intro h
    simp only at h
    split at h
    · cases h
    rename_i hempty
    refine ⟨by simpa using hempty, ?_⟩
    cases isDouble with
    | true =>
      simp only [if_true] at h
      split at h
      · cases h
        exact .double rfl (by assumption)
      · cases h
    | false =>
      simp only [Bool.false_eq_true, if_false] at h
      split at h
      · split at h
        · cases h
          exact .uint64 rfl rfl (by assumption)
        · cases h
      · rename_i hbare
        split at h
        · cases h
          refine .int64 rfl ?_ (by assumption)
          rintro _ hc rfl
          exact hbare _ (List.head?_eq_some_iff.mp hc).choose_spec
        · cases h
  · rintro ⟨hne, hscan⟩
    have hempty : text.isEmpty = false := by simpa using hne
    cases hscan with
    | double isDouble value =>
      obtain rfl : _ = true := isDouble
      simp only [hempty, Bool.false_eq_true, if_false, if_true, value]
    | uint64 isInteger suffix value =>
      obtain rfl : _ = false := isInteger
      obtain rfl : behind = _ := suffix
      simp only [hempty, Bool.false_eq_true, if_false, value]
    | int64 isInteger bare value =>
      obtain rfl : _ = false := isInteger
      simp only [hempty, Bool.false_eq_true, if_false]
      split
      · exact absurd rfl (bare 'u' rfl)
      · rw [value]

/-- A number is the same if what follows it is broken off. -/
lemma scanNumber_cut {sign : List Char} (h : scanNumber sign cs = .ok t) :
    ∃ w, cs = w ++ t.rest ∧ w ≠ [] ∧ t.width = byteLength (sign ++ w)
      ∧ ∀ rest, GoesOn t.rest rest →
        scanNumber sign (w ++ rest) = .ok ⟨t.lexeme, t.width, rest⟩ := by
  obtain ⟨hne, hscan⟩ := scanNumber_eq_ok.mp h
  have happend := scanNumberBody_append false false cs
  have hcut : ∀ rest, GoesOn (scanNumberBody false false cs).rest rest →
      scanNumberBody false false ((scanNumberBody false false cs).text ++ rest)
        = { scanNumberBody false false cs with rest := rest } :=
    fun rest => scanNumberBody_cut false false cs
  generalize scanNumberBody false false cs = b at hne hscan happend hcut
  cases hscan with
  | double isDouble value =>
    refine ⟨b.text, happend.symm, hne, rfl, fun rest hrest => scanNumber_eq_ok.mpr ?_⟩
    rw [hcut rest hrest]
    exact ⟨hne, .double isDouble value⟩
  | @uint64 n behind isInteger suffix value =>
    -- the suffix belongs to the number, and ends its digits
    rw [suffix] at happend hcut
    refine ⟨b.text ++ ['u'], by simpa using happend.symm, by simp, ?_,
      fun rest hrest => scanNumber_eq_ok.mpr ?_⟩
    · have hsuffix : 'u'.utf8Size = 1 := rfl
      simp only [byteLength_append, byteLength_cons, byteLength_nil, hsuffix]
      omega
    · rw [List.append_assoc, List.singleton_append, hcut _ (.same 'u' hrest)]
      exact ⟨hne, .uint64 isInteger rfl value⟩
  | int64 isInteger bare value =>
    refine ⟨b.text, happend.symm, hne, rfl, fun rest hrest => scanNumber_eq_ok.mpr ?_⟩
    have hbare : ∀ c ∈ rest.head?, c ≠ 'u' := by
      refine hrest.head? (fun c hc => ?_) bare
      rintro rfl
      exact absurd hc (by decide)
    rw [hcut rest hrest]
    exact ⟨hne, .int64 isInteger hbare value⟩

/-! ### The next lexeme -/

/-- The characters that start a lexeme by themselves. -/
def marks : List Char := ['(', ')', '[', ']', '.', ':', '=', '<', '>', '!', '"', '\'', '-']

lemma scan_of_not_mem_marks (h : c ∉ marks) (cs : List Char) :
    scan c cs = if c.isDigit then scanNumber [] (c :: cs)
      else if isWordStart c then .ok (scanWord (c :: cs)) else .error (.unexpectedChar c) := by
  unfold scan
  split
  case h_14 => rfl
  all_goals exact absurd (by decide) h

/-- No lexeme starts with a blank. -/
lemma isBlank_of_scan (h : scan c cs = .ok t) : isBlank c = false := by
  cases hc : isBlank c with
  | false => rfl
  | true =>
    have hdigit : c.isDigit = false := (endsNumber_of_isBlank hc).1
    have hstart : isWordStart c = false := by
      have hword := isWordChar_of_isBlank hc
      cases hstart : isWordStart c with
      | false => rfl
      | true => exact (isWordChar_of_isWordStart hstart).symm.trans hword
    rw [scan_of_not_mem_marks (not_mem_of_all hc (by decide))] at h
    simp [hdigit, hstart] at h

lemma isCut_mark (hsize : c.utf8Size = 1) (hall : ∀ cs, scan c cs = .ok ⟨l, 1, cs⟩)
    (h : scan c cs = .ok t) : IsCut c cs t := by
  obtain rfl := Except.ok.inj ((hall cs).symm.trans h)
  exact ⟨[], rfl, by simp [hsize], fun rest _ => hall rest⟩

lemma isCut_comparison {short long : Sql.Comparison} (hsize : c.utf8Size = 1)
    (hall : ∀ cs, scan c cs = .ok (scanComparison short long cs)) (h : scan c cs = .ok t) :
    IsCut c cs t := by
  obtain rfl := Except.ok.inj ((hall cs).symm.trans h)
  unfold scanComparison
  split
  · refine ⟨['='], rfl, ?_, fun rest _ => hall _⟩
    rw [byteLength_cons, hsize]
    rfl
  · rename_i hunequal
    refine ⟨[], rfl, by simp [hsize], fun rest hrest => ?_⟩
    have hequal : ∀ c ∈ rest.head?, c ≠ '=' := by
      refine hrest.head? (fun c hc => ?_) (fun c hc => ?_)
      · rintro rfl
        exact absurd hc (by decide)
      · rintro rfl
        exact hunequal _ (List.head?_eq_some_iff.mp hc).choose_spec
    rw [hall, List.nil_append, scanComparison]
    rintro _ rfl
    exact hequal '=' rfl rfl

lemma isCut_unequal (h : scan '!' cs = .ok t) : IsCut '!' cs t := by
  simp only [scan] at h
  split at h
  · cases h
    exact ⟨['='], rfl, rfl, fun rest _ => rfl⟩
  · cases h

lemma isCut_string (hsize : c.utf8Size = 1) (hall : ∀ cs, scan c cs = scanString c cs)
    (h : scan c cs = .ok t) : IsCut c cs t := by
  rw [hall] at h
  obtain ⟨b, hb, rfl⟩ := map_eq_ok.mp h
  obtain ⟨w, rfl, hwidth, hcut⟩ := scanStringBody_cut hb hsize
  refine ⟨w, rfl, by rw [hwidth, byteLength_cons, hsize, Nat.add_comm], fun rest _ => ?_⟩
  rw [hall, scanString, hcut rest]
  rfl

lemma isCut_negative (h : scan '-' cs = .ok t) : IsCut '-' cs t := by
  have hnumber : scanNumber ['-'] cs = .ok t := h
  obtain ⟨w, hw, -, hwidth, hcut⟩ := scanNumber_cut hnumber
  exact ⟨w, hw, hwidth, hcut⟩

lemma isCut_number (hall : ∀ cs, scan c cs = scanNumber [] (c :: cs)) (h : scan c cs = .ok t) :
    IsCut c cs t := by
  rw [hall] at h
  obtain ⟨w, hw, hne, hwidth, hcut⟩ := scanNumber_cut h
  obtain ⟨d, w, rfl⟩ := List.exists_cons_of_ne_nil hne
  obtain ⟨rfl, rfl⟩ := List.cons.inj hw
  refine ⟨w, rfl, hwidth, fun rest hrest => ?_⟩
  rw [hall, ← List.cons_append, hcut rest hrest]

lemma isCut_word (hstart : isWordStart c = true)
    (hall : ∀ cs, scan c cs = .ok (scanWord (c :: cs))) (h : scan c cs = .ok t) :
    IsCut c cs t := by
  have hc : isWordChar c = true := isWordChar_of_isWordStart hstart
  obtain rfl := Except.ok.inj ((hall cs).symm.trans h)
  have hword : ∀ d ∈ c :: cs.takeWhile isWordChar, isWordChar d = true := by
    rw [List.forall_mem_cons]
    exact ⟨hc, List.all_eq_true.mp List.all_takeWhile⟩
  refine ⟨cs.takeWhile isWordChar, ?_, ?_, fun rest hrest => ?_⟩
  · simp [scanWord, hc]
  · simp [scanWord, hc]
  · have hstop : ∀ d ∈ (cs.dropWhile isWordChar).head?, isWordChar d = false := by
      intro d hd
      have := List.head?_dropWhile_not isWordChar cs
      rw [hd] at this
      exact this
    have hbehind : (scanWord (c :: cs)).rest = cs.dropWhile isWordChar := by simp [scanWord, hc]
    rw [hbehind] at hrest
    rw [hall, ← List.cons_append,
      scanWord_append hword (hrest.head? (fun d => isWordChar_of_isBlank) hstop)]
    simp [scanWord, hc]

/-- **A lexeme ends where a blank follows**: it is a part of the text, and whatever stands behind a
blank has no influence on it. -/
theorem isCut_of_scan (h : scan c cs = .ok t) : IsCut c cs t := by
  by_cases hmarks : c ∈ marks
  · simp only [marks, List.mem_cons, List.not_mem_nil, or_false] at hmarks
    rcases hmarks with rfl | rfl | rfl | rfl | rfl | rfl | rfl | rfl | rfl | rfl | rfl | rfl | rfl
    -- the brackets, the point and the colon
    iterate 6 exact isCut_mark (by decide) (fun _ => rfl) h
    iterate 3 exact isCut_comparison (by decide) (fun _ => rfl) h
    · exact isCut_unequal h
    · exact isCut_string (by decide) (fun _ => rfl) h
    · exact isCut_string (by decide) (fun _ => rfl) h
    · exact isCut_negative h
  · have hall := scan_of_not_mem_marks hmarks
    by_cases hdigit : c.isDigit = true
    · simp only [if_pos hdigit] at hall
      exact isCut_number hall h
    · simp only [if_neg hdigit] at hall
      by_cases hstart : isWordStart c = true
      · simp only [if_pos hstart] at hall
        exact isCut_word hstart hall h
      · rw [hall, if_neg hstart] at h
        cases h

end Catalog.Filter
