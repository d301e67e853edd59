import Mathlib.Data.List.TakeWhile
import Catalog.Proofs.Filter.Lexing
import Catalog.Proofs.Filter.Parsing
import Catalog.Proofs.Filter.Subscript

/-!
What a filter text can denote. Each lexeme is taken from characters of its own kind, so a name is a
word and no keyword; and the grammar has no calls but those of an operator on two sides. A tree that
is built by hand may hold anything else.
-/

namespace Catalog.Filter

open Catalog.Text

variable {c : Char} {cs w : List Char} {l : Lexeme} {ls : List Lexeme} {p : Phrase} {e x : Expr}

/-! ### What lexemes are taken from -/

/-- The character may stand in a number, which may end in `u`. -/
def InNumber (c : Char) : Prop := c.isDigit = true ∨ c ∈ ['-', '+', '.', 'e', 'E', 'u']

/-- The characters are taken for the lexeme. -/
inductive Taken : List Char → Lexeme → Prop
  | sign {word : String} {l : Lexeme} (fixed : (word, l) ∈ signs) : Taken word.toList l
  | string {delimiter : Char} {cs text : List Char} {n : ℕ}
      (quotes : delimiter = '"' ∨ delimiter = '\'')
      (body : scanStringBody delimiter cs = .ok ⟨text, n, []⟩) :
      Taken (delimiter :: cs) (.const (.string (String.ofList text)))
  | number {cs : List Char} {c : Constant} (numeric : c.isNumeric = true)
      (chars : ∀ d ∈ cs, InNumber d) : Taken cs (.const c)
  | word {c : Char} {cs : List Char} (start : isWordStart c = true)
      (rest : ∀ d ∈ cs, isWordChar d = true) :
      Taken (c :: cs) (wordLexeme (String.ofList (c :: cs)))

lemma inNumber_of_mem_text (isDouble afterMark : Bool) (cs : List Char) :
    ∀ c ∈ (scanNumberBody isDouble afterMark cs).text, InNumber c := by
  fun_induction scanNumberBody isDouble afterMark cs with
  | case1 => simp
  | case2 isDouble afterMark c cs point sign htaken b ih =>
    have hc : InNumber c := by
      simp only [point, sign, isScaleMark, Bool.or_eq_true, Bool.and_eq_true,
        decide_eq_true_eq] at htaken
      rcases htaken with ((hdigit | hpoint) | hsign) | hmark
      · exact .inl hdigit
      · exact .inr (by simp [hpoint.1.1])
      · rcases hsign.2 with rfl | rfl <;> exact .inr (by simp)
      · rcases hmark with rfl | rfl <;> exact .inr (by simp)
    exact List.forall_mem_cons.mpr ⟨hc, ih⟩
  | case3 => simp

lemma taken_of_scanNumber (sign : List Char) {n : ℕ} (hsign : ∀ c ∈ sign, InNumber c)
    (h : scanNumber sign cs = .ok ⟨l, n, []⟩) : Taken (sign ++ cs) l := by
  have happend := scanNumberBody_append false false cs
  have hchars := inNumber_of_mem_text false false cs
  obtain ⟨-, hscan⟩ := scanNumber_eq_ok.mp h
  generalize scanNumberBody false false cs = b at hscan happend hchars
  obtain ⟨text, isDouble, rest⟩ := b
  have hall : ∀ c ∈ sign ++ text, InNumber c := List.forall_mem_append.mpr ⟨hsign, hchars⟩
  cases hscan with
  | double | int64 =>
    obtain rfl : text = cs := by simpa using happend
    exact .number rfl hall
  | uint64 isInteger suffix value =>
    obtain rfl : rest = ['u'] := suffix
    obtain rfl : text ++ ['u'] = cs := happend
    rw [← List.append_assoc]
    refine .number rfl (List.forall_mem_append.mpr ⟨hall, ?_⟩)
    simp [InNumber]

lemma taken_of_scanString {delimiter : Char} {n : ℕ} (quotes : delimiter = '"' ∨ delimiter = '\'')
    (h : scanString delimiter cs = .ok ⟨l, n, []⟩) : Taken (delimiter :: cs) l := by
  obtain ⟨⟨text, width, rest⟩, hbody, heq⟩ := map_eq_ok.mp h
  simp only [Scan.mk.injEq] at heq
  obtain ⟨rfl, -, rfl⟩ := heq
  exact .string quotes hbody

lemma taken_of_scanComparison {short long : Sql.Comparison} {n : ℕ} (word : String)
    (hword : word.toList = [c]) (hshort : (word, .compare short) ∈ signs)
    (hlong : (word ++ "=", .compare long) ∈ signs)
    (h : scanComparison short long cs = ⟨l, n, []⟩) : Taken (c :: cs) l := by
  unfold scanComparison at h
  split at h
  · simp only [Scan.mk.injEq] at h
    obtain ⟨rfl, -, rfl⟩ := h
    have htaken := Taken.sign hlong
    rwa [String.toList_append, hword] at htaken
  · simp only [Scan.mk.injEq] at h
    obtain ⟨rfl, -, rfl⟩ := h
    rw [← hword]
    exact .sign hshort

lemma taken_of_scanWord {n : ℕ} (hstart : isWordStart c = true)
    (h : scanWord (c :: cs) = ⟨l, n, []⟩) : Taken (c :: cs) l := by
  simp only [scanWord, Scan.mk.injEq] at h
  obtain ⟨rfl, -, hrest⟩ := h
  have hall : ∀ d ∈ c :: cs, isWordChar d = true := List.dropWhile_eq_nil_iff.mp hrest
  rw [List.takeWhile_eq_self_iff.mpr hall]
  exact .word hstart (List.forall_mem_cons.mp hall).2

/-- What is scanned up to the end of a text is taken for its lexeme. -/
lemma taken_of_scan {n : ℕ} (h : scan c cs = .ok ⟨l, n, []⟩) : Taken (c :: cs) l := by
  by_cases hmarks : c ∈ marks
  · simp only [marks, List.mem_cons, List.not_mem_nil, or_false] at hmarks
    rcases hmarks with rfl | rfl | rfl | rfl | rfl | rfl | rfl | rfl | rfl | rfl | rfl | rfl | rfl
    -- the brackets, the point and the colon
    · cases h; exact .sign (show ("(", Lexeme.opening .paren) ∈ signs by decide)
    · cases h; exact .sign (show (")", Lexeme.closing .paren) ∈ signs by decide)
    · cases h; exact .sign (show ("[", Lexeme.opening .square) ∈ signs by decide)
    · cases h; exact .sign (show ("]", Lexeme.closing .square) ∈ signs by decide)
    · cases h; exact .sign (show (".", Lexeme.dot) ∈ signs by decide)
    · cases h; exact .sign (show (":", Lexeme.colon) ∈ signs by decide)
    · exact taken_of_scanComparison "=" rfl (by decide) (by decide) (Except.ok.inj h)
    · exact taken_of_scanComparison "<" rfl (by decide) (by decide) (Except.ok.inj h)
    · exact taken_of_scanComparison ">" rfl (by decide) (by decide) (Except.ok.inj h)
    · simp only [scan] at h
      split at h
      · cases h; exact .sign (show ("!=", Lexeme.compare .ne) ∈ signs by decide)
      · cases h
    · exact taken_of_scanString (.inl rfl) h
    · exact taken_of_scanString (.inr rfl) h
    · exact taken_of_scanNumber ['-'] (by simp [InNumber]) h
  · rw [scan_of_not_mem_marks hmarks] at h
    split at h
    · exact taken_of_scanNumber [] (by simp) h
    · split at h
      · exact taken_of_scanWord (by assumption) (Except.ok.inj h)
      · cases h

/-- The text is blanks and what is taken for the lexemes. -/
inductive Spans : List Char → List Lexeme → Prop
  | nil : Spans [] []
  | blank {c : Char} {cs : List Char} {ls : List Lexeme} (blank : isBlank c = true)
      (rest : Spans cs ls) : Spans (c :: cs) ls
  | lexeme {w cs : List Char} {l : Lexeme} {ls : List Lexeme} (taken : Taken w l)
      (rest : Spans cs ls) : Spans (w ++ cs) (l :: ls)

lemma spans_of_tokensFrom {n : ℕ} {tokens : List Token} (h : tokensFrom n cs = .ok tokens) :
    Spans cs (tokens.map Token.lexeme) := by
  fun_induction tokensFrom n cs generalizing tokens with
  | case1 n =>
    cases h
    exact .nil
  | case2 n c cs hblank ih => exact .blank hblank (ih h)
  | case3 n c cs hblank fault hscan => cases h
  | case4 n c cs hblank t hscan ih =>
    obtain ⟨tokens, htokens, rfl⟩ := map_eq_ok.mp h
    -- broken off behind the lexeme, the text still has it
    obtain ⟨w, hw, hwidth, hcut⟩ := isCut_of_scan hscan
    have halone := hcut [] (.stop (fun _ hc => by cases hc))
    rw [List.append_nil] at halone
    rw [hw]
    exact .lexeme (taken_of_scan halone) (ih htokens)

/-! ### Names -/

/-- A word that may stand as a name. -/
structure IsName (name : String) : Prop where
  nonempty : name ≠ ""
  start : ∀ c ∈ name.toList.head?, isAlphabetic c = true ∨ c = '_'
  chars : ∀ c ∈ name.toList, isAlphanumeric c = true ∨ c = '_'
  free : name ∉ ["AND", "OR", "true", "false"]

lemma isName_of_wordLexeme {name : String} (hstart : isWordStart c = true)
    (hrest : ∀ d ∈ cs, isWordChar d = true)
    (h : wordLexeme (String.ofList (c :: cs)) = .ident name) : IsName name := by
  have hchars : ∀ d ∈ c :: cs, isWordChar d = true :=
    List.forall_mem_cons.mpr ⟨isWordChar_of_isWordStart hstart, hrest⟩
  unfold wordLexeme at h
  split_ifs at h with hand hor htrue hfalse
  obtain rfl := Lexeme.ident.inj h
  have hfree : String.ofList (c :: cs) ∉ ["AND", "OR", "true", "false"] := by
    simp only [List.mem_cons, List.not_mem_nil, or_false, not_or]
    exact ⟨hand, hor, htrue, hfalse⟩
  refine ⟨by simp [← String.toList_inj], ?_, ?_, hfree⟩
  · simpa [isWordStart] using hstart
  · simpa [isWordChar] using hchars

lemma Taken.isName {name : String} (h : Taken w (.ident name)) : IsName name := by
  generalize hl : Lexeme.ident name = l at h
  cases h with
  | sign fixed =>
    subst hl
    simp [signs] at fixed
  | string | number => cases hl
  | word start rest => exact isName_of_wordLexeme start rest hl.symm

lemma Spans.isName (h : Spans cs ls) : ∀ name, .ident name ∈ ls → IsName name := by
  induction h with
  | nil => simp
  | blank _ _ ih => exact ih
  | lexeme taken _ ih =>
    intro name hname
    rcases List.mem_cons.mp hname with rfl | hname
    · exact taken.isName
    · exact ih name hname

/-! ### Trees -/

lemma binary_inj {op op' : Operator} {l l' r r' : Expr} :
    Expr.binary op l r = .binary op' l' r' ↔ op = op' ∧ l = l' ∧ r = r' := by
  constructor
  · intro h
    simp only [Expr.binary, Expr.call.injEq, List.cons.injEq, and_true] at h
    obtain ⟨hfunction, rfl, rfl⟩ := h
    have hop := Operator.ofFunction?_function op
    rw [hfunction, Operator.ofFunction?_function] at hop
    exact ⟨(Option.some.inj hop).symm, rfl, rfl⟩
  · rintro ⟨rfl, rfl, rfl⟩
    rfl

/-- The tree has names in its places and operators with two sides. -/
inductive WellFormed : Expr → Prop
  | ident {name : String} (named : IsName name) : WellFormed (.ident name)
  | const (c : Constant) : WellFormed (.const c)
  | select {e : Expr} {field : String} (operand : WellFormed e) (named : IsName field) :
      WellFormed (.select e field)
  | binary {l r : Expr} (op : Operator) (left : WellFormed l) (right : WellFormed r) :
      WellFormed (.binary op l r)

lemma Derives.wellFormed (h : Derives p ls e) (names : ∀ name, .ident name ∈ ls → IsName name) :
    WellFormed e := by
  induction h with
  | ident name => exact .ident (names name (by simp))
  | const c => exact .const c
  | group _ ih => exact ih fun name hname => names name (by simp [hname])
  | primary _ ih | member _ ih | comparison _ ih | disjunction _ ih => exact ih names
  | select _ name ih =>
    exact .select (ih fun n hn => names n (by simp [hn])) (names name (by simp))
  | subscript _ _ ihbase ihindex =>
    exact .binary .index (ihbase fun n hn => names n (by simp [hn]))
      (ihindex fun n hn => names n (by simp [hn]))
  | compare _ c _ ihleft ihright =>
    exact .binary (.compare c) (ihleft fun n hn => names n (by simp [hn]))
      (ihright fun n hn => names n (by simp [hn]))
  | has _ _ ihleft ihright =>
    exact .binary .has (ihleft fun n hn => names n (by simp [hn]))
      (ihright fun n hn => names n (by simp [hn]))
  | or _ _ ihleft ihright =>
    exact .binary (.connect .or) (ihleft fun n hn => names n (by simp [hn]))
      (ihright fun n hn => names n (by simp [hn]))
  | and _ _ ihleft ihright =>
    exact .binary (.connect .and) (ihleft fun n hn => names n (by simp [hn]))
      (ihright fun n hn => names n (by simp [hn]))

lemma wellFormed_of_parse {text : String} (h : parse text = .ok e) : WellFormed e := by
  obtain ⟨tokens, htokens, hderives, -⟩ := parse_eq_ok.mp h
  exact hderives.wellFormed (spans_of_tokensFrom htokens).isName

lemma WellFormed.part (h : WellFormed e) (hpart : Part x e) : WellFormed x := by
  induction h with
  | ident name =>
    cases hpart
    exact .ident name
  | const c =>
    cases hpart
    exact .const c
  | select operand name ih =>
    cases hpart with
    | self => exact .select operand name
    | select _ inner => exact ih inner
  | binary op left right ihleft ihright =>
    rcases part_binary.mp hpart with rfl | hl | hr
    · exact .binary op left right
    · exact ihleft hl
    · exact ihright hr

end Catalog.Filter
