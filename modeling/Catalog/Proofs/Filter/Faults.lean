import Catalog.Proofs.Filter.Offsets

/-!
Where a text is refused. Whatever the parser has read, a name where an operand or a field is missing
and the brackets that are still open bring it to an end, and neither counts towards a limit. So the
parser goes on exactly as long as some filter does, and a fault stands at the first token that no
filter has in this place.
-/

namespace Catalog.Filter

open Catalog.Text

variable {s s' : State} {t : Lexeme} {ts us : List Lexeme} {tokens before rest : List Token}
  {stop : ℕ} {error : Error}

/-! ### Up to a token -/

/-- The state that some lexemes lead to. -/
def State.walk (s : State) (ts : List Lexeme) : Except SyntaxFault State :=
  ts.foldlM State.step s

lemma run_append (h : s.walk (before.map Token.lexeme) = .ok s') (stop : ℕ) (rest : List Token) :
    s.run stop (before ++ rest) = s'.run stop rest := by
  induction before generalizing s with
  | nil =>
    cases h
    rfl
  | cons t before ih =>
    obtain ⟨s₁, hstep, hwalk⟩ := bind_eq_ok.mp h
    rw [List.cons_append, State.run, hstep]
    exact ih hwalk

/-- The state refuses what comes next, which is a lexeme or the end. -/
inductive State.Refuses (s : State) : Option Lexeme → Prop
  | lexeme {t : Lexeme} {fault : SyntaxFault} (step : s.step t = .error fault) :
      State.Refuses s (some t)
  | ending {fault : SyntaxFault} (finish : s.finish = .error fault) : State.Refuses s none

/-- A run that fails reads some tokens, and fails where the next one stands, or at the end. -/
lemma run_eq_error (h : s.run stop tokens = .error error) :
    ∃ before rest s' fault, tokens = before ++ rest
      ∧ s.walk (before.map Token.lexeme) = .ok s'
      ∧ s'.Refuses (rest.head?.map Token.lexeme)
      ∧ error = .parse ((rest.head?.map Token.offset).getD stop) fault := by
  induction tokens generalizing s with
  | nil =>
    cases hfinish : s.finish with
    | ok e =>
      rw [State.run, hfinish] at h
      cases h
    | error fault =>
      rw [State.run, hfinish] at h
      cases h
      exact ⟨[], [], s, fault, rfl, rfl, .ending hfinish, rfl⟩
  | cons t tokens ih =>
    cases hstep : s.step t.lexeme with
    | error fault =>
      rw [State.run, hstep] at h
      cases h
      exact ⟨[], t :: tokens, s, fault, rfl, rfl, .lexeme hstep, rfl⟩
    | ok s₁ =>
      rw [State.run, hstep] at h
      obtain ⟨before, rest, s', fault, rfl, hwalk, hrefuses, herror⟩ := ih h
      exact ⟨t :: before, rest, s', fault, rfl, bind_eq_ok.mpr ⟨s₁, hstep, hwalk⟩, hrefuses, herror⟩

/-! ### To an end -/

/-- A name where one is missing. -/
def missing : Word where
  lexeme := .ident "x"
  text := ['x']
  gap := [' ']
  written := .ident (by decide +kernel) (by simp) (by decide)
  blank := forall_isBlank_space

/-- The bracket that closes an open one. -/
def Frame.closer : Frame → Word
  | .group _ =>
    { lexeme := .closing .paren, text := [')'], gap := [' ']
      written := .sign (show (")", Lexeme.closing .paren) ∈ signs by decide)
      blank := forall_isBlank_space }
  | .subscript _ _ =>
    { lexeme := .closing .square, text := [']'], gap := [' ']
      written := .sign (show ("]", Lexeme.closing .square) ∈ signs by decide)
      blank := forall_isBlank_space }

/-- What brings the state to an end. -/
def State.completion (s : State) : List Word :=
  match s.place with
  | .operand | .field _ => missing :: s.stack.map Frame.closer
  | .after _ => s.stack.map Frame.closer

lemma run_closers (e : Expr) (l : Level) (k : List Frame) (operators stop n : ℕ) :
    ∃ e', State.run ⟨.after e, l, k, operators⟩ stop (placed n (k.map Frame.closer)) = .ok e' := by
  -- the innermost bracket is closed first, and what it held becomes the operand of the next one
  induction k generalizing e l n with
  | nil => exact ⟨l.conjoined e, rfl⟩
  | cons f k ih =>
    cases f with
    | group outer => exact ih (l.conjoined e) outer _
    | subscript outer base => exact ih (.binary .index base (l.conjoined e)) outer _

/-- Every state can be brought to an end. -/
lemma run_completion (s : State) (stop n : ℕ) :
    ∃ e, s.run stop (placed n s.completion) = .ok e := by
  obtain ⟨place, l, k, operators⟩ := s
  cases place with
  | operand => exact run_closers (.ident "x") l k operators stop _
  | field base => exact run_closers (.select base "x") l k operators stop _
  | after e => exact run_closers e l k operators stop n

lemma gap_of_mem_completion (s : State) : ∀ w ∈ s.completion, w.gap ≠ [] := by
  have hclosers : ∀ w ∈ s.stack.map Frame.closer, w.gap ≠ [] := by
    intro w hw
    obtain ⟨f, -, rfl⟩ := List.mem_map.mp hw
    cases f <;> exact List.cons_ne_nil _ _
  unfold State.completion
  split
  · exact List.forall_mem_cons.mpr ⟨List.cons_ne_nil _ _, hclosers⟩
  · exact List.forall_mem_cons.mpr ⟨List.cons_ne_nil _ _, hclosers⟩
  · exact hclosers

/-! ### The first token that cannot stand -/

/-- Some filter starts with the tokens, each in its place. -/
def Opens (before : List Token) : Prop :=
  ∃ (text : String) (tokens : List Token) (e : Expr),
    tokenize text = .ok tokens ∧ before <+: tokens ∧ parse text = .ok e

/-- The lexemes have a tree, wherever they stand. -/
def Accepts (ts : List Lexeme) : Prop :=
  ∃ (stop : ℕ) (tokens : List Token) (e : Expr),
    tokens.map Token.lexeme = ts ∧ State.start.run stop tokens = .ok e

/-- Behind some tokens the next one cannot stand, whatever follows; or, where no token is left, the
text cannot end. -/
def Barred (before : List Token) : List Token → Prop
  | [] => ¬ Accepts (before.map Token.lexeme)
  | t :: _ => ∀ ts, (before ++ [t]).map Token.lexeme <+: ts → ¬ Accepts ts

/-- The tokens that the parser reads without a fault can be completed, in their own text: it is
broken off behind them, and ends as the parser's state wants it to. -/
lemma opens_of_walk {text : String} (htokens : tokenize text = .ok (before ++ rest))
    (h : State.start.walk (before.map Token.lexeme) = .ok s) : Opens before := by
  -- the lexemes need not have a standard spelling, so the text keeps them as they are
  obtain ⟨part, -, hcut⟩ := tokensFrom_cut htokens
  have hwords : ∀ n, tokensFrom n ([' '] ++ s.completion.flatMap Word.chars)
      = .ok (placed (n + byteLength [' ']) s.completion) := by
    intro n
    rw [tokensFrom_blanks forall_isBlank_space]
    exact tokensFrom_words (fun w hw => gap_of_mem_completion s w (List.dropLast_subset _ hw)) _
  let ending := String.ofList (part ++ ([' '] ++ s.completion.flatMap Word.chars))
  let added := placed (0 + byteLength part + byteLength [' ']) s.completion
  have hending : tokenize ending = .ok (before ++ added) := by
    have hspace := detached_of_forall_isBlank forall_isBlank_space
    have hbehind := hspace.append (List.cons_ne_nil ' ' []) (s.completion.flatMap Word.chars)
    rw [tokenize, String.toList_ofList, hcut _ hbehind, hwords]
    rfl
  obtain ⟨e, he⟩ := run_completion s ending.utf8ByteSize
    (0 + byteLength part + byteLength [' '])
  refine ⟨ending, before ++ added, e, hending, List.prefix_append _ _, ?_⟩
  calc parse ending
      = State.start.run ending.utf8ByteSize (before ++ added) := by
        rw [parse, hending]
        rfl
    _ = s.run ending.utf8ByteSize added := run_append h _ _
    _ = .ok e := he

lemma not_accepts_of_step {fault : SyntaxFault} (h : State.start.walk ts = .ok s)
    (hstep : s.step t = .error fault) (hbegin : ts ++ [t] <+: us) : ¬ Accepts us := by
  rintro ⟨stop, tokens, e, rfl, hrun⟩
  obtain ⟨more, hmore⟩ := hbegin
  rw [List.append_assoc] at hmore
  obtain ⟨before, behind, rfl, rfl, hbehind⟩ := List.map_eq_append_iff.mp hmore.symm
  obtain ⟨token, tokens, rfl, rfl, -⟩ := List.map_eq_cons_iff.mp hbehind
  rw [run_append h, State.run, hstep] at hrun
  cases hrun

lemma not_accepts_of_finish {fault : SyntaxFault} (h : State.start.walk ts = .ok s)
    (hfinish : s.finish = .error fault) : ¬ Accepts ts := by
  rintro ⟨stop, tokens, e, rfl, hrun⟩
  have hall := run_append h stop []
  rw [List.append_nil, hrun, State.run, hfinish] at hall
  cases hall

lemma barred_of_refuses (h : State.start.walk (before.map Token.lexeme) = .ok s)
    (hrefuses : s.Refuses (rest.head?.map Token.lexeme)) : Barred before rest := by
  cases rest with
  | nil =>
    cases hrefuses with
    | ending hfinish => exact not_accepts_of_finish h hfinish
  | cons t rest =>
    cases hrefuses with
    | lexeme hstep =>
      intro ts hts
      rw [List.map_append] at hts
      exact not_accepts_of_step h hstep hts

/-- A text of tokens is refused at the first of them that cannot stand. -/
lemma barred_of_parse {text : String} (htokens : tokenize text = .ok tokens)
    (h : parse text = .error error) :
    ∃ before rest fault, tokens = before ++ rest
      ∧ error = .parse ((rest.head?.map Token.offset).getD text.utf8ByteSize) fault
      ∧ Opens before ∧ Barred before rest := by
  rw [parse, htokens] at h
  obtain ⟨before, rest, s, fault, rfl, hwalk, hrefuses, rfl⟩ := run_eq_error h
  exact ⟨before, rest, fault, rfl, rfl, opens_of_walk htokens hwalk,
    barred_of_refuses hwalk hrefuses⟩

/-- A fault stands between two characters of the text. -/
lemma isValid_of_parse {text : String} (h : parse text = .error error) :
    ∃ offset fault, error = .parse offset fault ∧ (⟨offset⟩ : String.Pos.Raw).IsValid text := by
  cases htokens : tokenize text with
  | error error' =>
    rw [parse, htokens] at h
    cases h
    obtain ⟨offset, fault, rfl, hends⟩ := endsPart_of_tokens_error htokens
    exact ⟨offset, fault, rfl, hends.isValid⟩
  | ok tokens =>
    obtain ⟨before, rest, fault, rfl, rfl, -⟩ := barred_of_parse htokens h
    refine ⟨_, fault, rfl, ?_⟩
    cases rest with
    | nil => exact String.Pos.Raw.isValid_rawEndPos
    | cons t rest => exact (endsPart_of_mem_tokens htokens t (by simp)).isValid

/-- **A syntax error stands at the first token that cannot stand**: some filter starts with the
tokens before it, and none that has a tree goes on with it or, where the error is at the end of the
text, ends there. Offsets grow from token to token up to the end of the text, every error stands
between two characters, and a fault in the characters outweighs all else. -/
theorem parse_error_stands (text : String) :
    (∀ tokens, tokenize text = .ok tokens →
      (tokens.map Token.offset ++ [text.utf8ByteSize]).Pairwise (· < ·)
      ∧ ∀ error, parse text = .error error → ∃ before rest fault, tokens = before ++ rest
          ∧ error = .parse ((rest.head?.map Token.offset).getD text.utf8ByteSize) fault
          ∧ Opens before ∧ Barred before rest)
    ∧ (∀ error, parse text = .error error → ∃ offset fault, error = .parse offset fault
        ∧ offset ≤ text.utf8ByteSize ∧ (⟨offset⟩ : String.Pos.Raw).IsValid text)
    ∧ ∀ error, tokenize text = .error error → parse text = .error error := by
  refine ⟨fun tokens htokens => ⟨?_, fun error => barred_of_parse htokens⟩, fun error h => ?_,
    fun error h => ?_⟩
  · have := (pairwise_offsets htokens).2
    rwa [Nat.zero_add, ← utf8ByteSize_ofList, String.ofList_toList] at this
  · obtain ⟨offset, fault, rfl, hvalid⟩ := isValid_of_parse h
    exact ⟨offset, fault, rfl, hvalid.le_rawEndPos, hvalid⟩
  · rw [parse, h]
    rfl

/-- Every bracket may be closed again up to the 32nd one, and the 33rd stands behind them. -/
theorem parse_error_stands_nested :
    ∃ before rest fault, (List.range 33).map (Token.mk (.opening .paren)) = before ++ rest
      ∧ Error.parse 32 .tooDeep
        = .parse ((rest.head?.map Token.offset).getD 33) fault
      ∧ Opens before ∧ Barred before rest := by
  have htokens : tokenize "((((((((((((((((((((((((((((((((("
      = .ok ((List.range 33).map (Token.mk (.opening .paren))) :=
    toOption_eq_some.mp (by decide +kernel)
  have hparse : parse "((((((((((((((((((((((((((((((((("
      = .error (.parse 32 .tooDeep) := by
    rw [parse, htokens]
    rfl
  exact ((parse_error_stands _).1 _ htokens).2 _ hparse

end Catalog.Filter
