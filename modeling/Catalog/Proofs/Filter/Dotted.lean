import Catalog.Proofs.Filter.Budget
import Catalog.Proofs.Sql.PathReading
import Catalog.Proofs.Text.Split

/-!
Dotted paths. A text stands for the path of the words between its points. The path is shown as this
text again, and read from it if the words are names and not too many; in SQL each word is one
segment, and only the last one is asked for its text.
-/

namespace Catalog.Sql

/-! ### Accessors -/

/-- How a step is written behind an accessor. -/
def Step.segment : Step → String
  | key name => quoteLiteral name
  | position i => toString i.toInt

/-- The way along the steps, from JSON to JSON. -/
def accessors (steps : List Step) : String := String.join (steps.map ("->" ++ ·.segment))

lemma accessors_concat (steps : List Step) (s : Step) :
    accessors (steps ++ [s]) = accessors steps ++ "->" ++ s.segment := by
  simp [accessors, String.append_assoc]

lemma render_anchor (anchor : String) : Piece.render anchor .anchor = anchor := rfl

lemma render_code (anchor s : String) : Piece.render anchor (.code s) = s := rfl

lemma Step.render_piece (s : Step) (anchor : String) : s.piece.render anchor = s.segment := by
  cases s <;> rfl

lemma Path.join_json (p : Path) (anchor : String) :
    String.join (p.json.map (Piece.render anchor)) = anchor ++ accessors p.steps := by
  induction p with
  | root s => simp [json, steps, accessors, render_anchor, render_code, s.render_piece]
  | child p s ih =>
    rw [json, List.map_append, String.join_append, ih, steps, accessors_concat]
    simp [render_code, s.render_piece, String.append_assoc]

/-- The text of a path differs from its JSON in the last accessor. -/
lemma Path.exists_render_text (p : Path) : ∃ init last, p.steps = init ++ [last] ∧ ∀ anchor,
    (Term.text p).render anchor = anchor ++ accessors init ++ "->>" ++ last.segment := by
  cases p with
  | root s =>
    refine ⟨[], s, rfl, fun anchor => ?_⟩
    simp [Term.render, Term.pieces, text, accessors, render_anchor, render_code, s.render_piece,
      String.append_assoc]
  | child p s =>
    refine ⟨p.steps, s, rfl, fun anchor => ?_⟩
    rw [Term.render, Term.pieces, text, List.map_append, String.join_append, p.join_json]
    simp [render_code, s.render_piece, String.append_assoc]

lemma Path.render_number (p : Path) (anchor : String) :
    (Term.number p).render anchor
      = "CASE WHEN jsonb_typeof(" ++ (anchor ++ accessors p.steps) ++ ") = 'number' THEN ("
        ++ (Term.text p).render anchor ++ ")::numeric END" := by
  have hliteral : Piece.render anchor (.literal "number") = "'number'" := rfl
  have hmiddle (t : String) :
      ") = 'number' THEN (" ++ t = ") = " ++ ("'number'" ++ (" THEN (" ++ t)) := by
    rw [← String.append_assoc, ← String.append_assoc]
    rfl
  rw [← p.join_json]
  simp [Term.render, Term.pieces, render_code, hliteral, hmiddle, String.append_assoc]

end Catalog.Sql

namespace Catalog.Filter

open Catalog.Sql Catalog.Text

variable {e : Expr} {p : Path} {root s : String} {fields words : List String} {ts : List Lexeme}

/-! ### Selections, one after the other -/

/-- The first word of a text is the root, and each of the others is selected. -/
lemma exists_path_eq (s : String) : ∃ root fields, splitAt '.' s = root :: fields
    ∧ Expr.path s = fields.foldl .select (.ident root) := by
  obtain ⟨root, fields, hwords⟩ := List.exists_cons_of_ne_nil (splitAt_ne_nil '.' s)
  exact ⟨root, fields, hwords, by rw [Expr.path, hwords]⟩

-- Selections nest to the left, so each induction over the fields is about any tree that they are
-- selected from: the first field goes into this tree.

lemma display_foldl_select (fields : List String) (hne : words ≠ [])
    (h : e.display = ".".intercalate words) :
    (fields.foldl Expr.select e).display = ".".intercalate (words ++ fields) := by
  induction fields generalizing e words with
  | nil => simpa using h
  | cons field fields ih =>
    have hselect : (Expr.select e field).display = ".".intercalate (words ++ [field]) := by
      rw [String.intercalate_append_of_ne_nil hne (List.cons_ne_nil field []),
        String.intercalate_singleton, Expr.display, h]
    simpa using ih (by simp) hselect

lemma branches_foldl_select (fields : List String) (e : Expr) :
    (fields.foldl Expr.select e).branches = e.branches + fields.length := by
  induction fields generalizing e with
  | nil => rfl
  | cons field fields ih =>
    rw [List.foldl_cons, ih, Expr.branches, List.length_cons]
    omega

lemma isName_of_foldl_select (h : WellFormed (fields.foldl .select e)) :
    WellFormed e ∧ ∀ field ∈ fields, IsName field := by
  induction fields generalizing e with
  | nil => exact ⟨h, by simp⟩
  | cons field fields ih =>
    obtain ⟨hselect, hfields⟩ := ih h
    cases hselect with
    | select operand named => exact ⟨operand, List.forall_mem_cons.mpr ⟨named, hfields⟩⟩

lemma Spells.foldl_select (h : Spells e p) (fields : List String) :
    ∃ q, Spells (fields.foldl .select e) q ∧ q.steps = p.steps ++ fields.map .key := by
  induction fields generalizing e p with
  | nil => exact ⟨p, h, by simp⟩
  | cons field fields ih =>
    obtain ⟨q, hspells, hsteps⟩ := ih (h.select field)
    exact ⟨q, hspells, by simp [hsteps, Path.steps]⟩

lemma Derives.foldl_select (h : Derives .member ts e) (fields : List String) :
    Derives .member (ts ++ fields.flatMap fun field => [.dot, .ident field])
      (fields.foldl .select e) := by
  induction fields generalizing ts e with
  | nil => simpa using h
  | cons field fields ih => simpa using ih (h.select field)

lemma display_path (s : String) : (Expr.path s).display = s := by
  obtain ⟨root, fields, hwords, hpath⟩ := exists_path_eq s
  have hroot : (Expr.ident root).display = ".".intercalate [root] := by
    rw [String.intercalate_singleton, Expr.display]
  rw [hpath, display_foldl_select fields (List.cons_ne_nil root []) hroot, List.singleton_append,
    ← hwords]
  exact intercalate_splitAt '.' s

/-! ### Reading -/

/-- The lexemes of a name and of the fields behind it. -/
def dotted (root : String) (fields : List String) : List Lexeme :=
  .ident root :: fields.flatMap fun field => [.dot, .ident field]

lemma derives_dotted (root : String) (fields : List String) :
    Derives .conjunction (dotted root fields) (fields.foldl .select (.ident root)) :=
  .disjunction (.comparison (.member ((Derives.primary (.ident root)).foldl_select fields)))

/-- Only the points are operators, and there are no brackets. -/
lemma fits_dotted (h : fields.length ≤ 256) : Fits 0 0 (dotted root fields) := by
  have hoperators : (dotted root fields).countP Lexeme.isOperator = fields.length := by
    rw [← (derives_dotted root fields).branches, branches_foldl_select, Expr.branches,
      Nat.zero_add]
  refine fits_zero.mpr ⟨hoperators ▸ h, fun prior hprior => ?_⟩
  have hopening : prior.countP Lexeme.isOpening = 0 := by
    refine List.countP_eq_zero.mpr fun t ht => ?_
    have hmem := hprior.subset ht
    simp only [dotted, List.mem_cons, List.mem_flatMap, List.not_mem_nil, or_false] at hmem
    rcases hmem with rfl | ⟨field, -, rfl | rfl⟩ <;> simp [Lexeme.isOpening]
  omega

lemma IsName.point_not_mem (h : IsName root) : '.' ∉ root.toList := by
  intro hmem
  rcases h.chars '.' hmem with halphanumeric | hline
  · exact absurd halphanumeric (by decide +kernel)
  · exact absurd hline (by decide)

/-- A name is one token, if what follows it cannot be a part of it. -/
lemma tokensFrom_name {rest : List Char} (h : IsName root)
    (hrest : ∀ c ∈ rest.head?, isWordChar c = false) (n : ℕ) :
    tokensFrom n (root.toList ++ rest)
      = (tokensFrom (n + byteLength root.toList) rest).map (⟨.ident root, n⟩ :: ·) := by
  obtain ⟨c, cs, hcs⟩ := List.exists_cons_of_ne_nil (mt String.toList_eq_nil_iff.mp h.nonempty)
  have hstart : isWordStart c = true := by simpa [isWordStart, hcs] using h.start
  have hchars : ∀ d ∈ c :: cs, isWordChar d = true := by
    simpa [isWordChar, hcs] using h.chars
  have hfree : ∀ k ∈ keywords, root ≠ k.1 := by simpa [keywords] using h.free
  have hscan : scan c (cs ++ rest) = .ok ⟨.ident root, byteLength (c :: cs), rest⟩ := by
    rw [scan_of_isWordStart hstart, ← List.cons_append, scanWord_append hchars hrest, ← hcs,
      String.ofList_toList, wordLexeme_of_forall_ne hfree]
  rw [hcs, List.cons_append, tokensFrom_of_scan hscan]

lemma tokensFrom_point (cs : List Char) (n : ℕ) :
    tokensFrom n ('.' :: cs) = (tokensFrom (n + 1) cs).map (⟨.dot, n⟩ :: ·) :=
  tokensFrom_of_scan (t := ⟨.dot, 1, cs⟩) rfl n

/-- Names with points between them are read one after the other. -/
lemma tokensFrom_dotted (h : ∀ w ∈ root :: fields, IsName w) (n : ℕ) :
    ∃ tokens, tokensFrom n (".".intercalate (root :: fields)).toList = .ok tokens
      ∧ tokens.map Token.lexeme = dotted root fields := by
  induction fields generalizing root n with
  | nil =>
    have hname : tokensFrom n (root.toList ++ []) = _ :=
      tokensFrom_name (h root List.mem_cons_self) (by simp) n
    refine ⟨[⟨.ident root, n⟩], ?_, rfl⟩
    rw [String.intercalate_singleton, ← List.append_nil root.toList, hname, tokensFrom]
    rfl
  | cons field fields ih =>
    obtain ⟨hroot, hfields⟩ := List.forall_mem_cons.mp h
    obtain ⟨tokens, htokens, hlexemes⟩ := ih hfields (n + byteLength root.toList + 1)
    have hpoint : isWordChar '.' = false := by decide +kernel
    refine ⟨⟨.ident root, n⟩ :: ⟨.dot, n + byteLength root.toList⟩ :: tokens, ?_, ?_⟩
    · calc tokensFrom n (".".intercalate (root :: field :: fields)).toList
          = tokensFrom n (root.toList ++ '.' :: (".".intercalate (field :: fields)).toList) := by
            rw [String.intercalate_cons_cons, String.toList_append, String.toList_append,
              List.append_assoc]
            rfl
        _ = .ok (⟨.ident root, n⟩ :: ⟨.dot, n + byteLength root.toList⟩ :: tokens) := by
            rw [tokensFrom_name hroot (by simpa using hpoint), tokensFrom_point, htokens]
            rfl
    · simp [hlexemes, dotted]

lemma parse_intercalate (h : ∀ w ∈ root :: fields, IsName w) (hlength : fields.length ≤ 256) :
    parse (".".intercalate (root :: fields)) = .ok (.path (".".intercalate (root :: fields))) := by
  have hwords : splitAt '.' (".".intercalate (root :: fields)) = root :: fields :=
    splitAt_intercalate (List.cons_ne_nil root fields) fun w hw => (h w hw).point_not_mem
  obtain ⟨tokens, htokens, hlexemes⟩ := tokensFrom_dotted h 0
  rw [Expr.path, hwords]
  exact parse_eq_ok.mpr
    ⟨tokens, htokens, hlexemes ▸ derives_dotted root fields, hlexemes ▸ fits_dotted hlength⟩

/-- What is read as the path that it stands for has names for its words, and not too many. -/
lemma isName_of_parse_path (h : parse s = .ok (.path s)) :
    (splitAt '.' s).length ≤ 257 ∧ ∀ w ∈ splitAt '.' s, IsName w := by
  obtain ⟨root, fields, hwords, hpath⟩ := exists_path_eq s
  rw [hpath] at h
  obtain ⟨tokens, -, hderives, hfits⟩ := parse_eq_ok.mp h
  have hlength : fields.length ≤ 256 := by
    have hbranches := hderives.branches
    rw [branches_foldl_select, Expr.branches, Nat.zero_add] at hbranches
    exact hbranches ▸ (fits_zero.mp hfits).1
  obtain ⟨hroot, hfields⟩ := isName_of_foldl_select (wellFormed_of_parse h)
  cases hroot with
  | ident named =>
    rw [hwords]
    exact ⟨Nat.succ_le_succ hlength, List.forall_mem_cons.mpr ⟨named, hfields⟩⟩

lemma parse_eq_ok_path_iff : parse s = .ok (.path s) ↔
    ∃ words : List String, words ≠ [] ∧ words.length ≤ 257 ∧ (∀ w ∈ words, IsName w)
      ∧ s = ".".intercalate words := by
  constructor
  · intro h
    obtain ⟨hlength, hnames⟩ := isName_of_parse_path h
    exact ⟨splitAt '.' s, splitAt_ne_nil '.' s, hlength, hnames, (intercalate_splitAt '.' s).symm⟩
  · rintro ⟨words, hne, hlength, hnames, rfl⟩
    obtain ⟨root, fields, rfl⟩ := List.exists_cons_of_ne_nil hne
    exact parse_intercalate hnames (Nat.le_of_succ_le_succ hlength)

/-! ### SQL -/

/-- The SQL of a path: `->` leads along all steps but the last one, and `->>` to the text of this
one. Beside a number the text is read as a number, where the value with `->` all the way is one. -/
structure IsAccessChain (e : Expr) (init : List Step) (last : Step) : Prop where
  text (anchor : String) : e.term?.map (Term.render anchor)
    = .ok (anchor ++ accessors init ++ "->>" ++ last.segment)
  number (anchor : String) (other : Expr) (h : other.isNumeric = true) :
    (operandTerm e other e.term?).map (Term.render anchor)
      = .ok ("CASE WHEN jsonb_typeof(" ++ (anchor ++ accessors (init ++ [last]))
        ++ ") = 'number' THEN (" ++ (anchor ++ accessors init ++ "->>" ++ last.segment)
        ++ ")::numeric END")

lemma Spells.isAccessChain (h : Spells e p) :
    ∃ init last, p.steps = init ++ [last] ∧ IsAccessChain e init last := by
  obtain ⟨init, last, hsteps, htext⟩ := p.exists_render_text
  refine ⟨init, last, hsteps, fun anchor => ?_, fun anchor other hother => ?_⟩
  · rw [h.term?, ← htext anchor]
    rfl
  · rw [h.operandTerm, beside, if_pos hother, ← hsteps, ← htext anchor, ← p.render_number]
    rfl

/-- The steps of a dotted path are the words of its text. -/
lemma isAccessChain_path (s : String) : ∃ init last, splitAt '.' s = init ++ [last]
    ∧ IsAccessChain (.path s) (init.map .key) (.key last) := by
  obtain ⟨root, fields, hwords, hpath⟩ := exists_path_eq s
  obtain ⟨p, hspells, hkeys⟩ := (Spells.ident root).foldl_select fields
  obtain ⟨init, last, hsteps, hchain⟩ := hspells.isAccessChain
  have hsplit : (splitAt '.' s).map .key = init ++ [last] := by
    rw [hwords, ← hsteps, hkeys]
    rfl
  obtain ⟨names, ends, hnames, rfl, hends⟩ := List.map_eq_append_iff.mp hsplit
  obtain ⟨name, rfl, rfl⟩ := List.map_eq_singleton_iff.mp hends
  exact ⟨names, name, hnames, hpath ▸ hchain⟩

/-! ### Agreement -/

/-- **A dotted text, its path, its reading and its SQL agree**: whatever the text is, the path that
it stands for is shown as the same text. The parser reads this path from it if and only if the text
is made of names, one to 257 of them, with one point between neighbours. And over every anchor the
path is compiled to one segment for each word, in order, with `->` before each but the last one and
`->>` before that; the same goes for the steps of every path, those with indexes included. -/
theorem dotted_path_agrees :
    (∀ s, (Expr.path s).display = s)
    ∧ (∀ s, parse s = .ok (.path s) ↔
      ∃ words : List String, words ≠ [] ∧ words.length ≤ 257 ∧ (∀ w ∈ words, IsName w)
        ∧ s = ".".intercalate words)
    ∧ (∀ s, ∃ init last, splitAt '.' s = init ++ [last]
      ∧ IsAccessChain (.path s) (init.map .key) (.key last))
    ∧ ∀ e p, Spells e p → ∃ init last, p.steps = init ++ [last] ∧ IsAccessChain e init last :=
  ⟨display_path, fun _ => parse_eq_ok_path_iff, isAccessChain_path, fun _ _ => Spells.isAccessChain⟩

/-- A member of the last element of an array. -/
def lastMember : Expr := .select (.binary .index (.ident "a") (.const (.int64 (-1)))) "it's"

/-- Words may be empty where a path is not read from its text; 257 words are read; and in SQL a
place stands without quotes. -/
theorem dotted_path_agrees_longest :
    (Expr.path "..a.").display = "..a."
    ∧ parse (".".intercalate (List.replicate 257 "é_1"))
      = .ok (.path (".".intercalate (List.replicate 257 "é_1")))
    ∧ Spells lastMember (.child (.child (.root (.key "a")) (.position (-1))) (.key "it's"))
    ∧ lastMember.term?.map (Term.render projectAnchor)
      = .ok "jsonb_build_object('name', name)->'a'->-1->>'it''s'" := by
  obtain ⟨hdisplay, hparse, -, hchain⟩ := dotted_path_agrees
  have hword : wordLexeme (String.ofList ['é', '_', '1']) = .ident "é_1" := rfl
  have hname : IsName "é_1" :=
    isName_of_wordLexeme (by decide +kernel) (List.all_eq_true.mp (by decide +kernel)) hword
  have hlength : (List.replicate 257 "é_1").length = 257 := List.length_replicate
  have hspells : Spells lastMember
      (.child (.child (.root (.key "a")) (.position (-1))) (.key "it's")) :=
    .select "it's" (.index (.ident "a") rfl)
  refine ⟨hdisplay _, (hparse _).mpr ⟨_, List.ne_nil_of_length_eq_add_one hlength, hlength.le,
    fun w hw => ?_, rfl⟩, hspells, ?_⟩
  · rwa [List.eq_of_mem_replicate hw]
  · obtain ⟨init, last, hsteps, hchain⟩ := hchain _ _ hspells
    have hsteps : [Step.key "a", .position (-1)] ++ [.key "it's"] = init ++ [last] := hsteps
    obtain ⟨rfl, hlast⟩ := List.append_inj' hsteps rfl
    obtain rfl := List.singleton_injective hlast
    exact hchain.text projectAnchor

end Catalog.Filter
