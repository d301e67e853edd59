import Catalog.Json.Syntax
import Catalog.Proofs.Text.Integer

/-!
Texts and their tokens. The tokens of a shape are read as that shape.
-/

namespace Catalog.Json

/-! ### The tokens of a shape -/

namespace Shape

mutual

def tokens : Shape → List Token
  | null => [.null]
  | bool b => [.bool b]
  | number n => [.number n]
  | string s => [.string s]
  | array [] => [.opening .square, .closing .square]
  | array (v :: vs) => .opening .square :: tokens v ++ itemTokens vs ++ [.closing .square]
  | object [] => [.opening .curly, .closing .curly]
  | object ((k, v) :: ms) =>
    .opening .curly :: .string k :: .colon :: tokens v ++ memberTokens ms ++ [.closing .curly]

/-- Items behind the first one. -/
def itemTokens : List Shape → List Token
  | [] => []
  | v :: vs => .comma :: tokens v ++ itemTokens vs

/-- Members behind the first one. -/
def memberTokens : List (Option String × Shape) → List Token
  | [] => []
  | (k, v) :: ms => .comma :: .string k :: .colon :: tokens v ++ memberTokens ms

end

/-- No shape starts with a closing bracket. -/
lemma tokens_eq_cons (s : Shape) : ∃ t ts, s.tokens = t :: ts ∧ t ≠ .closing .square := by
  cases s with
  | array vs => cases vs <;> simp [tokens]
  | object ms => cases ms <;> simp [tokens]
  | _ => simp [tokens]

end Shape

/-! ### Reading tokens -/

namespace Reader

/-- The first item of an array is read like any value. -/
lemma run_firstItem (s : Shape) (f : Frame) (stack : List Frame) (ts : List Token) :
    run ⟨.firstItem, f :: stack⟩ (s.tokens ++ ts) = run ⟨.value, f :: stack⟩ (s.tokens ++ ts) := by
  obtain ⟨t, us, hs, ht⟩ := s.tokens_eq_cons
  have hstep : step ⟨.firstItem, f :: stack⟩ t = step ⟨.value, f :: stack⟩ t := by
    cases t with
    | closing b =>
      cases b with
      | square => exact absurd rfl ht
      | curly => rfl
    | _ => rfl
  rw [hs, List.cons_append, run, run, hstep]

mutual

/-- The tokens of a value are read as the value, whatever is still open. -/
lemma run_value (s : Shape) (stack : List Frame) (ts : List Token) :
    run ⟨.value, stack⟩ (s.tokens ++ ts) = run ⟨.after s, stack⟩ ts := by
  match s with
  | .null => rfl
  | .bool b => rfl
  | .number n => rfl
  | .string s => rfl
  | .array [] => rfl
  | .array (v :: vs) =>
    have hopen : run ⟨.value, stack⟩ ((Shape.array (v :: vs)).tokens ++ ts)
        = run ⟨.firstItem, .array [] :: stack⟩
          (v.tokens ++ (Shape.itemTokens vs ++ .closing .square :: ts)) := by
      simp only [Shape.tokens, List.cons_append, List.append_assoc, List.nil_append, run]
      rfl
    rw [hopen, run_firstItem, run_value, run_items]
    rfl
  | .object [] => rfl
  | .object ((k, v) :: ms) =>
    have hopen : run ⟨.value, stack⟩ ((Shape.object ((k, v) :: ms)).tokens ++ ts)
        = run ⟨.value, .object [] k :: stack⟩
          (v.tokens ++ (Shape.memberTokens ms ++ .closing .curly :: ts)) := by
      simp only [Shape.tokens, List.cons_append, List.append_assoc, List.nil_append, run]
      rfl
    rw [hopen, run_value, run_members]
    rfl

lemma run_items (vs : List Shape) (v : Shape) (items : List Shape) (stack : List Frame)
    (ts : List Token) :
    run ⟨.after v, .array items :: stack⟩ (Shape.itemTokens vs ++ .closing .square :: ts)
      = run ⟨.after (.array ((v :: items).reverse ++ vs)), stack⟩ ts := by
  match vs with
  | [] => rw [List.append_nil]; rfl
  | w :: vs =>
    have hcomma : run ⟨.after v, .array items :: stack⟩
          (Shape.itemTokens (w :: vs) ++ .closing .square :: ts)
        = run ⟨.value, .array (v :: items) :: stack⟩
          (w.tokens ++ (Shape.itemTokens vs ++ .closing .square :: ts)) := by
      simp only [Shape.itemTokens, List.cons_append, List.append_assoc, run]
      rfl
    rw [hcomma, run_value, run_items, List.reverse_cons (a := w), List.append_assoc]
    rfl

lemma run_members (ms : List (Option String × Shape)) (k : Option String) (v : Shape)
    (members : List (Option String × Shape)) (stack : List Frame) (ts : List Token) :
    run ⟨.after v, .object members k :: stack⟩ (Shape.memberTokens ms ++ .closing .curly :: ts)
      = run ⟨.after (.object (((k, v) :: members).reverse ++ ms)), stack⟩ ts := by
  match ms with
  | [] => rw [List.append_nil]; rfl
  | (k', w) :: ms =>
    have hcomma : run ⟨.after v, .object members k :: stack⟩
          (Shape.memberTokens ((k', w) :: ms) ++ .closing .curly :: ts)
        = run ⟨.value, .object ((k, v) :: members) k' :: stack⟩
          (w.tokens ++ (Shape.memberTokens ms ++ .closing .curly :: ts)) := by
      simp only [Shape.memberTokens, List.cons_append, List.append_assoc, run]
      rfl
    rw [hcomma, run_value, run_members, List.reverse_cons (a := (k', w)), List.append_assoc]
    rfl

end

/-- The tokens of a shape are read as the shape. -/
lemma run_start (s : Shape) : start.run s.tokens = some s := by
  have h := run_value s [] []
  rw [List.append_nil] at h
  rw [start, h, run]

end Reader

/-! ### Tokens of a text -/

section

variable {c : Char} {cs ds rest : List Char} {t : Token} {ts us : List Token}

lemma tokens?_token (hspace : isSpace c = false) (h : token? c cs = some (t, rest)) :
    tokens? (c :: cs) = (tokens? rest).map (t :: ·) := by
  rw [tokens?, if_neg (by simp [hspace])]
  split
  · simp_all
  · rename_i t' rest' h'
    obtain ⟨rfl, rfl⟩ := Prod.mk.inj (Option.some.inj (h.symm.trans h'))
    rfl

/-- The character does not go on with a number. -/
def isStop (c : Char) : Bool := !c.isDigit && c ≠ '.' && c ≠ 'e' && c ≠ 'E'

/-- The text may follow a number. -/
def Stops (cs : List Char) : Prop := ∀ c ∈ cs.head?, isStop c = true

@[simp] lemma stops_nil : Stops [] := by simp [Stops]

@[simp] lemma stops_cons : Stops (c :: cs) ↔ isStop c = true := by simp [Stops]

lemma Stops.append (h : Stops ds) (hne : ds ≠ []) (rest : List Char) : Stops (ds ++ rest) := by
  obtain ⟨c, cs, rfl⟩ := List.exists_cons_of_ne_nil hne
  exact stops_cons.mpr (stops_cons.mp h)

/-- The text spells the tokens, whatever else follows. -/
def SpellsTokens (cs : List Char) (ts : List Token) : Prop :=
  ∀ rest, Stops rest → tokens? (cs ++ rest) = (tokens? rest).map (ts ++ ·)

lemma spellsTokens_nil : SpellsTokens [] [] := fun _ _ => by simp

lemma SpellsTokens.tokens?_eq (h : SpellsTokens cs ts) : tokens? cs = some ts := by
  have := h [] stops_nil
  rw [List.append_nil, tokens?] at this
  simpa using this

lemma SpellsTokens.append (h : SpellsTokens cs ts) (h' : SpellsTokens ds us) (hstops : Stops ds)
    (hne : ds ≠ []) : SpellsTokens (cs ++ ds) (ts ++ us) := by
  intro rest hrest
  rw [List.append_assoc, h _ (hstops.append hne rest), h' rest hrest, Option.map_map]
  congr 1
  funext xs
  exact (List.append_assoc ts us xs).symm

/-- A mark is a token by itself. -/
lemma SpellsTokens.mark (hspace : isSpace c = false) (htoken : ∀ cs, token? c cs = some (t, cs))
    (h : SpellsTokens cs ts) : SpellsTokens (c :: cs) (t :: ts) := by
  intro rest hrest
  rw [List.cons_append, tokens?_token hspace (htoken _), h rest hrest, Option.map_map]
  rfl

end

end Catalog.Json
