import Catalog.Proofs.Sql.Piece
import Catalog.Proofs.Sql.Select

/-!
Fragments of statements. A fragment carries its text together with all that is read from it. With
a blank between them fragments are read one by one, so they can be put side by side, and
conditions can be joined by AND.
-/

namespace Catalog.Sql

/-- A text with its glyphs, its outline, and the numbers of the arguments it asks for. -/
structure Fragment where
  text : List Char
  glyphs : List Glyph
  items : List Item
  numbers : List ℕ
  reads : glyphsFrom none text = some glyphs
  outline : outline? glyphs = some items
  placed : placeholders glyphs = numbers
  quiet : Quiet glyphs

instance (gs : List Glyph) : Decidable (Quiet gs) :=
  decidable_of_iff ((∀ c ∈ [';', '/'], .char c ∉ gs)
      ∧ (gs.IsChain fun g h => ¬ (isDash g ∧ isDash h)) ∧ ∀ g ∈ gs.getLast?, ¬ isDash g)
    ⟨fun h => ⟨h.1, h.2.1, h.2.2⟩, fun h => ⟨h.chars, h.dashes, h.last⟩⟩

/-- The text can be read for itself. -/
def isReadable (text : String) : Bool :=
  match glyphs? text with
  | some gs => (outline? gs).isSome && decide (Quiet gs)
  | none => false

namespace Fragment

/-- A text that is written down in full. -/
def ofText (text : String) (h : isReadable text = true) : Fragment where
  text := text.toList
  glyphs := (glyphs? text).getD []
  items := ((glyphs? text).bind outline?).getD []
  numbers := placeholders ((glyphs? text).getD [])
  reads := by
    unfold isReadable at h
    split at h
    · rename_i gs hgs
      exact hgs ▸ hgs
    · simp at h
  outline := by
    unfold isReadable at h
    split at h
    · rename_i gs hgs
      obtain ⟨is, his⟩ := Option.isSome_iff_exists.mp (Bool.and_eq_true_iff.mp h).1
      simp [hgs, his]
    · simp at h
  placed := rfl
  quiet := by
    unfold isReadable at h
    split at h
    · rename_i gs hgs
      simpa [hgs] using (Bool.and_eq_true_iff.mp h).2
    · simp at h

lemma quiet_blank : Quiet [.char ' '] := ⟨by decide, by simp, by simp [isDash]⟩

/-- Both, with a blank between them. -/
def beside (f g : Fragment) : Fragment where
  text := f.text ++ ' ' :: g.text
  glyphs := f.glyphs ++ .char ' ' :: g.glyphs
  items := f.items ++ g.items
  numbers := f.numbers ++ g.numbers
  reads := by
    rw [glyphsFrom_append f.reads fun _ => by simp, glyphsFrom_char (by decide), g.reads]
    rfl
  outline := outline?_blank f.outline g.outline
  placed := by rw [placeholders_blank, f.placed, g.placed]
  quiet := f.quiet.append (quiet_blank.append g.quiet)

@[simp] lemma text_beside (f g : Fragment) : (f.beside g).text = f.text ++ ' ' :: g.text := rfl

@[simp] lemma items_beside (f g : Fragment) : (f.beside g).items = f.items ++ g.items := rfl

@[simp] lemma numbers_beside (f g : Fragment) :
    (f.beside g).numbers = f.numbers ++ g.numbers := rfl

lemma glyphs?_eq {f : Fragment} {text : String} (h : f.text = text.toList) :
    glyphs? text = some f.glyphs := by
  rw [glyphs?, ← h, f.reads]

/-! ### Conditions -/

/-- The fragment is a condition of its own: no keyword stands in it outside of brackets. -/
def IsPlain (f : Fragment) : Prop := ∀ i ∈ f.items, i.isPlain = true

instance (f : Fragment) : Decidable f.IsPlain :=
  inferInstanceAs (Decidable (∀ i ∈ f.items, i.isPlain = true))

def andWord : Fragment := ofText "AND" (by decide)

/-- Conditions that must all hold. -/
def conjunction (f : Fragment) : List Fragment → Fragment
  | [] => f
  | g :: fs => f.beside (andWord.beside (conjunction g fs))

lemma clause?_of_isPlain {i : Item} (h : i.isPlain = true) : i.clause? = none := by
  simp only [Item.isPlain, Bool.and_eq_true, Option.isNone_iff_eq_none] at h
  exact h.1.1

lemma isKeyword_and_of_isPlain {i : Item} (h : i.isPlain = true) : i.isKeyword "AND" = false := by
  simp only [Item.isPlain, Bool.and_eq_true, Bool.not_eq_true'] at h
  exact h.1.2

lemma isKeyword_or_of_isPlain {i : Item} (h : i.isPlain = true) : i.isKeyword "OR" = false := by
  simp only [Item.isPlain, Bool.and_eq_true, Bool.not_eq_true'] at h
  exact h.2

/-- What joins conditions starts no clause, and is not OR. -/
lemma conjunction_items {f : Fragment} {fs : List Fragment} (hf : f.IsPlain)
    (hfs : ∀ g ∈ fs, g.IsPlain) :
    ∀ i ∈ (conjunction f fs).items, i.clause? = none ∧ i.isKeyword "OR" = false := by
  induction fs generalizing f with
  | nil => exact fun i hi => ⟨clause?_of_isPlain (hf i hi), isKeyword_or_of_isPlain (hf i hi)⟩
  | cons g fs ih =>
    intro i hi
    simp only [conjunction, items_beside, List.mem_append] at hi
    rcases hi with hi | hi | hi
    · exact ⟨clause?_of_isPlain (hf i hi), isKeyword_or_of_isPlain (hf i hi)⟩
    · obtain rfl : i = .word "AND".toList := List.mem_singleton.mp hi
      exact ⟨by decide, by decide⟩
    · exact ih (hfs g List.mem_cons_self) (fun h hh => hfs h (List.mem_cons_of_mem _ hh)) i hi

/-- Split at AND, a conjunction falls into the conditions it was made of. -/
lemma splitOnP_conjunction {f : Fragment} {fs : List Fragment} (hf : f.IsPlain)
    (hfs : ∀ g ∈ fs, g.IsPlain) :
    (conjunction f fs).items.splitOnP (Item.isKeyword "AND") = (f :: fs).map items := by
  induction fs generalizing f with
  | nil => exact List.splitOnP_eq_singleton fun i hi => isKeyword_and_of_isPlain (hf i hi)
  | cons g fs ih =>
    have hkeyword : (Item.word "AND".toList).isKeyword "AND" = true := by decide
    have hsplit := List.splitOnP_append_cons f.items (conjunction g fs).items hkeyword
    have hand : (conjunction f (g :: fs)).items
        = f.items ++ .word "AND".toList :: (conjunction g fs).items := rfl
    rw [hand, hsplit, List.splitOnP_eq_singleton fun i hi => isKeyword_and_of_isPlain (hf i hi),
      ih (hfs g List.mem_cons_self) fun h hh => hfs h (List.mem_cons_of_mem _ hh)]
    rfl

lemma numbers_conjunction (f : Fragment) (fs : List Fragment) :
    (conjunction f fs).numbers = (f :: fs).flatMap numbers := by
  induction fs generalizing f with
  | nil => simp [conjunction]
  | cons g fs ih =>
    have hand : andWord.numbers = [] := rfl
    simp [conjunction, ih, hand]

/-! ### Queries -/

def whereWord : Fragment := ofText "WHERE" (by decide)

/-- A query with its conditions. -/
def restrict (head : Fragment) : List Fragment → Fragment
  | [] => head
  | f :: fs => head.beside (whereWord.beside (conjunction f fs))

/-- The WHERE clause for conditions, if there are any. -/
def whereClause : List Fragment → List (String × List Item)
  | [] => []
  | f :: fs => [("WHERE", (conjunction f fs).items)]

lemma clauses_where {f : Fragment} {fs : List Fragment} (h : ∀ g ∈ f :: fs, g.IsPlain) :
    clauses (whereWord.beside (conjunction f fs)).items = ([], whereClause (f :: fs)) := by
  have hplain := conjunction_items (h f List.mem_cons_self)
    fun g hg => h g (List.mem_cons_of_mem _ hg)
  have hconj := clauses_append (fun i hi => (hplain i hi).1) []
  rw [List.append_nil] at hconj
  have hitems : (whereWord.beside (conjunction f fs)).items
      = .word "WHERE".toList :: (conjunction f fs).items := rfl
  have hkeyword : (Item.word "WHERE".toList).clause? = some "WHERE" := by decide
  rw [hitems, clauses, hkeyword, hconj]
  simp [clauses, whereClause]

lemma clauses_restrict (head : Fragment) {fs : List Fragment} (h : ∀ g ∈ fs, g.IsPlain) :
    clauses (restrict head fs).items
      = ((clauses head.items).1, (clauses head.items).2 ++ whereClause fs) := by
  cases fs with
  | nil => simp [restrict, whereClause]
  | cons f fs =>
    have hw := clauses_where h
    rw [restrict, items_beside, clauses_clause _ (by rw [hw]), hw]

/-- Outside of brackets the fragment has no conditions of its own, and does not say OR. -/
def IsFrame (f : Fragment) : Prop :=
  conditions f.items = [] ∧ ∀ i ∈ f.items, i.isKeyword "OR" = false

instance (f : Fragment) : Decidable f.IsFrame :=
  inferInstanceAs (Decidable (conditions f.items = [] ∧ ∀ i ∈ f.items, i.isKeyword "OR" = false))

/-- The conditions of a query are those it was made with. -/
lemma conditions_restrict {head : Fragment} {fs : List Fragment} {tail : List Item}
    (hhead : head.IsFrame) (htail : (clauses tail).1 = [] ∧ conditions tail = [])
    (h : ∀ g ∈ fs, g.IsPlain) :
    conditions ((restrict head fs).items ++ tail) = fs.map items := by
  obtain ⟨hhead, -⟩ := hhead
  unfold conditions at hhead htail ⊢
  rw [clauses_clause _ htail.1, clauses_restrict head h]
  simp only [List.filter_append, List.flatMap_append, hhead, htail.2, List.nil_append,
    List.append_nil]
  cases fs with
  | nil => rfl
  | cons f fs =>
    simp [whereClause, splitOnP_conjunction (h f List.mem_cons_self)
      fun g hg => h g (List.mem_cons_of_mem _ hg)]

lemma numbers_restrict (head : Fragment) (fs : List Fragment) :
    (restrict head fs).numbers = head.numbers ++ fs.flatMap numbers := by
  cases fs with
  | nil => simp [restrict]
  | cons f fs =>
    have hw : whereWord.numbers = [] := rfl
    simp [restrict, numbers_conjunction, hw]

/-- No condition makes a query say OR. -/
lemma noOr_restrict {head : Fragment} {fs : List Fragment} (hhead : head.IsFrame)
    (h : ∀ g ∈ fs, g.IsPlain) : ∀ i ∈ (restrict head fs).items, i.isKeyword "OR" = false := by
  intro i hi
  cases fs with
  | nil => exact hhead.2 i hi
  | cons f fs =>
    have hplain := conjunction_items (h f List.mem_cons_self)
      fun g hg => h g (List.mem_cons_of_mem _ hg)
    simp only [restrict, items_beside, List.mem_append] at hi
    rcases hi with hi | hi | hi
    · exact hhead.2 i hi
    · obtain rfl : i = .word "WHERE".toList := List.mem_singleton.mp hi
      decide
    · exact (hplain i hi).2

end Fragment

end Catalog.Sql
