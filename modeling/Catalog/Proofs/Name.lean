import Catalog.Name
import Catalog.Proofs.Text.Split

/-!
Names and what they are made of. A name says its parts if none of them is empty or has a slash.
-/

namespace Catalog.Name

open Catalog.Text

/-- The text can stand between slashes. -/
def IsPart (s : String) : Prop := s ≠ "" ∧ '/' ∉ s.toList

instance : DecidablePred IsPart := fun s => inferInstanceAs (Decidable (s ≠ "" ∧ '/' ∉ s.toList))

lemma toList_child (c : Child) (p i : String) :
    (child c p i).toList = "projects".toList ++ '/' :: (p.toList ++ '/' ::
      (c.collection.toList ++ '/' :: i.toList)) := by
  have hhead : "projects/".toList = "projects".toList ++ ['/'] := by decide
  have hslash : "/".toList = ['/'] := by decide
  simp only [child, String.toList_append, hhead, hslash, List.append_assoc, List.cons_append,
    List.nil_append]

lemma not_mem_collection (c : Child) : '/' ∉ c.collection.toList := by cases c <;> decide

lemma splitAt_child {c : Child} {p i : String} (hp : '/' ∉ p.toList) (hi : '/' ∉ i.toList) :
    splitAt '/' (child c p i) = ["projects", p, c.collection, i] := by
  rw [splitAt, toList_child, pieces_append (by decide), pieces_append hp,
    pieces_append (not_mem_collection c), pieces_of_notMem hi]
  simp only [List.map_cons, List.map_nil, String.ofList_toList]

lemma splitAt_project {p : String} (hp : '/' ∉ p.toList) :
    splitAt '/' (project p) = ["projects", p] := by
  have hhead : "projects/".toList = "projects".toList ++ ['/'] := by decide
  rw [splitAt, project, String.toList_append, hhead, List.append_assoc, List.singleton_append,
    pieces_append (by decide), pieces_of_notMem hp]
  simp only [List.map_cons, List.map_nil, String.ofList_toList]

/-- The segments of a name are its parts, if all of them can be parts. -/
lemma segments?_eq_some_iff {name : String} {parts : List String} :
    segments? name = some parts ↔ splitAt '/' name = parts ∧ ∀ s ∈ parts, IsPart s := by
  have hslash : ∀ s ∈ splitAt '/' name, '/' ∉ s.toList := by
    intro s hs
    obtain ⟨piece, hpiece, rfl⟩ := List.mem_map.mp hs
    rw [String.toList_ofList]
    exact not_mem_pieces _ piece hpiece
  rw [segments?]
  simp only [List.contains_iff_mem, Option.ite_none_left_eq_some, Option.some.injEq]
  constructor
  · rintro ⟨hempty, rfl⟩
    exact ⟨rfl, fun s hs => ⟨fun h => hempty (h ▸ hs), hslash s hs⟩⟩
  · rintro ⟨rfl, hparts⟩
    exact ⟨fun h => (hparts "" h).1 rfl, rfl⟩

/-- **What is read of a name** is what it was made of. -/
lemma parseChild_eq_ok_iff {c : Child} {name p i : String} :
    parseChild c name = .ok (p, i) ↔ name = child c p i ∧ IsPart p ∧ IsPart i := by
  constructor
  · intro h
    unfold parseChild at h
    split at h
    · rename_i p' collection i' hsegments
      split at h
      · rename_i hcollection
        obtain ⟨rfl, rfl⟩ := Prod.mk.inj (Except.ok.inj h)
        subst hcollection
        obtain ⟨hsplit, hparts⟩ := segments?_eq_some_iff.mp hsegments
        have hp : IsPart p' := hparts p' (by simp)
        have hi : IsPart i' := hparts i' (by simp)
        exact ⟨splitAt_inj (hsplit.trans (splitAt_child hp.2 hi.2).symm), hp, hi⟩
      · cases h
    · cases h
  · rintro ⟨rfl, hp, hi⟩
    have hsegments : segments? (child c p i) = some ["projects", p, c.collection, i] := by
      refine segments?_eq_some_iff.mpr ⟨splitAt_child hp.2 hi.2, ?_⟩
      simp only [List.forall_mem_cons, List.not_mem_nil, false_imp_iff, implies_true, and_true]
      exact ⟨by decide, hp, ⟨by cases c <;> decide, not_mem_collection c⟩, hi⟩
    rw [parseChild, hsegments]
    exact if_pos rfl

/-- The name of a project says its id. -/
lemma parseProject_eq_ok_iff {name p : String} :
    parseProject name = .ok p ↔ name = project p ∧ IsPart p := by
  constructor
  · intro h
    unfold parseProject at h
    split at h
    · rename_i p' hsegments
      obtain rfl := Except.ok.inj h
      obtain ⟨hsplit, hparts⟩ := segments?_eq_some_iff.mp hsegments
      have hp : IsPart p' := hparts p' (by simp)
      exact ⟨splitAt_inj (hsplit.trans (splitAt_project hp.2).symm), hp⟩
    · cases h
  · rintro ⟨rfl, hp⟩
    have hsegments : segments? (project p) = some ["projects", p] := by
      refine segments?_eq_some_iff.mpr ⟨splitAt_project hp.2, ?_⟩
      simp only [List.forall_mem_cons, List.not_mem_nil, false_imp_iff, implies_true, and_true]
      exact ⟨by decide, hp⟩
    rw [parseProject, hsegments]
    rfl

/-- A text that is no name of its kind is refused with the kind and the text itself. -/
lemma parseChild_eq_error {c : Child} {name : String} (h : ∀ ids, parseChild c name ≠ .ok ids) :
    parseChild c name = .error ⟨.child c, name⟩ := by
  unfold parseChild at h ⊢
  split
  · split
    · rename_i hsegments hcollection
      exact absurd (by rw [hsegments]; exact if_pos hcollection) (h _)
    · rfl
  · rfl

lemma parseProject_eq_error {name : String} (h : ∀ id, parseProject name ≠ .ok id) :
    parseProject name = .error ⟨.project, name⟩ := by
  unfold parseProject at h ⊢
  split
  · rename_i hsegments
    exact absurd (by rw [hsegments]; rfl) (h _)
  · rfl

lemma count_child (c : Child) (p i : String) :
    (child c p i).toList.count '/' = p.toList.count '/' + i.toList.count '/' + 3 := by
  have hprojects : "projects".toList.count '/' = 0 := by decide
  have hcollection := List.count_eq_zero.mpr (not_mem_collection c)
  rw [toList_child]
  simp only [List.count_append, List.count_cons_self, hprojects, hcollection]
  omega

/-- A text that says its parts is the name of those parts only. -/
lemma eq_child_iff {c : Child} {name p i q m : String} (h : parseChild c name = .ok (q, m)) :
    name = child c p i ↔ q = p ∧ m = i := by
  obtain ⟨rfl, hq, hm⟩ := parseChild_eq_ok_iff.mp h
  refine ⟨fun heq => ?_, by rintro ⟨rfl, rfl⟩; rfl⟩
  have hcount := congrArg (fun s : String => s.toList.count '/') heq
  simp only [count_child, List.count_eq_zero.mpr hq.2, List.count_eq_zero.mpr hm.2] at hcount
  have hp : '/' ∉ p.toList := List.count_eq_zero.mp (by omega)
  have hi : '/' ∉ i.toList := List.count_eq_zero.mp (by omega)
  have hsplit := congrArg (splitAt '/') heq
  rw [splitAt_child hq.2 hm.2, splitAt_child hp hi] at hsplit
  simpa using hsplit

lemma project_injective : Function.Injective project := by
  intro i j h
  have hlist := congrArg String.toList h
  simp only [project, String.toList_append, List.append_cancel_left_eq] at hlist
  exact String.toList_injective hlist

/-! ### Reading back -/

/-- Ids that can be parts are read back from their name; of other ids the name is refused. -/
lemma parseChild_child (c : Child) (p i : String) : parseChild c (child c p i)
    = if IsPart p ∧ IsPart i then .ok (p, i) else .error ⟨.child c, child c p i⟩ := by
  split
  · rename_i hparts
    exact parseChild_eq_ok_iff.mpr ⟨rfl, hparts⟩
  · rename_i hparts
    refine parseChild_eq_error fun ⟨q, j⟩ hread => hparts ?_
    obtain ⟨rfl, rfl⟩ := (eq_child_iff hread).mp rfl
    exact (parseChild_eq_ok_iff.mp hread).2

lemma parseProject_project (p : String) : parseProject (project p)
    = if IsPart p then .ok p else .error ⟨.project, project p⟩ := by
  split
  · rename_i hpart
    exact parseProject_eq_ok_iff.mpr ⟨rfl, hpart⟩
  · rename_i hpart
    refine parseProject_eq_error fun q hread => hpart ?_
    obtain ⟨hname, hq⟩ := parseProject_eq_ok_iff.mp hread
    rwa [project_injective hname]

/-- The text is read as a name of the kind. -/
def Accepts : Kind → String → Prop
  | .project, name => ∃ p, parseProject name = .ok p
  | .child c, name => ∃ ids, parseChild c name = .ok ids

/-- The parts of an accepted name are as many as its kind has, and say the kind. -/
lemma Accepts.segments {k : Kind} {name : String} (h : Accepts k name) :
    (splitAt '/' name)[2]? = match k with
      | .project => none
      | .child c => some c.collection := by
  cases k with
  | project =>
    obtain ⟨p, hread⟩ := h
    obtain ⟨rfl, hp⟩ := parseProject_eq_ok_iff.mp hread
    rw [splitAt_project hp.2]
    rfl
  | child c =>
    obtain ⟨⟨p, i⟩, hread⟩ := h
    obtain ⟨rfl, hp, hi⟩ := parseChild_eq_ok_iff.mp hread
    rw [splitAt_child hp.2 hi.2]
    rfl

/-- No text is a name of two kinds. -/
lemma Accepts.unique {k k' : Kind} {name : String} (h : Accepts k name) (h' : Accepts k' name) :
    k = k' := by
  have hsame := h.segments.symm.trans h'.segments
  cases k with
  | project =>
    cases k' with
    | project => rfl
    | child c' => cases hsame
  | child c =>
    cases k' with
    | project => cases hsame
    | child c' =>
      have hcollection : c.collection = c'.collection := Option.some.inj hsame
      cases c <;> cases c' <;> simp [Child.collection] at hcollection ⊢

/-- **Names say their ids.** A name is read back as the ids that it was made of if they are not
empty and have no slash, and is refused otherwise. A text that is read is the name of what is read
of it; it is a name of one kind only; and ids that can be parts of a name share it with no
others. -/
theorem names_say_ids :
    (∀ c p i, parseChild c (child c p i)
      = if IsPart p ∧ IsPart i then .ok (p, i) else .error ⟨.child c, child c p i⟩)
    ∧ (∀ p, parseProject (project p)
      = if IsPart p then .ok p else .error ⟨.project, project p⟩)
    ∧ (∀ c name p i, parseChild c name = .ok (p, i) → child c p i = name ∧ IsPart p ∧ IsPart i)
    ∧ (∀ name p, parseProject name = .ok p → project p = name ∧ IsPart p)
    ∧ (∀ name k k', Accepts k name → Accepts k' name → k = k')
    ∧ (∀ c p i q j, IsPart p → IsPart i → child c p i = child c q j → p = q ∧ i = j)
    ∧ ∀ p q, project p = project q → p = q := by
  refine ⟨parseChild_child, parseProject_project, fun c name p i h => ?_, fun name p h => ?_,
    fun name k k' => Accepts.unique, fun c p i q j hp hi h => ?_,
    fun p q h => project_injective h⟩
  · obtain ⟨hname, hparts⟩ := parseChild_eq_ok_iff.mp h
    exact ⟨hname.symm, hparts⟩
  · obtain ⟨hname, hpart⟩ := parseProject_eq_ok_iff.mp h
    exact ⟨hname.symm, hpart⟩
  · have hread : parseChild c (child c p i) = .ok (p, i) := parseChild_eq_ok_iff.mpr ⟨rfl, hp, hi⟩
    exact (eq_child_iff hread).mp h

/-- An id that looks like the rest of a name is not split. Another name is read as what it is made
of, is of no other kind, and belongs to no other ids. -/
theorem names_say_ids_nested :
    parseChild .note (note "a/notes/b" "c")
      = .error ⟨.child .note, "projects/a/notes/b/notes/c"⟩
    ∧ parseChild .note "projects/p/notes/projects" = .ok ("p", "projects")
    ∧ note "p" "projects" = "projects/p/notes/projects"
    ∧ (∀ k, Accepts k "projects/p/notes/projects" → k = .child .note)
    ∧ ∀ q j, note q j = "projects/p/notes/projects" → q = "p" ∧ j = "projects" := by
  obtain ⟨hchild, -, hread, -, honly, hinjective, -⟩ := names_say_ids
  have hnested := hchild .note "a/notes/b" "c"
  rw [if_neg (by decide)] at hnested
  have hplain := hchild .note "p" "projects"
  rw [if_pos (by decide)] at hplain
  refine ⟨hnested, hplain, (hread .note _ _ _ hplain).1, fun k hk => ?_, fun q j h => ?_⟩
  · exact honly _ k (.child .note) hk ⟨_, hplain⟩
  · obtain ⟨rfl, rfl⟩ := hinjective .note "p" "projects" q j (by decide) (by decide) h.symm
    exact ⟨rfl, rfl⟩

end Catalog.Name
