import Catalog.Proofs.Store.Simulation

/-!
A store answers like a registry, whatever it is asked, and however often.
-/

namespace Catalog.Store

open Catalog.Json Record

/-! ### Any number of jobs -/

variable {e : Engine}

lemma history_eq (he : e.Accepting) {jobs : List Job} (hjobs : ∀ j ∈ jobs, j.IsAdmissible)
    (drawn : ℕ) (hserial : ∀ n < drawn + jobs.length, (e.serial n).isSome) {t : Tables e}
    (ht : ∀ table, (t table).drawn ≤ drawn) {r : Registry} (h : Refines t r) :
    history (Job.run e) jobs t = history Job.specify jobs r := by
  induction jobs generalizing drawn t r with
  | nil => rfl
  | cons j jobs ih =>
    rw [List.length_cons] at hserial
    have hagrees : j.Agrees e t r := Job.agrees he h (hjobs j List.mem_cons_self) fun table =>
      hserial _ (by have := ht table; omega)
    have hrest := ih (fun j' hj' => hjobs j' (List.mem_cons_of_mem _ hj')) (drawn + 1)
      (fun n hn => hserial n (by omega))
      (fun table => (hagrees.drawn_le table).trans (Nat.succ_le_succ (ht table))) hagrees.refines
    rw [history, history, hagrees.answer_eq, hrest]

/-- **A store is a registry** for records in whose details nothing has the raw name. With an engine
that takes all texts without NUL and has ids for all rows, every answer is the one of a set of
projects and of two maps, of notes and of occurrences; and a client gets the record that the last
successful creation or update answered, unless it was deleted since. -/
theorem store_refines_registry (e : Engine) (he : e.Accepting) (jobs : List Job)
    (hjobs : ∀ j ∈ jobs, j.IsAdmissible) (hserial : ∀ n < jobs.length, (e.serial n).isSome) :
    history (Job.run e) jobs .empty = history Job.specify jobs .empty
      ∧ ∀ before a answer rest,
        history (Job.run e) jobs .empty = before ++ (a, answer) :: rest →
          (∀ p i, a = .getNote p i → answer
            = (lastNote p i before).elim (.error (missingNote p i)) (.ok ∘ .note))
          ∧ ∀ p i, a = .getOccurrence p i → answer
            = (lastOccurrence p i before).elim (.error (missingOccurrence p i))
              (.ok ∘ .occurrence) := by
  have hequal : history (Job.run e) jobs .empty = history Job.specify jobs .empty :=
    history_eq he hjobs 0 (by simpa using hserial) (fun _ => le_rfl) Refines.empty
  refine ⟨hequal, fun before a answer rest hhistory => ?_⟩
  rw [hequal] at hhistory
  exact Registry.get_eq_last Registry.recalls_empty hhistory

/-! ### A note at work -/

lemma read?_ofList {cs : List Char} {s : Shape} (h : tokens? cs = some s.tokens) :
    read? (String.ofList cs) = some s := by
  rw [read?, String.toList_ofList, h]
  exact Reader.run_start s

/-- The first two members of three in the other order. -/
lemma shows_swap {a b c : Option String × Shape} {v : Json} (h : Shows (.object [a, b, c]) v) :
    Shows (.object [b, a, c]) v := by
  cases h with
  | object entries left right names values =>
    match entries with
    | [x, y, z] =>
      simp only [List.map_cons, List.map_nil, List.cons.injEq, and_true] at left
      obtain ⟨rfl, rfl, rfl⟩ := left
      refine .object [y, x, z] rfl (right.trans (List.Perm.swap _ _ _)) names ?_
      simpa [and_left_comm] using values

/-- A note of which nothing is said. -/
def blankNote : Note := ⟨"", "", "", .unspecified, [], none, none, none, [], []⟩

lemma storable_blankNote : IsStorable blankNote where
  readable := ⟨by simp [LawfulPayload.times, Note.times, blankNote],
    ⟨.nil, by simp [Payload.details, blankNote], by simp [Payload.details, blankNote]⟩⟩
  whole := by
    have h : Whole (.object [("name", .string ""), ("kind", .string Kind.unspecified.word)]) :=
      .object (by simpa using ⟨.string _, .string _⟩)
    exact h
  plain := by simp [IsPlain, Payload.details, blankNote]
  clean := by
    have h : Clean (.object [("name", .string ""), ("kind", .string Kind.unspecified.word)]) :=
      .object (by decide) (by simpa using ⟨.string (by decide), .string (by decide)⟩)
    exact h

/-- The blank note as it is sent to the database, and as it comes back. -/
def sentNote : List Char :=
  "\x7b\"name\":\"projects/p/notes/it's/1\",\"kind\":\"NOTE_KIND_UNSPECIFIED\",".toList
    ++ "\"create_time\":\"1970-01-01T00:00:00Z\"\x7d".toList

def returnedNote : List Char :=
  "\x7b\"kind\": \"NOTE_KIND_UNSPECIFIED\", \"name\": \"projects/p/notes/it's/1\", ".toList
    ++ "\"create_time\": \"1970-01-01T00:00:00Z\"\x7d".toList

/-- A database that sorts the members of objects by the lengths of their names. -/
def sortingEngine : Engine :=
  .keeping (fun text => if text = String.ofList sentNote then String.ofList returnedNote else text)
    fun {text v} h => by
      have hsent : read? (String.ofList sentNote) = some (.object
          [(some "name", .string (some "projects/p/notes/it's/1")),
            (some "kind", .string (some "NOTE_KIND_UNSPECIFIED")),
            (some "create_time", .string (some "1970-01-01T00:00:00Z"))]) :=
        read?_ofList (by decide +kernel)
      have hreturned : read? (String.ofList returnedNote) = some (.object
          [(some "kind", .string (some "NOTE_KIND_UNSPECIFIED")),
            (some "name", .string (some "projects/p/notes/it's/1")),
            (some "create_time", .string (some "1970-01-01T00:00:00Z"))]) :=
        read?_ofList (by decide +kernel)
      split
      · rename_i htext
        obtain ⟨s, hs, hshows⟩ := htext ▸ h
        rw [hsent] at hs
        obtain rfl := Option.some.inj hs
        exact ⟨_, hreturned, shows_swap hshows⟩
      · exact h

lemma accepting_sortingEngine : sortingEngine.Accepting :=
  ⟨fun _ _ => rfl, fun _ _ _ _ _ => ⟨rfl, rfl⟩⟩

example : (createdNote "p" "it's/1" ⟨0, 0⟩ blankNote).payload = String.ofList sentNote := by
  decide +kernel

/-- A note is created twice, and read before and after it is deleted. -/
def noteJobs : List Job :=
  [.createNote "p" "it's/1" blankNote, .getNote "p" "it's/1", .createNote "p" "it's/1" blankNote,
    .deleteNote "p" "it's/1", .getNote "p" "it's/1"].map fun a =>
      ⟨a, ⟨0, 0⟩, ⟨by decide, by decide, by decide⟩, "made"⟩

theorem store_refines_registry_note :
    history (Job.run sortingEngine) noteJobs .empty
      = [(.createNote "p" "it's/1" blankNote,
          .ok (.note (createdNote "p" "it's/1" ⟨0, 0⟩ blankNote))),
        (.getNote "p" "it's/1", .ok (.note (createdNote "p" "it's/1" ⟨0, 0⟩ blankNote))),
        (.createNote "p" "it's/1" blankNote,
          .error (.alreadyExists .note "projects/p/notes/it's/1")),
        (.deleteNote "p" "it's/1", .ok .removed),
        (.getNote "p" "it's/1", .error (.missing .note "projects/p/notes/it's/1"))] := by
  have hjobs : ∀ j ∈ noteJobs, j.IsAdmissible := by
    have hclean : IsClean "p" ∧ IsClean "it's/1" ∧ IsClean "made" := by decide
    simp [noteJobs, Job.IsAdmissible, Action.IsAdmissible, hclean, storable_blankNote.given,
      storable_blankNote.clean]
  rw [(store_refines_registry sortingEngine accepting_sortingEngine noteJobs hjobs
    (by decide)).1]
  rfl

/-! ### A note that is lost -/

/-- A note with an object in its details that has a member of the raw name, and another whose name
is longer: a database that sorts names by their lengths leaves the raw name in front. -/
def rawNote : Note :=
  ⟨"", "", "", .unspecified, [], none, none, none, [],
    [("x", .object [(rawName, .string "nope"), ("vulnerability_assessment_details", .null)])]⟩

/-- A text of the note. -/
def rawNoteText : List Char :=
  "\x7b\"x\":\x7b\"vulnerability_assessment_details\":null,".toList
    ++ "\"$serde_json::private::RawValue\":\"nope\"\x7d\x7d".toList

lemma ofPayload?_rawNoteText : Note.ofPayload? (String.ofList rawNoteText) = some rawNote := by
  have hread : read? (String.ofList rawNoteText) = some (.object [(some "x", .object
      [(some "vulnerability_assessment_details", .null),
        (some rawName, .string (some "nope"))])]) :=
    read?_ofList (by decide +kernel)
  have hnames : "vulnerability_assessment_details" ≠ rawName
      ∧ rawName < "vulnerability_assessment_details" := by decide +kernel
  rw [Note.ofPayload?, Payload.ofText?, hread, Option.bind_some]
  simp [Payload.read?, Payload.fieldNames, Payload.make?, Shape.flatten?, Shape.named?,
    Shape.single?, Shape.value?, Shape.members?, Shape.isRaw, Shape.withDefault, sortMembers,
    Json.insert, maxDepth, hnames, text?, optionalTime?]
  rfl

lemma whole_rawNote : Whole rawNote.toJson := by
  refine whole_toJson fun m hm => ?_
  obtain rfl := List.mem_singleton.mp hm
  exact .object (by simpa using ⟨.string _, .null⟩)

lemma clean_rawNote : Clean rawNote.toJson := by
  have h : Clean (.object [("name", .string ""), ("kind", .string Kind.unspecified.word),
      ("x", .object [(rawName, .string "nope"), ("vulnerability_assessment_details", .null)])]) :=
    .object (by decide) (by
      simpa using ⟨.string (by decide), .string (by decide),
        .object (by decide) (by simpa using ⟨.string (by decide), .null⟩)⟩)
  exact h

/-- The note as it is stored. -/
def storedRawNote : Note := createdNote "p" "n" ⟨0, 0⟩ rawNote

lemma ofPayload?_storedRawNote : Note.ofPayload? storedRawNote.payload = none := by
  have h : (Note.ofPayload? storedRawNote.payload).isNone = true := by decide +kernel
  exact Option.isNone_iff_eq_none.mp h

/-- A database that gives JSON back as it was written. -/
def verbatimEngine : Engine := .keeping id fun h => h

/-- The note is created. -/
def creation : Job := ⟨.createNote "p" "n" rawNote, ⟨0, 0⟩, valid_start, "made"⟩

/-- The note is asked for. -/
def retrieval : Job := ⟨.getNote "p" "n", ⟨0, 0⟩, valid_start, "made"⟩

lemma exists_run_creation :
    ∃ t, creation.run verbatimEngine .empty = (.ok (.note storedRawNote), t)
      ∧ t.payload? "notes" (noteKeys "p" "n") = some storedRawNote.payload := by
  have htakes : ∀ s ∈ ["p", "n", (createdNote "p" "n" ⟨0, 0⟩ rawNote).payload],
      verbatimEngine.takes s := fun _ _ => rfl
  obtain ⟨c', hrun, hputs⟩ := (creation.calm_service verbatimEngine).createNote
    (c := ⟨0, .empty⟩) rfl rfl htakes rfl
  exact ⟨c'.tables, Job.run_eq rfl hrun, hputs.self⟩

theorem store_refines_registry_rawNamed :
    (∃ text, Note.ofPayload? text = some rawNote) ∧ Whole rawNote.toJson ∧ Clean rawNote.toJson
      ∧ history (Job.run verbatimEngine) [creation, retrieval] .empty
        = [(.createNote "p" "n" rawNote, .ok (.note storedRawNote)),
          (.getNote "p" "n", .error (.unreadable .note))]
      ∧ history Job.specify [creation, retrieval] .empty
        = [(.createNote "p" "n" rawNote, .ok (.note storedRawNote)),
          (.getNote "p" "n", .ok (.note storedRawNote))] := by
  refine ⟨⟨_, ofPayload?_rawNoteText⟩, whole_rawNote, clean_rawNote, ?_, rfl⟩
  obtain ⟨t, hcreate, hpayload⟩ := exists_run_creation
  have htakes : ∀ s ∈ ["p", "n"], verbatimEngine.takes s := fun _ _ => rfl
  obtain ⟨c', -, hget⟩ := (retrieval.calm_service verbatimEngine).getNote htakes ⟨0, t⟩
  rw [hpayload, Option.elim_some, noteOfPayload, ofPayload?_storedRawNote] at hget
  have hanswer := Job.run_eq (j := retrieval) rfl hget
  simp only [history, hcreate, hanswer]
  rfl

end Catalog.Store
