import Catalog.Proofs.Store.Isolation
import Catalog.Proofs.Store.TaskHeeding

/-!
What a store makes of filters that it cannot compile. A strict store refuses them, a lenient one
goes on as if there were none. A call heeds its filter, and whether the store is strict, in nothing
but the predicate that comes of both, so these are conversations from the first word to the last.
-/

namespace Catalog

namespace Store

open Operation

/-- The same store, strict or lenient. -/
def withStrict (store : Store) (strict : Bool) : Store :=
  { store with options := { store.options with strictFilters := strict } }

/-! ### Predicates -/

lemma predicate?_of_isBlankText {store : Store} (anchor : String) {filter : String}
    (h : Text.isBlankText filter = true) : store.predicate? anchor filter = .ok none := by
  rw [predicate?, if_pos h]

lemma predicate?_empty (store : Store) (anchor : String) : store.predicate? anchor "" = .ok none :=
  predicate?_of_isBlankText anchor rfl

lemma predicate?_of_compile_error {store : Store} {anchor filter : String} {e : Filter.Error}
    (hblank : Text.isBlankText filter = false) (he : Filter.compile anchor filter = .error e) :
    store.predicate? anchor filter
      = if store.options.strictFilters then .error (.invalidFilter e) else .ok none := by
  rw [predicate?, hblank, he]
  rfl

/-- The filter counts for nothing: it is blank, or the store is lenient and cannot compile it. -/
def PassesOver (strict : Bool) (anchor filter : String) : Prop :=
  Text.isBlankText filter = true
    ∨ strict = false ∧ ∃ e, Filter.compile anchor filter = .error e

lemma PassesOver.predicate? {strict : Bool} {anchor filter : String}
    (h : PassesOver strict anchor filter) (store : Store) :
    (store.withStrict strict).predicate? anchor filter = .ok none := by
  rcases h with hblank | ⟨rfl, e, he⟩
  · exact predicate?_of_isBlankText anchor hblank
  · cases hblank : Text.isBlankText filter with
    | true => exact predicate?_of_isBlankText anchor hblank
    | false => exact predicate?_of_compile_error hblank he

lemma predicate?_withStrict_of_compile_ok {store : Store} {anchor filter sql : String}
    (h : Filter.compile anchor filter = .ok sql) (strict strict' : Bool) :
    (store.withStrict strict).predicate? anchor filter
      = (store.withStrict strict').predicate? anchor filter := by
  simp only [Store.predicate?, h]

/-! ### Calls under a predicate -/

section

variable {store : Store} {strict strict' : Bool} {filter filter' : String}

lemma list_withStrict_congr {s : Scope}
    (h : (store.withStrict strict).predicate? s.anchor filter
      = (store.withStrict strict').predicate? s.anchor filter') (token : String) (size : Int) :
    (store.withStrict strict).list s filter token size
      = (store.withStrict strict').list s filter' token size := by
  rw [list, list, h]
  rfl

lemma listOccurrencesIn_withStrict_congr {s : Scope}
    (h : (store.withStrict strict).predicate? s.anchor filter
      = (store.withStrict strict').predicate? s.anchor filter') (token : String) (size : Int) :
    (store.withStrict strict).listOccurrencesIn s filter token size
      = (store.withStrict strict').listOccurrencesIn s filter' token size := by
  rw [listOccurrencesIn, listOccurrencesIn, list_withStrict_congr h]

/-- **A call is what its predicate makes it.** -/
theorem Call.operation_withStrict_congr {c : Call}
    (h : (store.withStrict strict).predicate? c.anchor filter
      = (store.withStrict strict').predicate? c.anchor filter') (token : String) (size : Int) :
    c.operation (store.withStrict strict) filter token size
      = c.operation (store.withStrict strict') filter' token size := by
  cases c with
  | projects =>
    simp only [operation, listProjects, list_withStrict_congr (s := .projects) h]
  | notes p =>
    simp only [operation, listNotes, list_withStrict_congr (s := .notes p) h]
  | occurrences p =>
    simp only [operation, listOccurrences,
      listOccurrencesIn_withStrict_congr (s := .occurrences p) h]
  | noteOccurrences p i =>
    simp only [operation, listNoteOccurrences,
      listOccurrencesIn_withStrict_congr (s := .noteOccurrences p i) h]
  | summary p =>
    have h' : (store.withStrict strict).predicate? Filter.payloadAnchor filter
        = (store.withStrict strict').predicate? Filter.payloadAnchor filter' := h
    simp only [operation, summarize, h']

end

/-! ### Calls without a predicate -/

/-- The predicate that goes into the statement, if there is one. -/
def Statement.predicate? : Statement → Option String
  | .page _ predicate .. | .maxId _ predicate | .summary _ predicate => predicate
  | _ => none

lemma Program.Talks.sends {α : Type} {p : Program α} {es : List Exchange} {a : α} {st : Statement}
    (h : p.Talks es a) (hst : st ∈ statements es) : p.Sends st := by
  induction h with
  | done a => cases hst
  | @ask r next answer es a rest ih =>
    obtain ⟨e, he, hsent⟩ := List.mem_filterMap.mp hst
    rcases List.mem_cons.mp he with rfl | he
    · cases r with
      | send st' =>
        obtain rfl := Option.some.inj hsent
        exact .here next
      | _ => cases hsent
    · exact .later answer (ih (List.mem_filterMap.mpr ⟨e, he, hsent⟩))

lemma Call.sends_of_operation {c : Call} {store : Store} {filter token : String} {size : Int}
    {st : Statement} (h : (c.operation store filter token size).Sends st) :
    c.Sends store filter token size st := by
  cases c <;>
  · rw [operation, map_eq_pure_bind] at h
    rcases h.bind with h | ⟨a, h⟩
    · exact h
    · exact absurd h (not_sends_pure _)

/-- The predicate in a statement is the one of the filter. -/
lemma Call.predicate?_of_sends {c : Call} {store : Store} {filter token : String} {size : Int}
    {predicate : Option String} (hp : store.predicate? c.anchor filter = .ok predicate)
    {st : Statement} (h : c.Sends store filter token size st) :
    st.predicate? = none ∨ st.predicate? = predicate := by
  rcases sends_cases h with ⟨s, hs, h⟩ | ⟨p, i, rfl, rfl⟩ | ⟨p, predicate', rfl, hp', rfl⟩
  · obtain ⟨predicate', hp', hst⟩ := sends_list h
    rw [(anchor_of_scope? hs).1, hp] at hp'
    obtain rfl := Except.ok.inj hp'
    rcases hst with ⟨now, rfl⟩ | rfl | hst
    · exact .inr rfl
    · exact .inr rfl
    · simp only [List.mem_cons, List.not_mem_nil, or_false] at hst
      rcases hst with rfl | rfl | rfl <;> exact .inl rfl
  · exact .inl rfl
  · rw [hp] at hp'
    exact .inr (Except.ok.inj hp').symm

/-! ### Calls that are refused -/

/-- What is said and comes of a call whose filter is refused. Where the occurrences of a note are
listed, the note is looked for, and a failure there comes first; nothing else is said. -/
def Call.refused (peer : Peer) (past : List Exchange) (err : Error) :
    Call → List Exchange × Except Error Result
  | noteOccurrences p i =>
    let lookup := (getNote p i).run.talk peer past
    (lookup.1, lookup.2.bind fun _ => .error err)
  | _ => ([], .error err)

lemma Call.statements_refused {peer : Peer} {past : List Exchange} {err : Error} {c : Call}
    {st : Statement} (h : st ∈ statements (c.refused peer past err).1) :
    ∃ p i, c = noteOccurrences p i ∧ st = .searchNote p i := by
  cases c with
  | noteOccurrences p i =>
    exact ⟨p, i, rfl, sends_getNote ((Program.talks_talk peer past _).sends h)⟩
  | _ => cases h

lemma filterRefusal?_of_error {c : Call} {store : Store} {filter : String} {err : Error}
    (hp : store.predicate? c.anchor filter = .error err) :
    Task.filterRefusal? c store filter = some err := by
  cases h : Task.filterRefusal? c store filter with
  | none =>
    obtain ⟨predicate, hok⟩ := predicate?_of_filterRefusal?.2 h
    cases hok.symm.trans hp
  | some err' =>
    obtain rfl := Except.error.inj ((predicate?_of_filterRefusal?.1 err' h).symm.trans hp)
    rfl

lemma run_noteOccurrences_of_error {store : Store} {p i filter : String} {err : Error}
    (hp : store.predicate? Filter.payloadAnchor filter = .error err) (token : String) (size : Int) :
    ((Call.noteOccurrences p i).operation store filter token size).run
      = (getNote p i).run >>= fun r => .done (r.bind fun _ => .error err) := by
  have hlist : (store.listOccurrencesIn (.noteOccurrences p i) filter token size).run
      = .done (.error err) := by
    rw [listOccurrencesIn, run_bind_eq, run_list_of_error _ token size hp]
    rfl
  rw [Call.operation, map_eq_pure_bind, listNoteOccurrences, discard_bind, bind_assoc, run_bind_eq]
  congr 1
  funext r
  cases r with
  | error e => rfl
  | ok note =>
    rw [run_bind_eq, hlist]
    rfl

lemma run_call_of_error {c : Call} {store : Store} {filter : String} {err : Error}
    (hp : store.predicate? c.anchor filter = .error err) (hc : ∀ p i, c ≠ .noteOccurrences p i)
    (token : String) (size : Int) :
    (c.operation store filter token size).run = .done (.error err) := by
  have hrefusal := filterRefusal?_of_error hp
  refine run_call_of_refusal? token size ?_
  cases c with
  | noteOccurrences p i => exact absurd rfl (hc p i)
  | _ => exact hrefusal

/-- **A refused call** says what its refusal leaves it to say. -/
theorem Call.talk_of_error {c : Call} {store : Store} {filter : String} {err : Error}
    (hp : store.predicate? c.anchor filter = .error err) (token : String) (size : Int)
    (peer : Peer) (past : List Exchange) :
    (c.operation store filter token size).run.talk peer past = c.refused peer past err := by
  cases c with
  | noteOccurrences p i =>
    rw [run_noteOccurrences_of_error hp, Program.talk_bind]
    simp only [Program.talk, List.append_nil, refused]
  | _ =>
    rw [run_call_of_error hp (by simp)]
    rfl

/-- **Bad filters are passed over or refused.** A blank filter counts for nothing, and so does one
that a lenient store cannot compile: the call is the one without a filter, and no statement of it
has a predicate. A strict store refuses a filter that it cannot compile and says why; it sends
nothing, unless the call is for a note, which is looked for first. Under a filter that compiles it
makes no difference whether the store is strict. -/
theorem bad_filter_passed_over_or_refused (store : Store) (c : Call) (filter token : String)
    (size : Int) (peer : Peer) (past : List Exchange) :
    (∀ strict, PassesOver strict c.anchor filter →
      (c.operation (store.withStrict strict) filter token size).run.talk peer past
        = (c.operation (store.withStrict strict) "" token size).run.talk peer past
      ∧ ∀ st ∈ statements
          ((c.operation (store.withStrict strict) filter token size).run.talk peer past).1,
        st.predicate? = none)
    ∧ (∀ e, Text.isBlankText filter = false → Filter.compile c.anchor filter = .error e →
      (Error.invalidFilter e).code = .invalidArgument
      ∧ (Error.invalidFilter e).message = "Invalid filter: " ++ e.message
      ∧ (c.operation (store.withStrict true) filter token size).run.talk peer past
        = c.refused peer past (.invalidFilter e)
      ∧ ∀ st ∈ statements (c.refused peer past (.invalidFilter e)).1,
        ∃ p i, c = .noteOccurrences p i ∧ st = .searchNote p i)
    ∧ ∀ sql, Filter.compile c.anchor filter = .ok sql →
      (c.operation (store.withStrict true) filter token size).run.talk peer past
        = (c.operation (store.withStrict false) filter token size).run.talk peer past := by
  refine ⟨fun strict h => ⟨?_, fun st hst => ?_⟩, fun e hblank he => ⟨rfl, rfl, ?_, ?_⟩,
    fun sql hsql => ?_⟩
  · have hsame : (store.withStrict strict).predicate? c.anchor filter
        = (store.withStrict strict).predicate? c.anchor "" := by
      rw [h.predicate?, predicate?_empty]
    rw [Call.operation_withStrict_congr hsame]
  · have hsends := Call.sends_of_operation ((Program.talks_talk peer past _).sends hst)
    exact (or_self _).mp (Call.predicate?_of_sends (h.predicate? store) hsends)
  · exact Call.talk_of_error (predicate?_of_compile_error hblank he) token size peer past
  · exact fun st hst => Call.statements_refused hst
  · rw [Call.operation_withStrict_congr (predicate?_withStrict_of_compile_ok hsql true false)]

/-- A database with nothing in it. -/
def vacant : Peer := fun _ r =>
  match r with
  | .status => (none : Option Context.Interruption)
  | .send _ => Reply.answered (.rows [])
  | .clock => (⟨0, 0⟩ : Time)
  | .randomBlock => (.replicate 16 0 : Cipher.Block)
  | .freshId => ""

/-- A filter that breaks off, and one that does not. -/
theorem bad_filter_passed_over_or_refused_broken_off : ∃ e,
    Filter.compile Filter.payloadAnchor "kind = " = .error e
    ∧ ((Call.notes "p").operation (strictStore.withStrict true) "kind = " "" 0).run.talk vacant []
      = ([], .error (.invalidFilter e))
    ∧ (((Call.noteOccurrences "p" "n").operation (strictStore.withStrict true) "kind = " ""
        0).run.talk vacant []).2 = .error (missingNote "p" "n")
    ∧ ((Call.notes "p").operation (strictStore.withStrict false) "kind = " "" 0).run.talk vacant []
      = ((Call.notes "p").operation (strictStore.withStrict false) "" "" 0).run.talk vacant []
    ∧ ((Call.notes "p").operation (strictStore.withStrict true) "kind = 1" "" 0).run.talk vacant []
      = ((Call.notes "p").operation (strictStore.withStrict false) "kind = 1" "" 0).run.talk
        vacant [] := by
  have hblank : Text.isBlankText "kind = " = false := by decide +kernel
  have hbad : (Filter.compile Filter.payloadAnchor "kind = ").toOption = none := by decide +kernel
  have hgood : (Filter.compile Filter.payloadAnchor "kind = 1").toOption.isSome := by
    decide +kernel
  cases he : Filter.compile Filter.payloadAnchor "kind = " with
  | ok sql => simp [he, Except.toOption] at hbad
  | error e =>
    obtain ⟨sql, hsql⟩ := Option.isSome_iff_exists.mp hgood
    obtain ⟨hover, hrefused, -⟩ := bad_filter_passed_over_or_refused strictStore (.notes "p")
      "kind = " "" 0 vacant []
    obtain ⟨-, hlookup, -⟩ := bad_filter_passed_over_or_refused strictStore
      (.noteOccurrences "p" "n") "kind = " "" 0 vacant []
    obtain ⟨-, -, hsame⟩ := bad_filter_passed_over_or_refused strictStore (.notes "p")
      "kind = 1" "" 0 vacant []
    obtain ⟨-, -, htalk, -⟩ := hrefused e hblank he
    obtain ⟨-, -, htalk', -⟩ := hlookup e hblank he
    refine ⟨e, rfl, htalk, ?_, (hover false (.inr ⟨rfl, e, he⟩)).1,
      hsame sql (toOption_eq_some.mp hsql)⟩
    rw [htalk']
    rfl

end Store

end Catalog
