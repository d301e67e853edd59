import Mathlib.Data.List.MinMax
import Mathlib.Tactic.Common
import Catalog.Context

/-!
What a context has been through decides what it does. A script of steps is followed event by
event, and the events alone say which deadlines hold, what became of the caller's handle and how
work ends; the states of the context agree with them throughout.
-/

namespace Catalog.Context

/-! ### Events -/

/-- What happens to a context. -/
inductive Event
  /-- A new context, with a deadline, in place of the one before. -/
  | created (deadline : ℕ)
  | bounded (deadline : ℕ)
  /-- A new handle in place of the one before. -/
  | attached
  | cancelled
  /-- The handle is given away, to cancel at an instant. -/
  | scheduled (instant : ℕ)
  | dropped
  /-- Time goes by up to an instant. -/
  | passed (instant : ℕ)
  /-- Work is turned away. -/
  | refused

/-- The deadlines that were given to the context, the latest first, as are all events. -/
def deadlines : List Event → List ℕ
  | [] => []
  | .created d :: _ => [d]
  | .bounded d :: es => d :: deadlines es
  | _ :: es => deadlines es

/-- The context has a handle, and nothing was done with it. -/
def Held : List Event → Prop
  | .attached :: _ => True
  | .bounded _ :: es | .passed _ :: es | .refused :: es => Held es
  | _ => False

/-- The handle will cancel at an instant that is still to come. -/
def Due (t : ℕ) : List Event → Prop
  | [] | .created _ :: _ | .attached :: _ => False
  | .scheduled u :: es => Held es ∧ u = t ∨ Due t es
  | .passed u :: es => u < t ∧ Due t es
  | _ :: es => Due t es

/-- A cancel went through the handle, at once or at its instant. -/
def Cancelled : List Event → Prop
  | [] | .created _ :: _ | .attached :: _ => False
  | .cancelled :: es => Held es ∨ Cancelled es
  | .passed u :: es => (∃ t ≤ u, Due t es) ∨ Cancelled es
  | _ :: es => Cancelled es

/-- The handle was dropped before it was used. -/
def Dropped : List Event → Prop
  | [] | .created _ :: _ | .attached :: _ => False
  | .dropped :: es => Held es ∨ Dropped es
  | _ :: es => Dropped es

/-! ### States -/

lemma State.elapse_scheduled (s : State) (u t : ℕ) :
    (s.elapse u).signal = some (.scheduled t) ↔ u < t ∧ s.signal = some (.scheduled t) := by
  rcases hs : s.signal with _ | (_ | due | _ | _)
  case some.scheduled =>
    by_cases hdue : due ≤ u <;> simp [State.elapse, hs, hdue] <;> omega
  all_goals simp [State.elapse, hs]

lemma State.elapse_fired (s : State) (u : ℕ) :
    (s.elapse u).signal = some .fired ↔
      (∃ t ≤ u, s.signal = some (.scheduled t)) ∨ s.signal = some .fired := by
  rcases hs : s.signal with _ | (_ | due | _ | _)
  case some.scheduled =>
    by_cases hdue : due ≤ u <;> simp [State.elapse, hs, hdue]
  all_goals simp [State.elapse, hs]

/-- A handle that is held, or was dropped, is none that time does anything to. -/
lemma State.elapse_idle (s : State) (u : ℕ) {σ : Signal} (h : σ = .held ∨ σ = .dropped) :
    (s.elapse u).signal = some σ ↔ s.signal = some σ := by
  rcases hs : s.signal with _ | (_ | due | _ | _)
  case some.scheduled =>
    rcases h with rfl | rfl <;> by_cases hdue : due ≤ u <;> simp [State.elapse, hs, hdue]
  all_goals simp [State.elapse, hs]

/-- What a state holds is what the events say. -/
structure Agrees (s : State) (es : List Event) : Prop where
  deadline : s.deadline = (deadlines es).min?
  held : s.signal = some .held ↔ Held es
  scheduled : ∀ t, s.signal = some (.scheduled t) ↔ Due t es
  fired : s.signal = some .fired ↔ Cancelled es
  dropped : s.signal = some .dropped ↔ Dropped es

namespace Agrees

variable {s : State} {es : List Event}

lemma start : Agrees .start [] := by
  constructor <;> simp [State.start, deadlines, Held, Due, Cancelled, Dropped]

lemma created (s : State) (es : List Event) (d : ℕ) :
    Agrees { s with deadline := some d, signal := none } (.created d :: es) := by
  constructor <;> simp [deadlines, Held, Due, Cancelled, Dropped]

lemma bounded (h : Agrees s es) (d : ℕ) :
    Agrees { s with deadline := some (s.deadline.elim d (min d)) } (.bounded d :: es) where
  deadline := by
    rw [deadlines, List.min?_cons, h.deadline]
  held := h.held
  scheduled := h.scheduled
  fired := h.fired
  dropped := h.dropped

lemma attached (h : Agrees s es) : Agrees { s with signal := some .held } (.attached :: es) where
  deadline := h.deadline
  held := by simp [Held]
  scheduled := by simp [Due]
  fired := by simp [Cancelled]
  dropped := by simp [Dropped]

lemma refused (h : Agrees s es) : Agrees s (.refused :: es) where
  deadline := h.deadline
  held := h.held
  scheduled := h.scheduled
  fired := h.fired
  dropped := h.dropped

/-- What is done with a handle that is held takes it away, and without one nothing is done. -/
lemma used (h : Agrees s es) {next : Signal} {e : Event} (hnext : next ≠ .held)
    (hdeadlines : deadlines (e :: es) = deadlines es) (hheld : ¬ Held (e :: es))
    (hdue : ∀ t, Due t (e :: es) ↔ Held es ∧ next = .scheduled t ∨ Due t es)
    (hcancelled : Cancelled (e :: es) ↔ Held es ∧ next = .fired ∨ Cancelled es)
    (hdropped : Dropped (e :: es) ↔ Held es ∧ next = .dropped ∨ Dropped es) :
    Agrees (s.signalHeld next) (e :: es) := by
  by_cases hs : s.signal = some .held
  · rw [State.signalHeld, if_pos hs]
    constructor
    · rw [hdeadlines]
      exact h.deadline
    · simp [hheld, hnext]
    · intro t
      rw [hdue, ← h.held, ← h.scheduled]
      simp [hs]
    · rw [hcancelled, ← h.held, ← h.fired]
      simp [hs]
    · rw [hdropped, ← h.held, ← h.dropped]
      simp [hs]
  · rw [State.signalHeld, if_neg hs]
    constructor
    · rw [hdeadlines]
      exact h.deadline
    · simp [hheld, hs]
    · intro t
      rw [hdue, ← h.held, ← h.scheduled]
      simp [hs]
    · rw [hcancelled, ← h.held, ← h.fired]
      simp [hs]
    · rw [hdropped, ← h.held, ← h.dropped]
      simp [hs]

lemma cancelled (h : Agrees s es) : Agrees (s.signalHeld .fired) (.cancelled :: es) :=
  h.used Signal.noConfusion rfl not_false (by simp [Due]) (by simp [Cancelled])
    (by simp [Dropped])

lemma scheduledAt (h : Agrees s es) (t : ℕ) :
    Agrees (s.signalHeld (.scheduled t)) (.scheduled t :: es) :=
  h.used Signal.noConfusion rfl not_false (by simp [Due]) (by simp [Cancelled])
    (by simp [Dropped])

lemma droppedNow (h : Agrees s es) : Agrees (s.signalHeld .dropped) (.dropped :: es) :=
  h.used Signal.noConfusion rfl not_false (by simp [Due]) (by simp [Cancelled])
    (by simp [Dropped])

lemma passed (h : Agrees s es) (u : ℕ) : Agrees (s.elapse u) (.passed u :: es) where
  deadline := h.deadline
  held := (s.elapse_idle u (.inl rfl)).trans h.held
  scheduled t := by
    rw [State.elapse_scheduled, h.scheduled]
    rfl
  fired := by
    simp only [State.elapse_fired, h.scheduled, h.fired]
    rfl
  dropped := (s.elapse_idle u (.inr rfl)).trans h.dropped

end Agrees

/-! ### Scripts -/

/-- What a step is to the context, where the clock stands at an instant behind it. -/
def Step.event (s : State) (instant : ℕ) : Step → Event
  | timeout d => .created (s.clock + d)
  | deadline d => .bounded d
  | withSignal => .attached
  | cancel => .cancelled
  | cancelAfter d => .scheduled (s.clock + d)
  | drop => .dropped
  | advance d => .passed (s.clock + d)
  | run _ => if s.interruption?.isSome then .refused else .passed instant

/-- A step, with how long it is waited for where it is work; `State.step` waits for an hour. -/
abbrev Move := ℕ × Step

def State.move (s : State) (m : Move) : State := (s.stepWithin m.1 m.2).1

/-- The state behind some moves. -/
def State.follow (s : State) (ms : List Move) : State := ms.foldl State.move s

/-- The state and the events that a script leads to. -/
def history (script : List Move) : State × List Event :=
  script.foldl (fun h m => (h.1.move m, m.2.event h.1 (h.1.move m).clock :: h.2)) (.start, [])

lemma run_eq_refused {s : State} {i : Interruption} (h : s.interruption? = some i) (limit : ℕ)
    (w : Work) : s.run limit w = (s, .interrupted i) := by
  rw [State.run, h]

lemma run_eq_waited {s : State} (h : s.interruption? = none) (limit : ℕ) (w : Work) :
    s.run limit w = (s.elapse (s.firstEvent limit w).1, (s.firstEvent limit w).2) := by
  rw [State.run, h]

lemma run_fst (s : State) (limit : ℕ) (w : Work) :
    (s.run limit w).1 = s ∨ ∃ t, (s.run limit w).1 = s.elapse t := by
  cases hi : s.interruption? with
  | some i => exact .inl (by rw [run_eq_refused hi])
  | none => exact .inr ⟨_, by rw [run_eq_waited hi]⟩

/-- Every move keeps the states in agreement with the events. -/
lemma Agrees.move {s : State} {es : List Event} (h : Agrees s es) (m : Move) :
    Agrees (s.move m) (m.2.event s (s.move m).clock :: es) := by
  rcases m with ⟨limit, a⟩
  cases a with
  | timeout d => exact .created s es _
  | deadline d => exact h.bounded d
  | withSignal => exact h.attached
  | cancel => exact h.cancelled
  | cancelAfter d => exact h.scheduledAt _
  | drop => exact h.droppedNow
  | advance d => exact h.passed _
  | run w =>
    cases hi : s.interruption? with
    | some i =>
      have hmove : s.move (limit, .run w) = s := congrArg Prod.fst (run_eq_refused hi limit w)
      rw [hmove, Step.event, hi]
      exact h.refused
    | none =>
      have hmove : s.move (limit, .run w) = s.elapse (s.firstEvent limit w).1 :=
        congrArg Prod.fst (run_eq_waited hi limit w)
      rw [hmove, Step.event, hi]
      exact h.passed _

lemma agrees_history (script : List Move) : Agrees (history script).1 (history script).2 := by
  induction script using List.reverseRecOn with
  | nil => exact .start
  | append_singleton script m ih =>
    rw [history, List.foldl_concat]
    exact ih.move m

/-! ### Work -/

/-- What may end the wait for work that begins at an instant. -/
inductive Occurs (begin : ℕ) (es : List Event) (w : Work) : ℕ × Outcome → Prop
  | completion {d : ℕ} (duration : w.duration = some d) :
      Occurs begin es w (begin + d, w.failure.elim .finished .failed)
  | cancellation {t : ℕ} (due : Due t es) : Occurs begin es w (t, .interrupted .cancelled)
  | expiry {t : ℕ} (least : (deadlines es).min? = some t) :
      Occurs begin es w (t, .interrupted .deadlineExceeded)

lemma Agrees.mem_events {s : State} {es : List Event} (h : Agrees s es) (w : Work)
    {e : ℕ × Outcome} : e ∈ s.events w ↔ Occurs s.clock es w e := by
  simp only [State.events, List.mem_append, Option.mem_toList]
  constructor
  · rintro ((he | he) | he)
    · obtain ⟨d, hd, rfl⟩ := Option.map_eq_some_iff.mp he
      exact .completion hd
    · rw [State.cancellation?] at he
      split at he
      · rename_i t hs
        obtain rfl := Option.some.inj he
        exact .cancellation ((h.scheduled t).mp hs)
      · cases he
    · obtain ⟨d, hd, rfl⟩ := Option.map_eq_some_iff.mp he
      exact .expiry (h.deadline.symm.trans hd)
  · intro he
    cases he with
    | completion duration => exact .inl (.inl (by rw [State.completion?, duration]; rfl))
    | cancellation due =>
      exact .inl (.inr (by rw [State.cancellation?, (h.scheduled _).mpr due]))
    | expiry least => exact .inr (by rw [State.expiry?, h.deadline, least]; rfl)

/-- An event that comes before all others ends the wait. -/
lemma foldr_earlier {es : List (ℕ × Outcome)} {e last : ℕ × Outcome} (he : e ∈ es)
    (hfirst : ∀ f ∈ es, f = e ∨ e.1 < f.1) (hlast : e.1 ≤ last.1) :
    es.foldr State.earlier last = e := by
  have hnotLater : ∀ fs : List (ℕ × Outcome), (∀ f ∈ fs, f = e ∨ e.1 < f.1) →
      e.1 ≤ (fs.foldr State.earlier last).1 := by
    intro fs hfs
    induction fs with
    | nil => exact hlast
    | cons f fs ih =>
      rw [List.foldr_cons, State.earlier]
      split
      · exact ih fun g hg => hfs g (List.mem_cons_of_mem _ hg)
      · rcases hfs f List.mem_cons_self with rfl | hf
        · exact le_rfl
        · exact hf.le
  induction es with
  | nil => simp at he
  | cons f fs ih =>
    have hrest : ∀ g ∈ fs, g = e ∨ e.1 < g.1 := fun g hg => hfirst g (List.mem_cons_of_mem _ hg)
    rw [List.foldr_cons, State.earlier]
    rcases hfirst f List.mem_cons_self with rfl | hf
    · rw [if_neg (Nat.not_lt.mpr (hnotLater fs hrest))]
    · rcases List.mem_cons.mp he with rfl | he
      · exact absurd hf (lt_irrefl _)
      · rw [ih he hrest, if_pos hf]

lemma Agrees.isCancelled {s : State} {es : List Event} (h : Agrees s es) :
    s.isCancelled = true ↔ Cancelled es := by
  rw [State.isCancelled, decide_eq_true_iff, h.fired]

lemma Agrees.isExpired {s : State} {es : List Event} (h : Agrees s es) :
    s.isExpired = true ↔ ∃ d ∈ deadlines es, d ≤ s.clock := by
  rw [State.isExpired, h.deadline, Option.any_eq_true]
  simp only [decide_eq_true_iff]
  constructor
  · rintro ⟨d, hd, hle⟩
    exact ⟨d, List.min?_mem hd, hle⟩
  · rintro ⟨d, hd, hle⟩
    obtain ⟨least, hleast⟩ := Option.isSome_iff_exists.mp (List.isSome_min?_of_mem hd)
    exact ⟨least, hleast, ((List.min?_eq_some_iff.mp hleast).2 d hd).trans hle⟩

lemma Agrees.interruption?_eq_none {s : State} {es : List Event} (h : Agrees s es)
    (hc : ¬ Cancelled es) (he : ∀ d ∈ deadlines es, s.clock < d) : s.interruption? = none := by
  have hexpired : ¬ s.isExpired = true := by
    rw [h.isExpired]
    rintro ⟨d, hd, hle⟩
    exact absurd (he d hd) (Nat.not_lt.mpr hle)
  rw [State.interruption?, if_neg (mt h.isCancelled.mp hc), if_neg hexpired]

/-! ### After an interruption -/

/-- The context stays interrupted by what work was interrupted by. -/
def State.Over (s : State) : Interruption → Prop
  | .cancelled => s.signal = some .fired
  | .deadlineExceeded => ∃ d, s.deadline = some d ∧ d ≤ s.clock

/-- The step leaves the context that was interrupted in place. -/
def Step.Keeps (i : Interruption) : Step → Prop
  | timeout _ => False
  | withSignal => i ≠ .cancelled
  | _ => True

lemma State.Over.interruption? {s : State} {i : Interruption} (h : s.Over i) :
    s.interruption? = some (if s.isCancelled then .cancelled else .deadlineExceeded) := by
  rw [State.interruption?]
  split
  · rfl
  · rename_i hnot
    cases i with
    | cancelled => simp [State.isCancelled, show s.signal = some .fired from h] at hnot
    | deadlineExceeded =>
      obtain ⟨d, hd, hle⟩ := h
      rw [if_pos (by simp [State.isExpired, hd, hle])]

lemma State.Over.move {s : State} {i : Interruption} (h : s.Over i) {m : Move}
    (hm : m.2.Keeps i) : (s.move m).Over i := by
  rcases m with ⟨limit, a⟩
  have hrun : ∀ w, s.move (limit, .run w) = s :=
    fun w => congrArg Prod.fst (run_eq_refused h.interruption? limit w)
  cases i with
  | cancelled =>
    have hs : s.signal = some .fired := h
    have hused : ∀ next, (s.signalHeld next).signal = some .fired := by
      intro next
      rw [State.signalHeld, if_neg (by simp [hs]), hs]
    cases a with
    | timeout d => exact hm.elim
    | deadline d => exact hs
    | withSignal => exact absurd rfl hm
    | cancel | cancelAfter | drop => exact hused _
    | advance d => exact (s.elapse_fired _).mpr (.inr hs)
    | run w => exact (hrun w).symm ▸ h
  | deadlineExceeded =>
    obtain ⟨d, hd, hle⟩ := h
    have hused : ∀ next, (s.signalHeld next).Over .deadlineExceeded := by
      intro next
      rw [State.signalHeld]
      split
      · exact ⟨d, hd, hle⟩
      · exact ⟨d, hd, hle⟩
    cases a with
    | timeout d => exact hm.elim
    | deadline d' =>
      exact ⟨min d' d, congrArg (fun o => some (Option.elim o d' (min d'))) hd,
        (min_le_right d' d).trans hle⟩
    | withSignal => exact ⟨d, hd, hle⟩
    | cancel | cancelAfter | drop => exact hused _
    | advance n => exact ⟨d, hd, hle.trans (Nat.le_add_right _ _)⟩
    | run w => exact (hrun w).symm ▸ ⟨d, hd, hle⟩

lemma State.Over.follow {s : State} {i : Interruption} (h : s.Over i) {ms : List Move}
    (hms : ∀ m ∈ ms, m.2.Keeps i) : (s.follow ms).Over i := by
  induction ms generalizing s with
  | nil => exact h
  | cons m ms ih =>
    exact ih (h.move (hms m List.mem_cons_self)) fun n hn => hms n (List.mem_cons_of_mem _ hn)

lemma State.over_of_interruption? {s : State} {i : Interruption} (h : s.interruption? = some i) :
    s.Over i := by
  rw [State.interruption?] at h
  split at h
  · rename_i hcancelled
    obtain rfl := Option.some.inj h
    have hs : s.signal = some .fired := of_decide_eq_true hcancelled
    exact hs
  · split at h
    · rename_i hexpired
      obtain rfl := Option.some.inj h
      obtain ⟨d, hd, hle⟩ := (Option.any_eq_true ..).mp hexpired
      exact ⟨d, hd, of_decide_eq_true hle⟩
    · cases h

lemma foldr_earlier_mem (es : List (ℕ × Outcome)) (last : ℕ × Outcome) :
    es.foldr State.earlier last ∈ last :: es := by
  induction es with
  | nil => exact List.mem_singleton_self _
  | cons e es ih =>
    rw [List.foldr_cons, State.earlier]
    split
    · rcases List.mem_cons.mp ih with heq | hmem
      · exact List.mem_cons.mpr (.inl heq)
      · exact List.mem_cons.mpr (.inr (List.mem_cons_of_mem _ hmem))
    · simp

/-- Interrupted work leaves the context over. -/
lemma over_run {s : State} {limit : ℕ} {w : Work} {i : Interruption}
    (h : (s.run limit w).2 = .interrupted i) : (s.run limit w).1.Over i := by
  cases hi : s.interruption? with
  | some j =>
    rw [run_eq_refused hi] at h ⊢
    obtain rfl := Outcome.interrupted.inj h
    exact s.over_of_interruption? hi
  | none =>
    rw [run_eq_waited hi] at h ⊢
    have hmem := foldr_earlier_mem (s.events w) (s.clock + limit, .pending)
    rw [← State.firstEvent] at hmem
    generalize s.firstEvent limit w = e at h hmem
    obtain ⟨t, o⟩ := e
    obtain rfl : o = .interrupted i := h
    simp only [State.events, List.mem_cons, List.mem_append, Option.mem_toList] at hmem
    rcases hmem with hmem | (hmem | hmem) | hmem
    · simp at hmem
    · obtain ⟨d, -, heq⟩ := Option.map_eq_some_iff.mp hmem
      cases hf : w.failure <;> simp [hf] at heq
    · rw [State.cancellation?] at hmem
      split at hmem
      · rename_i due hs
        simp only [Option.some.injEq, Prod.mk.injEq, Outcome.interrupted.injEq] at hmem
        obtain ⟨rfl, rfl⟩ := hmem
        exact (s.elapse_fired _).mpr (.inl ⟨_, le_rfl, hs⟩)
      · cases hmem
    · obtain ⟨d, hd, heq⟩ := Option.map_eq_some_iff.mp hmem
      simp only [Prod.mk.injEq, Outcome.interrupted.injEq] at heq
      obtain ⟨rfl, rfl⟩ := heq
      exact ⟨_, hd, le_rfl⟩

/-! ### The machine -/

/-- What is true of a state behind the events that led to it. -/
structure Faithful (s : State) (es : List Event) : Prop where
  /-- The tightest of all deadlines holds, in whatever order they were given. -/
  deadline : s.deadline = (deadlines es).min?
  cancelled : s.isCancelled = true ↔ Cancelled es
  expired : s.isExpired = true ↔ ∃ d ∈ deadlines es, d ≤ s.clock
  /-- Work under a context that is over is not started, and no time goes by. -/
  refusedCancelled : Cancelled es → ∀ limit w, s.run limit w = (s, .interrupted .cancelled)
  refusedExpired : ¬ Cancelled es → (∃ d ∈ deadlines es, d ≤ s.clock) →
    ∀ limit w, s.run limit w = (s, .interrupted .deadlineExceeded)
  /-- Otherwise the event that comes before all others ends the wait, and the clock stops there. -/
  returns : ¬ Cancelled es → (∀ d ∈ deadlines es, s.clock < d) → ∀ limit w e,
    Occurs s.clock es w e → (∀ f, Occurs s.clock es w f → f = e ∨ e.1 < f.1) →
    e.1 ≤ s.clock + limit → (s.run limit w).2 = e.2 ∧ (s.run limit w).1.clock = e.1
  /-- Without any such event there is no end of it. -/
  waits : ¬ Cancelled es → (∀ d ∈ deadlines es, s.clock < d) → ∀ w,
    (∀ e, ¬ Occurs s.clock es w e) → ∀ limit, (s.run limit w).2 = .pending
  /-- A handle that was dropped unused never cancels. -/
  dropped : Dropped es → ¬ Cancelled es ∧ (∀ t, ¬ Due t es)
    ∧ ∀ limit w, (s.run limit w).2 ≠ .interrupted .cancelled
  /-- Work that is begun later under a context that was interrupted is not started either. -/
  interrupted : ∀ limit w i, (s.run limit w).2 = .interrupted i →
    ∀ ms : List Move, (∀ m ∈ ms, m.2.Keeps i) → ∀ limit' w',
      let later := (s.run limit w).1.follow ms
      (i = .cancelled → later.isCancelled = true)
      ∧ later.run limit' w'
        = (later, .interrupted (if later.isCancelled then .cancelled else .deadlineExceeded))

lemma Agrees.faithful {s : State} {es : List Event} (h : Agrees s es) : Faithful s es where
  deadline := h.deadline
  cancelled := h.isCancelled
  expired := h.isExpired
  refusedCancelled hc := run_eq_refused (by rw [State.interruption?, if_pos (h.isCancelled.mpr hc)])
  refusedExpired hc he := run_eq_refused (by
    rw [State.interruption?, if_neg (mt h.isCancelled.mp hc), if_pos (h.isExpired.mpr he)])
  returns hc he limit w e hoccurs hfirst hlimit := by
    have hevent : s.firstEvent limit w = e :=
      foldr_earlier ((h.mem_events w).mpr hoccurs) (fun f hf => hfirst f ((h.mem_events w).mp hf))
        hlimit
    rw [run_eq_waited (h.interruption?_eq_none hc he), hevent]
    exact ⟨rfl, rfl⟩
  waits hc he w hnone limit := by
    have hevents : s.events w = [] :=
      List.eq_nil_iff_forall_not_mem.mpr fun e hmem => hnone e ((h.mem_events w).mp hmem)
    rw [run_eq_waited (h.interruption?_eq_none hc he), State.firstEvent, hevents]
    rfl
  dropped hd := by
    have hs := h.dropped.mpr hd
    have hc : ¬ Cancelled es := by simp [← h.fired, hs]
    have hdue : ∀ t, ¬ Due t es := by simp [← h.scheduled, hs]
    refine ⟨hc, hdue, fun limit w hrun => ?_⟩
    have hfired : (s.run limit w).1.signal = some .fired := over_run hrun
    rcases run_fst s limit w with heq | ⟨t, heq⟩
    · rw [heq, hs] at hfired
      cases hfired
    · rw [heq, State.elapse_fired, hs] at hfired
      simp at hfired
  interrupted limit w i hi ms hms limit' w' := by
    have hover := (over_run hi).follow hms
    refine ⟨?_, run_eq_refused hover.interruption? _ _⟩
    rintro rfl
    exact decide_eq_true hover

/-- **The context machine**: behind every script of steps, the context is as the events of the
script say. -/
theorem faithful_history (script : List Move) :
    Faithful (history script).1 (history script).2 :=
  (agrees_history script).faithful

/-- Three events race, and the deadline was given first: a tighter one, a cancellation and the end
of the work. -/
def race : List Move :=
  [.timeout 50, .deadline 90, .withSignal, .cancelAfter 10, .advance 4].map (0, ·)

/-- The cancellation comes first, and work that is begun later is refused. -/
theorem faithful_history_race :
    ¬ Cancelled (history race).2 ∧ (∀ d ∈ deadlines (history race).2, (history race).1.clock < d)
      ∧ ((history race).1.run 60 ⟨some 30, none⟩).2 = .interrupted .cancelled
      ∧ ((history race).1.run 60 ⟨some 30, none⟩).1.clock = 10 := by
  have hes : (history race).2
      = [.passed 4, .scheduled 10, .attached, .bounded 90, .created 50] := rfl
  have hcancelled : ¬ Cancelled (history race).2 := by simp [hes, Cancelled, Due]
  have hdeadlines : ∀ d ∈ deadlines (history race).2, (history race).1.clock < d := by decide
  refine ⟨hcancelled, hdeadlines, ?_⟩
  refine (faithful_history race).returns hcancelled hdeadlines 60 _ (10, .interrupted .cancelled)
    ?_ ?_ ?_
  · exact .cancellation (by simp [hes, Due, Held])
  · rintro f hf
    cases hf with
    | completion duration =>
      obtain rfl := Option.some.inj duration
      exact .inr (by decide)
    | cancellation due =>
      obtain ⟨-, rfl⟩ : _ ∧ 10 = _ := by simpa [hes, Due, Held] using due
      exact .inl rfl
    | expiry least =>
      obtain rfl : 50 = _ := by simpa [hes, deadlines] using least
      exact .inr (by decide)
  · decide

end Catalog.Context
