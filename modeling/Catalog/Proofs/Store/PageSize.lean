import Catalog.Config.Environment
import Catalog.Proofs.Store.Isolation

/-!
How many rows a page may have. A size that is asked for is kept within the configured maximum, but
the default is not: where nothing is asked for, a page is as large as the default says.
-/

namespace Catalog.Store

/-! ### Sizes -/

namespace Options

variable (o : Options) {size : Int}

lemma pageSize_of_nonpos (h : size ≤ 0) : o.pageSize size = max 1 o.defaultPageSize := if_pos h

lemma pageSize_le_of_pos (h : 0 < size) : o.pageSize size ≤ max 1 o.maxPageSize := by
  rw [pageSize, if_neg (not_le.mpr h)]
  by_cases hmax : size > o.maxPageSize
  · rw [if_pos hmax]
  · rw [if_neg hmax]
    omega

/-- The maximum is passed where nothing is asked for and the default is beyond it. -/
lemma pageSize_le_iff (size : Int) :
    o.pageSize size ≤ max 1 o.maxPageSize
      ↔ 0 < size ∨ o.defaultPageSize ≤ max 1 o.maxPageSize := by
  by_cases h : 0 < size
  · simp only [o.pageSize_le_of_pos h, h, true_or]
  · rw [o.pageSize_of_nonpos (not_lt.mp h)]
    omega

end Options

/-! ### Pages -/

namespace Operation

lemma sends_readPage_page (s : Scope) (predicate : Option String) (after limit : Int) :
    (readPage s predicate after limit).Sends (.page s predicate after limit) :=
  Sends.bind_left (Program.Sends.here _) _

lemma sends_readSnapshot_page (s : Scope) (predicate : Option String) (after limit : Int) :
    (readSnapshot s predicate after limit).Sends (.page s predicate after limit) := by
  have hread := Sends.bind_left (sends_readPage_page s predicate after limit) fun result => do
    discard (execute .commit fun _ => .database .endSnapshot)
    pure result
  -- the transaction is opened first
  exact .later (.answered (.affected 0)) (.later (.answered (.affected 0)) hread)

/-- A listing asks for a page unless its filter is refused. -/
lemma sends_list_page {store : Store} {s : Scope} {filter : String} {predicate : Option String}
    (hp : store.predicate? s.anchor filter = .ok predicate) (token : String) (size : Int)
    (now : Time) :
    (store.list s filter token size).Sends (.page s predicate
      (store.cursor.decode now.unixSeconds 0 token) (store.options.pageSize size)) := by
  set after := store.cursor.decode now.unixSeconds 0 token
  set limit := store.options.pageSize size
  have hread : ((if store.options.snapshotListing then readSnapshot else readPage) s predicate after
      limit).Sends (.page s predicate after limit) := by
    split
    · exact sends_readSnapshot_page s predicate after limit
    · exact sends_readPage_page s predicate after limit
  have hguarded : (guarded ((if store.options.snapshotListing then readSnapshot else readPage) s
      predicate after limit)).Sends (.page s predicate after limit) := .later none hread
  rw [list, hp, fromExcept_ok_bind]
  exact .later now (Sends.bind_left hguarded _)

end Operation

/-- **A page is within the maximum unless it is left to a default beyond it.** The size of each page
that a call asks for is at least one; it is at most the configured maximum, or one where that is
less, exactly if a size is asked for or the default is itself within that bound. Otherwise it is the
default. Every listing whose filter is not refused asks for such a page. -/
theorem limit_le_maximum_iff (store : Store) (filter token : String) (size : Int) :
    (∀ call s predicate after limit,
      Call.Sends store filter token size (.page s predicate after limit) call →
        (Statement.page s predicate after limit).arguments
          = call.values.map .text ++ [.int after, .int limit]
        ∧ 1 ≤ limit
        ∧ (limit ≤ max 1 store.options.maxPageSize
          ↔ 0 < size ∨ store.options.defaultPageSize ≤ max 1 store.options.maxPageSize)
        ∧ (size ≤ 0 → limit = max 1 store.options.defaultPageSize))
    ∧ ∀ s predicate, store.predicate? s.anchor filter = .ok predicate →
        ∃ after limit, (store.list s filter token size).Sends (.page s predicate after limit) := by
  refine ⟨fun call s predicate after limit h => ?_, fun s predicate hp => ?_⟩
  · obtain ⟨-, -, rfl, harguments⟩ := (Call.bounded_of_sends h).1
    exact ⟨harguments, World.one_le_pageSize _ _, store.options.pageSize_le_iff size,
      store.options.pageSize_of_nonpos⟩
  · exact ⟨_, _, Operation.sends_list_page hp token size ⟨0, 0⟩⟩

/-- A store with the options that an environment gives. -/
def storeIn (env : Config.Environment) : Store :=
  ⟨⟨⟨.replicate 16 0, .replicate 16 0⟩, []⟩, (Config.ofEnvironment env).storeOptions⟩

/-- An environment that sets the maximum to fifty, and no default. -/
def fiftyAtMost : Config.Environment := fun name =>
  if name = "PAGINATION_MAX_PAGE_SIZE" then some "50" else none

/-- A size of sixty is cut down to fifty, and no size at all is not. -/
theorem limit_le_maximum_iff_fiftyAtMost :
    (∀ after limit, Call.Sends (storeIn fiftyAtMost) "" "" 60 (.page .projects none after limit)
      .projects → limit ≤ 50)
    ∧ ∀ after limit, Call.Sends (storeIn fiftyAtMost) "" "" 0 (.page .projects none after limit)
      .projects → ¬limit ≤ 50 := by
  have hmaximum : max 1 (storeIn fiftyAtMost).options.maxPageSize = 50 := by decide +kernel
  refine ⟨fun after limit h => ?_, fun after limit h => ?_⟩
  · obtain ⟨-, -, hiff, -⟩ := (limit_le_maximum_iff _ "" "" 60).1 _ _ _ _ _ h
    rw [hmaximum] at hiff
    exact hiff.mpr (.inl (by decide))
  · obtain ⟨-, -, hiff, -⟩ := (limit_le_maximum_iff _ "" "" 0).1 _ _ _ _ _ h
    rw [hmaximum] at hiff
    rw [hiff]
    decide +kernel

/-- The first page of all projects has a hundred of them, where fifty are allowed. -/
theorem limit_fiftyAtMost :
    (storeIn fiftyAtMost).options.maxPageSize = 50
      ∧ (∃ after, Call.Sends (storeIn fiftyAtMost) "" "" 0 (.page .projects none after 100)
        .projects)
      ∧ ¬ ∀ (store : Store) call filter token size s predicate after limit,
        Call.Sends store filter token size (.page s predicate after limit) call
          → 1 ≤ limit ∧ limit ≤ max 1 store.options.maxPageSize := by
  have hmaximum : (storeIn fiftyAtMost).options.maxPageSize = 50 := by decide +kernel
  have hsize : (storeIn fiftyAtMost).options.pageSize 0 = 100 := by decide +kernel
  have hpredicate : (storeIn fiftyAtMost).predicate? Scope.projects.anchor "" = .ok none := rfl
  have hlist := Operation.sends_list_page hpredicate "" 0 ⟨0, 0⟩
  rw [hsize] at hlist
  have hsends := Operation.Sends.bind_left hlist fun page =>
    pure (page.rows.map Record.Project.mk, page.token)
  refine ⟨hmaximum, ⟨_, hsends⟩, fun hall => ?_⟩
  obtain ⟨-, hle⟩ := hall _ .projects _ _ _ _ _ _ _ hsends
  rw [hmaximum] at hle
  exact absurd hle (by decide)

end Catalog.Store
