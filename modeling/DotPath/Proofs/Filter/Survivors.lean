import DotPath.Proofs.Path.Failing
import DotPath.Proofs.Path.Joining
import DotPath.Proofs.Path.Resolving

/-!
This module contains which items the filters of a path leave, by position. Each filter counts the items
that the one before has left, so positions are lost on the way, and equal items cannot be told apart
afterwards. The items are therefore followed together with the positions that they have at first.
-/

namespace DotPath

/-- Items, each with its position in the sequence that the filters begin with. -/
abbrev Numbered := List (Json × Nat)

namespace Filter

variable {filter : Filter} {items : Numbered}

theorem survivors_eq_sift (filter : Filter) (index : Nat) (items : List Json) :
    filter.survivors index items
      = (sift (fun entry => filter.eval entry.2 entry.1) (items.zipIdx index)).map
          (List.map Prod.fst) := by
  induction items generalizing index with
  | nil => rfl
  | cons item rest ih =>
    rw [survivors, ih, List.zipIdx_cons, sift]
    cases filter.eval index item with
    | error failure => rfl
    | ok keep =>
      cases sift (fun entry => filter.eval entry.2 entry.1) (rest.zipIdx (index + 1)) with
      | error failure => rfl
      | ok kept => cases keep <;> rfl

/-- The survivors among items that are numbered; what the filter counts is how they stand now. -/
def keep (filter : Filter) (items : Numbered) : Except Failure Numbered :=
  (sift (fun entry => filter.eval entry.2 entry.1.1) items.zipIdx).map (List.map Prod.fst)

theorem map_keep (filter : Filter) (items : Numbered) :
    (filter.keep items).map (List.map Prod.fst) = filter.survivors 0 (items.map Prod.fst) := by
  rw [keep, survivors_eq_sift, List.zipIdx_map, sift_map]
  show _ = Except.map _ (Except.map _ (sift (fun entry => filter.eval entry.2 entry.1.1) items.zipIdx))
  cases sift (fun entry => filter.eval entry.2 entry.1.1) items.zipIdx with
  | error failure => rfl
  | ok kept => simp [Except.map, Function.comp_def]

theorem keep_eq_sift {test : Json × Nat → Except Failure Bool}
    (h : ∀ entry ∈ items.zipIdx, filter.eval entry.2 entry.1.1 = test entry.1) :
    filter.keep items = sift test items := by
  rw [keep, sift_congr h]
  conv => rhs; rw [← List.zipIdx_map_fst 0 items, sift_map]
  rfl

/-- As long as no filter has been applied, an item is counted by its own number. -/
theorem keep_zipIdx (filter : Filter) (items : List Json) :
    filter.keep items.zipIdx = sift (fun entry => filter.eval entry.2 entry.1) items.zipIdx := by
  apply keep_eq_sift
  intro entry hentry
  have hat := List.mem_zipIdx_iff_getElem?.mp hentry
  rw [List.getElem?_zipIdx, Option.map_eq_some_iff] at hat
  rcases hat with ⟨item, -, hitem⟩
  rw [← hitem, Nat.zero_add]

theorem keep_sublist {kept : Numbered} (h : filter.keep items = .ok kept) : kept.Sublist items := by
  rw [keep, map_eq_ok_iff] at h
  rcases h with ⟨entries, hentries, rfl⟩
  rcases sift_eq_ok_iff.mp hentries with ⟨-, rfl⟩
  conv => rhs; rw [← List.zipIdx_map_fst 0 items]
  exact List.filter_sublist.map Prod.fst

/-- No comparison of the filter is positional. -/
def IndexFree (filter : Filter) : Prop :=
  ∀ comparison ∈ filter.comparisons, comparison.comparator ≠ none

theorem eval_of_indexFree (h : filter.IndexFree) (index other : Nat) (item : Json) :
    filter.eval index item = filter.eval other item := by
  induction filter with
  | comparison c =>
    have hc := h c (List.mem_singleton_self c)
    rcases c with ⟨_ | comparator, left, right⟩
    · exact absurd rfl hc
    · cases left <;> rfl
  | logical connective left right ihLeft ihRight =>
    rw [IndexFree, comparisons, List.forall_mem_append] at h
    rw [eval, eval, ihLeft h.1, ihRight h.2]

theorem keep_of_indexFree (h : filter.IndexFree) (items : Numbered) :
    filter.keep items = sift (fun entry => filter.eval 0 entry.1) items := by
  apply keep_eq_sift
  intro entry _
  apply eval_of_indexFree h

end Filter

namespace Path

def keepAll (filters : List Filter) (items : Numbered) : Except Failure Numbered :=
  filters.foldlM (fun items filter => filter.keep items) items

/--
The keys of the path lead to `value`, and of its items the filters leave the ones in `kept`, which tells
of each its position among all of them.
-/
structure Keeps (path : Path) (root value : Json) (kept : Numbered) : Prop where
  resolve : path.resolve path.isOptional root = .ok value
  stages : keepAll path.filters value.elements.zipIdx = .ok kept
  sublist : kept.Sublist value.elements.zipIdx
  eval : path.eval root
    = .ok (if path.filters.isEmpty then .one value else .many (kept.map Prod.fst))

variable {path : Path} {root value : Json} {kept : Numbered} {filters : List Filter}

theorem map_keepAll (filters : List Filter) (items : Numbered) :
    (keepAll filters items).map (List.map Prod.fst) = applyFilters filters (items.map Prod.fst) := by
  induction filters generalizing items with
  | nil => rfl
  | cons filter filters ih =>
    rw [keepAll, applyFilters, List.foldlM_cons, List.foldlM_cons, ← filter.map_keep]
    cases filter.keep items with
    | error failure => rfl
    | ok passed => exact ih passed

theorem keepAll_sublist {items : Numbered} (h : keepAll filters items = .ok kept) :
    kept.Sublist items := by
  refine foldlM_preserves (P := fun kept => kept.Sublist items) ?_ h (List.Sublist.refl items)
  intro passed filter left hpassed hleft
  exact (Filter.keep_sublist hleft).trans hpassed

theorem eval_of_resolve (h : path.resolve path.isOptional root = .ok value) :
    path.eval root = (keepAll path.filters value.elements.zipIdx).map fun kept =>
      if path.filters.isEmpty then .one value else .many (kept.map Prod.fst) := by
  have hmap := map_keepAll path.filters value.elements.zipIdx
  rw [List.zipIdx_map_fst] at hmap
  rw [eval_eq_resolve, h]
  simp only [Except.bind, chosen, items_eq_elements, ← hmap]
  cases path.filters with
  | nil => rfl
  | cons filter filters => cases keepAll (filter :: filters) value.elements.zipIdx <;> rfl

theorem keeps_of_keepAll (hresolve : path.resolve path.isOptional root = .ok value)
    (hkept : keepAll path.filters value.elements.zipIdx = .ok kept) : path.Keeps root value kept := by
  refine ⟨hresolve, hkept, keepAll_sublist hkept, ?_⟩
  rw [eval_of_resolve hresolve, hkept]
  rfl

theorem exists_keeps {found : Matches} (h : path.eval root = .ok found) :
    ∃ value kept, path.Keeps root value kept := by
  cases hresolve : path.resolve path.isOptional root with
  | error failure =>
    rw [eval_eq_resolve, hresolve] at h
    cases h
  | ok value =>
    rw [eval_of_resolve hresolve, map_eq_ok_iff] at h
    rcases h with ⟨kept, hkept, -⟩
    exact ⟨value, kept, keeps_of_keepAll hresolve hkept⟩

theorem keeps_withFilters_iff : (path.withFilters filters).Keeps root value kept ↔
    path.resolve path.isOptional root = .ok value
      ∧ keepAll filters value.elements.zipIdx = .ok kept := by
  constructor
  · intro h
    rw [← path.resolve_of_withFilters root filters]
    exact ⟨h.resolve, path.filters_withFilters filters ▸ h.stages⟩
  · rintro ⟨hresolve, hkept⟩
    rw [← path.resolve_of_withFilters root filters] at hresolve
    apply keeps_of_keepAll hresolve
    rwa [filters_withFilters]

theorem keepAll_cons (filter : Filter) (filters : List Filter) (items : Numbered) :
    keepAll (filter :: filters) items = filter.keep items >>= keepAll filters :=
  List.foldlM_cons

theorem keepAll_singleton (filter : Filter) (items : Numbered) :
    keepAll [filter] items = filter.keep items := by
  rw [keepAll_cons]
  exact bind_pure _

theorem eval_withFilter (filter : Filter) (hresolve : path.resolve path.isOptional root = .ok value) :
    (path.withFilters [filter]).eval root
      = (sift (fun entry => filter.eval entry.2 entry.1) value.elements.zipIdx).map
          fun kept => .many (kept.map Prod.fst) := by
  rw [← path.resolve_of_withFilters root [filter]] at hresolve
  rw [eval_of_resolve hresolve, filters_withFilters, keepAll_singleton, filter.keep_zipIdx]
  rfl

/-- A single filter leaves the items that it accepts at their positions, if it can be evaluated for all. -/
theorem keeps_filter_iff {filter : Filter} : (path.withFilters [filter]).Keeps root value kept ↔
    path.resolve path.isOptional root = .ok value
      ∧ (∀ entry ∈ value.elements.zipIdx, ∃ accepts, filter.eval entry.2 entry.1 = .ok accepts)
      ∧ kept = value.elements.zipIdx.filter
          (fun entry => filter.eval entry.2 entry.1 = .ok true) := by
  rw [keeps_withFilters_iff, keepAll_singleton, filter.keep_zipIdx, sift_eq_ok_iff]

theorem mem_iff_of_keeps {filter : Filter} (h : (path.withFilters [filter]).Keeps root value kept)
    (entry : Json × Nat) : entry ∈ kept ↔
      entry ∈ value.elements.zipIdx ∧ filter.eval entry.2 entry.1 = .ok true := by
  rcases keeps_filter_iff.mp h with ⟨-, -, rfl⟩
  simp

end Path

end DotPath
