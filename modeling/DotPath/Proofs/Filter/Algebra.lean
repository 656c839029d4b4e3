import DotPath.Proofs.Filter.Chain
import DotPath.Proofs.Filter.Survivors

/-!
This module contains the laws that filters obey where they can be evaluated. A filter of two connected
ones leaves the items that both of them leave, or those that one of them does. Filters without positions
decide about each item by itself, so they can be applied one after the other, in any order and repeatedly.
-/

namespace DotPath

def Connective.Joins (connective : Connective) (left right : Prop) : Prop :=
  match connective with
  | .and => left ∧ right
  | .or => left ∨ right

namespace Filter

variable {left right : Filter} {index : Nat} {item : Json}

theorem eval_and_eq_true_iff : (logical .and left right).eval index item = .ok true ↔
    left.eval index item = .ok true ∧ right.eval index item = .ok true := by
  rw [eval]
  cases left.eval index item with
  | error failure => simp [bind, Except.bind]
  | ok leftHolds =>
    cases right.eval index item with
    | error failure => simp [bind, Except.bind]
    | ok rightHolds => simp [bind, Except.bind, pure, Except.pure, Connective.apply]

/-- If one side of an "or" fails, the filter does so too, although the other side may hold. -/
theorem eval_or_eq_true_iff (hleft : ∃ holds, left.eval index item = .ok holds)
    (hright : ∃ holds, right.eval index item = .ok holds) :
    (logical .or left right).eval index item = .ok true ↔
      left.eval index item = .ok true ∨ right.eval index item = .ok true := by
  rcases hleft with ⟨leftHolds, hleft⟩
  rcases hright with ⟨rightHolds, hright⟩
  rw [eval, hleft, hright]
  simp [bind, Except.bind, pure, Except.pure, Connective.apply]

theorem exists_eval_logical_iff {connective : Connective} :
    (∃ holds, (logical connective left right).eval index item = .ok holds) ↔
      (∃ holds, left.eval index item = .ok holds) ∧ ∃ holds, right.eval index item = .ok holds := by
  simp only [exists_eval_eq_ok_iff, comparisons, List.forall_mem_append]

end Filter

namespace Path

variable {path : Path} {root value : Json} {kept : Numbered} {filters : List Filter}

/-- Filters without positions leave the items that each of them accepts. -/
theorem keepAll_of_indexFree (hfree : ∀ filter ∈ filters, filter.IndexFree) {items : Numbered}
    (h : keepAll filters items = .ok kept) :
    kept = items.filter fun entry => filters.all fun filter => filter.eval 0 entry.1 = .ok true := by
  induction filters generalizing items with
  | nil =>
    cases h
    simp
  | cons filter filters ih =>
    rw [List.forall_mem_cons] at hfree
    rw [keepAll_cons, bind_eq_ok_iff] at h
    rcases h with ⟨passed, hpassed, h⟩
    rw [filter.keep_of_indexFree hfree.1, sift_eq_ok_iff] at hpassed
    rw [ih hfree.2 h, hpassed.2, List.filter_filter]
    simp only [List.all_cons, Bool.and_comm]

/-- What `left` and `right` leave of the items of a value where "and" or "or" connects them. -/
theorem keeps_sides {connective : Connective} {left right : Filter}
    (h : (path.withFilters [.logical connective left right]).Keeps root value kept) :
    ∃ keptLeft keptRight, (path.withFilters [left]).Keeps root value keptLeft
      ∧ (path.withFilters [right]).Keeps root value keptRight := by
  rw [keeps_filter_iff] at h
  rcases h with ⟨hresolve, heval, -⟩
  simp only [keeps_filter_iff]
  refine ⟨_, _, ⟨hresolve, ?_, rfl⟩, hresolve, ?_, rfl⟩
  · intro entry hentry
    exact (Filter.exists_eval_logical_iff.mp (heval entry hentry)).1
  · intro entry hentry
    exact (Filter.exists_eval_logical_iff.mp (heval entry hentry)).2

theorem mem_iff_of_keeps_sides {connective : Connective} {left right : Filter}
    {keptLeft keptRight : Numbered}
    (h : (path.withFilters [.logical connective left right]).Keeps root value kept)
    (hleft : (path.withFilters [left]).Keeps root value keptLeft)
    (hright : (path.withFilters [right]).Keeps root value keptRight) (entry : Json × Nat) :
    entry ∈ kept ↔ connective.Joins (entry ∈ keptLeft) (entry ∈ keptRight) := by
  have hmem := mem_iff_of_keeps h entry
  have hmemLeft := mem_iff_of_keeps hleft entry
  have hmemRight := mem_iff_of_keeps hright entry
  cases connective with
  | and =>
    rw [Filter.eval_and_eq_true_iff] at hmem
    rw [hmem, Connective.Joins, hmemLeft, hmemRight, and_and_left]
  | or =>
    have hleft := (keeps_filter_iff.mp hleft).2.1 entry
    have hright := (keeps_filter_iff.mp hright).2.1 entry
    rw [hmem, Connective.Joins, hmemLeft, hmemRight, ← and_or_left]
    apply and_congr_right
    intro hentry
    exact Filter.eval_or_eq_true_iff (hleft hentry) (hright hentry)

theorem keeps_stages {left right : Filter} (hfree : right.IndexFree)
    (h : (path.withFilters [.logical .and left right]).Keeps root value kept) :
    (path.withFilters [left, right]).Keeps root value kept := by
  rcases keeps_sides h with ⟨passed, _, hleft, hright⟩
  rw [keeps_filter_iff] at h hright
  rcases h with ⟨hresolve, -, rfl⟩
  have hpassed := (keeps_filter_iff.mp hleft).2.2
  rw [keeps_withFilters_iff, keepAll_singleton] at hleft
  rw [keeps_withFilters_iff, keepAll_cons, hleft.2]
  refine ⟨hresolve, ?_⟩
  show keepAll [right] passed = _
  rw [keepAll_singleton, right.keep_of_indexFree hfree, sift_eq_ok_iff, hpassed]
  constructor
  · intro entry hentry
    rw [right.eval_of_indexFree hfree 0 entry.2]
    exact hright.2.1 entry (List.mem_of_mem_filter hentry)
  · rw [List.filter_filter]
    apply List.filter_congr
    intro entry _
    rw [Bool.eq_iff_iff]
    simp only [Filter.eval_and_eq_true_iff, decide_eq_true_eq, Bool.and_eq_true,
      right.eval_of_indexFree hfree 0 entry.2, and_comm]

theorem keeps_of_same_filters {others : List Filter} {other : Json} {kept' : Numbered}
    (hfree : ∀ filter ∈ filters, filter.IndexFree) (hsame : ∀ filter, filter ∈ filters ↔ filter ∈ others)
    (h : (path.withFilters filters).Keeps root value kept)
    (h' : (path.withFilters others).Keeps root other kept') :
    (path.withFilters others).Keeps root value kept := by
  have hfree' : ∀ filter ∈ others, filter.IndexFree := by
    intro filter hfilter
    exact hfree filter ((hsame filter).mpr hfilter)
  have hall (entry : Json × Nat) :
      filters.all (fun filter => filter.eval 0 entry.1 = .ok true)
        = others.all (fun filter => filter.eval 0 entry.1 = .ok true) := by
    rw [Bool.eq_iff_iff, List.all_eq_true, List.all_eq_true]
    simp only [hsame]
  rw [keeps_withFilters_iff] at h h' ⊢
  rcases h with ⟨hresolve, hkept⟩
  rcases h' with ⟨hresolve', hkept'⟩
  cases hresolve.symm.trans hresolve'
  refine ⟨hresolve, ?_⟩
  rw [hkept', keepAll_of_indexFree hfree' hkept', keepAll_of_indexFree hfree hkept]
  simp only [hall]

/--
Let a path without filters get filters that can be evaluated for the value that it leads to. Two filters
with "and" between them leave the items that both of them leave, and two with "or" those that one of them
leaves, told by position and in order. If the second one has no positions, "and" comes to the same as two
brackets. Filters without positions may be applied in any order, and repeatedly.
-/
theorem keeps_boolean_algebra (hplain : path.filters = []) (root : Json) :
    (∀ connective left right found,
      (path.withFilters [.logical connective left right]).eval root = .ok found →
        ∃ value keptLeft keptRight kept, path.eval root = .ok (.one value)
          ∧ (path.withFilters [left]).Keeps root value keptLeft
          ∧ (path.withFilters [right]).Keeps root value keptRight
          ∧ (path.withFilters [.logical connective left right]).Keeps root value kept
          ∧ ∀ entry, entry ∈ kept ↔ connective.Joins (entry ∈ keptLeft) (entry ∈ keptRight))
      ∧ (∀ left right found, right.IndexFree →
        (path.withFilters [.logical .and left right]).eval root = .ok found →
          ∃ value kept, (path.withFilters [.logical .and left right]).Keeps root value kept
            ∧ (path.withFilters [left, right]).Keeps root value kept)
      ∧ ∀ filters others found found', (∀ filter ∈ filters, filter.IndexFree) →
        (∀ filter, filter ∈ filters ↔ filter ∈ others) →
          (path.withFilters filters).eval root = .ok found →
            (path.withFilters others).eval root = .ok found' →
              ∃ value kept, (path.withFilters filters).Keeps root value kept
                ∧ (path.withFilters others).Keeps root value kept := by
  refine ⟨?_, ?_, ?_⟩
  · intro connective left right found hfound
    rcases exists_keeps hfound with ⟨value, kept, hkept⟩
    rcases keeps_sides hkept with ⟨keptLeft, keptRight, hleft, hright⟩
    have hresolve := (keeps_withFilters_iff.mp hkept).1
    refine ⟨value, keptLeft, keptRight, kept, ?_, hleft, hright, hkept,
      mem_iff_of_keeps_sides hkept hleft hright⟩
    rw [eval_of_filters_nil hplain, hresolve]
    rfl
  · intro left right found hfree hfound
    rcases exists_keeps hfound with ⟨value, kept, hkept⟩
    exact ⟨value, kept, hkept, keeps_stages hfree hkept⟩
  · intro filters others found found' hfree hsame hfound hfound'
    rcases exists_keeps hfound with ⟨value, kept, hkept⟩
    rcases exists_keeps hfound' with ⟨other, kept', hkept'⟩
    exact ⟨value, kept, hkept, keeps_of_same_filters hfree hsame hkept hkept'⟩

theorem keeps_boolean_algebra_of_three_items :
    let path := Path.first ⟨"a", false, []⟩
    let item (n : Int64) := Json.object [("k", .ofInt64 n)]
    let root := Json.object [("a", .array [item 1, item 2, item 3])]
    let front := Filter.comparison (.position (.integer 0))
    let small := Filter.comparison ⟨some .lt, .text "k", some (.integer 3)⟩
    let great := Filter.comparison ⟨some .gt, .text "k", some (.integer 1)⟩
    path.filters = [] ∧ small.IndexFree ∧ great.IndexFree
      ∧ (path.withFilters [.logical .or front great]).eval root = .ok (.many [item 1, item 2, item 3])
      ∧ (∃ value keptFront keptGreat kept, (path.withFilters [front]).Keeps root value keptFront
        ∧ (path.withFilters [great]).Keeps root value keptGreat
        ∧ (path.withFilters [.logical .or front great]).Keeps root value kept
        ∧ ∀ entry, entry ∈ kept ↔ entry ∈ keptFront ∨ entry ∈ keptGreat)
      ∧ (path.withFilters [.logical .and small great]).eval root = .ok (.many [item 2])
      ∧ (∃ value kept, (path.withFilters [.logical .and small great]).Keeps root value kept
        ∧ (path.withFilters [small, great]).Keeps root value kept)
      ∧ ∃ value kept, (path.withFilters [small, great]).Keeps root value kept
        ∧ (path.withFilters [great, small, great]).Keeps root value kept := by
  intro path item root front small great
  have hsmall : small.IndexFree := by simp [small, Filter.IndexFree, Filter.comparisons]
  have hgreat : great.IndexFree := by simp [great, Filter.IndexFree, Filter.comparisons]
  have hor : (path.withFilters [.logical .or front great]).eval root
      = .ok (.many [item 1, item 2, item 3]) := rfl
  have hand : (path.withFilters [.logical .and small great]).eval root = .ok (.many [item 2]) := rfl
  have hplain : path.filters = [] := rfl
  rcases keeps_boolean_algebra hplain root with ⟨hsides, hstages, hsame⟩
  refine ⟨hplain, hsmall, hgreat, hor, ?_, hand, hstages _ _ _ hgreat hand, ?_⟩
  · rcases hsides _ _ _ _ hor with ⟨value, keptFront, keptGreat, kept, -, hfront, hright, hkept, hmem⟩
    exact ⟨value, keptFront, keptGreat, kept, hfront, hright, hkept, hmem⟩
  · have hfree : ∀ filter ∈ [small, great], filter.IndexFree := by
      simp [hsmall, hgreat]
    have hmem : ∀ filter, filter ∈ [small, great] ↔ filter ∈ [great, small, great] := by
      intro filter
      simp
      tauto
    have htwo : (path.withFilters [small, great]).eval root = .ok (.many [item 2]) := rfl
    have hthree : (path.withFilters [great, small, great]).eval root = .ok (.many [item 2]) := rfl
    exact hsame _ _ _ _ hfree hmem htwo hthree

end Path

end DotPath
