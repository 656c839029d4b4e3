import DotPath.Proofs.Path.Resolving
import DotPath.Proofs.Selection.Run
import Mathlib.Control.Monad.Basic

/-!
This module contains where selected values stand in the root that they were selected from. Keys lead to
one position, filters choose among the elements there, and a query goes on from each selected value
within that value. So the positions keep their order, and none of them comes to lie within another.
-/

namespace DotPath

namespace Filter

theorem survivors_sublist {filter : Filter} {index : Nat} {items kept : List Json}
    (h : filter.survivors index items = .ok kept) : kept.Sublist items := by
  induction items generalizing index kept with
  | nil =>
    cases h
    apply List.Sublist.refl
  | cons item rest ih =>
    rw [survivors, bind_eq_ok_iff] at h
    rcases h with ⟨keep, _, h⟩
    rcases bind_eq_ok_iff.mp h with ⟨others, hothers, h⟩
    cases h
    have hrest := ih hothers
    cases keep with
    | true => exact hrest.cons_cons item
    | false => exact hrest.cons item

end Filter

namespace Path

theorem applyFilters_sublist {filters : List Filter} {items kept : List Json}
    (h : applyFilters filters items = .ok kept) : kept.Sublist items := by
  refine foldlM_preserves (P := fun kept => kept.Sublist items) ?_ h (List.Sublist.refl items)
  intro passed filter left hpassed hleft
  exact (Filter.survivors_sublist hleft).trans hpassed

theorem items_placed (value : Json) : ∃ positions, Placed value positions (items value) := by
  unfold items
  split
  · exact ⟨_, Placed.elements _⟩
  · exact ⟨[[]], Placed.single rfl⟩

theorem eval_placed {path : Path} {root : Json} {found : Matches} (h : path.eval root = .ok found) :
    ∃ positions, Placed root positions found.values := by
  rw [eval, bind_eq_ok_iff] at h
  rcases h with ⟨value, hresolve, h⟩
  have hat := resolve_eq_ok_iff.mp hresolve
  split at h
  · cases h
    exact ⟨[path.keys.map Hop.member], Placed.single hat⟩
  · rcases bind_eq_ok_iff.mp h with ⟨passed, hpassed, h⟩
    cases h
    rcases items_placed value with ⟨positions, hitems⟩
    rcases hitems.sublist (applyFilters_sublist hpassed) with ⟨kept, hkept⟩
    exact ⟨kept.map (path.keys.map Hop.member ++ ·), hkept.below hat⟩

theorem contribution_placed {path : Path} {root : Json} {found : List Json}
    (h : path.contribution root = .ok found) : ∃ positions, Placed root positions found := by
  cases heval : path.eval root with
  | ok reached =>
    rw [contribution_of_eval_ok heval] at h
    cases h
    exact eval_placed heval
  | error failure =>
    rw [contribution_of_eval_error heval] at h
    split at h
    · cases h
      exact ⟨[], Placed.nil⟩
    · cases h

/-- What is reached from values that are placed is placed, each position within that of its origin. -/
theorem contributions_placed {path : Path} {root : Json} {positions : List Position}
    {values : List Json} {found : List (List Json)} (h : values.mapM path.contribution = .ok found)
    (hplaced : Placed root positions values) :
    ∃ reached, Placed root reached found.flatten ∧ ∀ q ∈ reached, ∃ p ∈ positions, p <+: q := by
  induction values generalizing positions found with
  | nil =>
    cases h
    exact ⟨[], Placed.nil, by simp⟩
  | cons value rest ih =>
    cases positions with
    | nil => cases hplaced.at?
    | cons p positions =>
      rw [Placed.cons_iff] at hplaced
      rcases hplaced with ⟨hat, hbefore, hrest⟩
      rw [List.mapM_cons, bind_eq_ok_iff] at h
      rcases h with ⟨here, hhere, h⟩
      rcases bind_eq_ok_iff.mp h with ⟨there, hthere, h⟩
      cases h
      rcases contribution_placed hhere with ⟨inner, hinner⟩
      rcases ih hthere hrest with ⟨outer, houter, hwithin⟩
      refine ⟨inner.map (p ++ ·) ++ outer, ?_, ?_⟩
      · rw [List.flatten_cons]
        apply (hinner.below hat).append houter
        -- What lies within `p` is before what lies within any later position, as `p` itself is.
        intro q hq r hr
        rcases List.mem_map.mp hq with ⟨s, _, rfl⟩
        rcases hwithin r hr with ⟨o, ho, hprefix⟩
        exact (hbefore o ho).within (List.prefix_append p s) hprefix
      · intro q hq
        rcases List.mem_append.mp hq with hq | hq
        · rcases List.mem_map.mp hq with ⟨s, _, rfl⟩
          exact ⟨p, List.mem_cons_self, List.prefix_append p s⟩
        · rcases hwithin q hq with ⟨o, ho, hprefix⟩
          exact ⟨o, List.mem_cons_of_mem p ho, hprefix⟩

end Path

theorem stage_placed {root : Json} {query : String} {positions : List Position}
    {values found : List Json} (h : stage values query = .ok found)
    (hplaced : Placed root positions values) : ∃ reached, Placed root reached found := by
  rw [stage, bind_eq_ok_iff] at h
  rcases h with ⟨path, _, h⟩
  rcases bind_eq_ok_iff.mp h with ⟨contributions, hcontributions, h⟩
  cases h
  rcases Path.contributions_placed hcontributions hplaced with ⟨reached, hreached, _⟩
  exact ⟨reached, hreached⟩

theorem stages_placed {root : Json} {queries : List String} {found : List Json}
    (h : stages root queries = .ok found) : ∃ positions, Placed root positions found := by
  -- The invariant of a run: what is selected is placed somewhere in the root.
  refine foldlM_preserves (P := fun values => ∃ positions, Placed root positions values) ?_ h ?_
  · intro values query found hplaced hstage
    rcases hplaced with ⟨positions, hplaced⟩
    exact stage_placed hstage hplaced
  · exact ⟨[[]], Placed.single rfl⟩

namespace Pipeline

/--
A run that has not been stopped has selected the values at certain positions of the root, in that order.
The positions are distinct, none lies within another, and where two of them part they part at an array,
the earlier one at the smaller index.
-/
theorem values_at_positions {root : Json} {queries : List String} {selection : Selection}
    (h : ((ofRoot root).selectAll queries).state = .ok selection) :
    ∃ positions : List Position, positions.map root.at? = selection.values.map some
      ∧ positions.Nodup
      ∧ positions.Pairwise (fun p q => ¬ p <+: q ∧ ¬ q <+: p)
      ∧ positions.Pairwise Position.Before := by
  rw [state_run] at h
  cases hstages : stages root queries with
  | error failure =>
    rw [hstages] at h
    cases h
  | ok values =>
    rw [hstages] at h
    cases h
    rcases stages_placed hstages with ⟨positions, hplaced⟩
    refine ⟨positions, hplaced.at?, ?_, ?_, hplaced.before⟩
    · exact hplaced.before.imp Position.Before.ne
    · exact hplaced.before.imp Position.Before.not_prefix

theorem values_at_positions_of_two_elements :
    let root := Json.object
      [("a", .array [.object [("b", .bool true)], .null, .object [("b", .bool false)]])]
    let queries := ["a[0 || 2]", "b"]
    let selection := Selection.mk [.bool true, .bool false] queries
    ((ofRoot root).selectAll queries).state = .ok selection
      ∧ ∃ positions : List Position, positions.map root.at? = selection.values.map some
        ∧ positions.Nodup
        ∧ positions.Pairwise (fun p q => ¬ p <+: q ∧ ¬ q <+: p)
        ∧ positions.Pairwise Position.Before := by
  intro root queries selection
  have hfirst : Path.parse "a[0 || 2]"
      = .ok (.first ⟨"a", false, [.logical .or (.comparison ⟨none, .integer 0, none⟩)
          (.comparison ⟨none, .integer 2, none⟩)]⟩) := by
    decide +kernel
  have hsecond : Path.parse "b" = .ok (.first ⟨"b", false, []⟩) := by
    decide +kernel
  have hstate : ((ofRoot root).selectAll queries).state = .ok selection := by
    rw [state_run]
    simp only [queries, stages, List.foldlM_cons, List.foldlM_nil, stage, hfirst, hsecond]
    rfl
  exact ⟨hstate, values_at_positions hstate⟩

end Pipeline

end DotPath
