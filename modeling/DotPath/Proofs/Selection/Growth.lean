import DotPath.Proofs.Json.Growth
import DotPath.Proofs.Selection.Run

/-!
This module contains selection from documents that have grown. A query sees no member whose key it does
not mention, as a key of its path or as a field of its filters. So a run of queries on a grown document
fails as it does on the original one, or selects the same values, which may have grown.
-/

namespace DotPath

/-- The field that the comparison looks up in an item; a position looks up none. -/
def Comparison.field? (comparison : Comparison) : Option String :=
  match comparison.comparator, comparison.left with
  | some _, .text name => some name
  | _, _ => none

def Filter.fields (filter : Filter) : List String :=
  match filter with
  | .comparison c => c.field?.toList
  | .logical _ left right => left.fields ++ right.fields

/-- All keys by which the path can ask a value for a member. -/
def Path.mentioned (path : Path) : List String :=
  path.keys ++ path.filters.flatMap Filter.fields

/-- None of `queries` mentions `key`. A text that spells no path mentions nothing. -/
def Unmentioned (queries : List String) (key : String) : Prop :=
  ∀ query ∈ queries, ∀ path, Path.parse query = .ok path → key ∉ path.mentioned

section Evaluation

variable {Fresh : String → Prop} {item grown : Json} {items others : List Json}

theorem Comparison.evalField_of_grows {comparison : Comparison} {comparator : Comparator}
    {name : String} (hname : ¬ Fresh name) (h : item.Grows Fresh grown) :
    comparison.evalField comparator name item = comparison.evalField comparator name grown := by
  rw [evalField, evalField]
  rcases (h.member_alike hname name (.notFound name)).outcomes
    with ⟨value, value', hold, hnew, hvalue⟩ | ⟨failure, hold, hnew⟩
  · rw [hold, hnew]
    simp only [bind, Except.bind, hvalue.asString_eq, hvalue.asNumber_eq]
  · rw [hold, hnew]

theorem Comparison.eval_of_grows {comparison : Comparison} {index : Nat}
    (hfields : ∀ name ∈ comparison.field?, ¬ Fresh name) (h : item.Grows Fresh grown) :
    comparison.eval index item = comparison.eval index grown := by
  rw [eval, eval]
  split
  · rfl
  · rfl
  · rfl
  · next comparator name hcomparator hleft =>
    apply evalField_of_grows ?_ h
    apply hfields
    rw [field?, hcomparator, hleft]
    rfl

namespace Filter

theorem eval_of_grows {filter : Filter} {index : Nat}
    (hfields : ∀ name ∈ filter.fields, ¬ Fresh name) (h : item.Grows Fresh grown) :
    filter.eval index item = filter.eval index grown := by
  induction filter with
  | comparison c =>
    apply c.eval_of_grows ?_ h
    intro name hname
    apply hfields
    rwa [fields, Option.mem_toList]
  | logical connective left right ihLeft ihRight =>
    rw [fields, List.forall_mem_append] at hfields
    rw [eval, eval, ihLeft hfields.1, ihRight hfields.2]

theorem survivors_alike {filter : Filter} (hfields : ∀ name ∈ filter.fields, ¬ Fresh name)
    (h : List.Forall₂ (Json.Grows Fresh) items others) (index : Nat) :
    Alike (List.Forall₂ (Json.Grows Fresh)) (filter.survivors index items)
      (filter.survivors index others) := by
  induction h generalizing index with
  | nil => exact .ok .nil
  | cons hitem _ ih =>
    rw [survivors, survivors, eval_of_grows hfields hitem]
    cases filter.eval index _ with
    | error failure => exact .error failure
    | ok keep =>
      apply (ih (index + 1)).bind
      intro kept kept' hkept
      cases keep with
      | true => exact .ok (.cons hitem hkept)
      | false => exact .ok hkept

end Filter

namespace Path

theorem items_of_grows (h : item.Grows Fresh grown) :
    List.Forall₂ (Json.Grows Fresh) (Path.items item) (Path.items grown) := by
  cases h with
  | array h => exact h
  | null => exact .cons .null .nil
  | bool value => exact .cons (.bool value) .nil
  | number value => exact .cons (.number value) .nil
  | string value => exact .cons (.string value) .nil
  | object kept within added => exact .cons (.object kept within added) .nil

variable {path : Path} {root : Json}

theorem applyFilters_alike {filters : List Filter}
    (hfields : ∀ name ∈ filters.flatMap Filter.fields, ¬ Fresh name)
    (h : List.Forall₂ (Json.Grows Fresh) items others) :
    Alike (List.Forall₂ (Json.Grows Fresh)) (applyFilters filters items)
      (applyFilters filters others) := by
  apply Alike.foldlM ?_ h
  intro filter hfilter passed passed' hpassed
  apply Filter.survivors_alike ?_ hpassed
  intro name hname
  exact hfields name (List.mem_flatMap.mpr ⟨filter, hfilter, hname⟩)

theorem resolve_alike {optional : Bool} (hkeys : ∀ key ∈ path.keys, ¬ Fresh key)
    (h : root.Grows Fresh grown) :
    Alike (Json.Grows Fresh) (path.resolve optional root) (path.resolve optional grown) := by
  induction path with
  | first step =>
    rw [keys, List.forall_mem_singleton] at hkeys
    rw [resolve, resolve]
    apply h.member_alike hkeys
  | child parent step ih =>
    rw [keys, List.forall_mem_append, List.forall_mem_singleton] at hkeys
    rw [resolve, resolve]
    apply (ih hkeys.1).bind
    intro value value' hvalue
    apply hvalue.member_alike hkeys.2

theorem eval_alike (hmentioned : ∀ key ∈ path.mentioned, ¬ Fresh key) (h : root.Grows Fresh grown) :
    Alike (fun found found' => List.Forall₂ (Json.Grows Fresh) found.values found'.values)
      (path.eval root) (path.eval grown) := by
  rw [mentioned, List.forall_mem_append] at hmentioned
  rw [eval, eval]
  apply (resolve_alike hmentioned.1 h).bind
  intro value value' hvalue
  split
  · exact .ok (.cons hvalue .nil)
  · apply (applyFilters_alike hmentioned.2 (items_of_grows hvalue)).bind
    intro kept kept' hkept
    exact .ok hkept

theorem contribution_alike (hmentioned : ∀ key ∈ path.mentioned, ¬ Fresh key)
    (h : root.Grows Fresh grown) :
    Alike (List.Forall₂ (Json.Grows Fresh)) (path.contribution root) (path.contribution grown) := by
  rcases (eval_alike hmentioned h).outcomes
    with ⟨found, found', hold, hnew, hfound⟩ | ⟨failure, hold, hnew⟩
  · rw [contribution_of_eval_ok hold, contribution_of_eval_ok hnew]
    exact .ok hfound
  · rw [contribution_of_eval_error hold, contribution_of_eval_error hnew]
    split
    · exact .ok .nil
    · exact .error failure

end Path

end Evaluation

section Run

variable {queries : List String} {root grown : Json} {values others : List Json}

theorem stage_alike {query : String} (hquery : query ∈ queries)
    (h : List.Forall₂ (Json.Grows (Unmentioned queries)) values others) :
    Alike (List.Forall₂ (Json.Grows (Unmentioned queries))) (stage values query)
      (stage others query) := by
  rw [stage, stage]
  cases hparse : Path.parse query with
  | error failure => exact .error failure
  | ok path =>
    have hmentioned : ∀ key ∈ path.mentioned, ¬ Unmentioned queries key := by
      intro key hkey hunmentioned
      exact hunmentioned query hquery path hparse hkey
    apply (Alike.mapM h fun _ _ hvalue => Path.contribution_alike hmentioned hvalue).bind
    intro found found' hfound
    exact .ok (List.rel_flatten hfound)

theorem stages_alike (h : root.Grows (Unmentioned queries) grown) :
    Alike (List.Forall₂ (Json.Grows (Unmentioned queries))) (stages root queries)
      (stages grown queries) := by
  -- The invariant of the two runs: they have selected the same values, but for growth.
  apply Alike.foldlM
  · intro query hquery values others hvalues
    exact stage_alike hquery hvalues
  · exact .cons h .nil

namespace Pipeline

/--
Members whose keys no query mentions change nothing of what the queries select. Run on the document with
and without them, the queries fail with the same failure, or select as many values, each of which is the
same but for such members.
-/
theorem selectAll_of_grows (h : root.Grows (Unmentioned queries) grown) :
    let run := (ofRoot root).selectAll queries
    let run' := (ofRoot grown).selectAll queries
    (∃ failure, run.state = .error failure ∧ run'.state = .error failure)
      ∨ ∃ values values', run.state = .ok ⟨values, queries⟩ ∧ run'.state = .ok ⟨values', queries⟩
          ∧ List.Forall₂ (Json.Grows (Unmentioned queries)) values values' := by
  intro run run'
  have hrun : run.state = _ := state_run root queries
  have hrun' : run'.state = _ := state_run grown queries
  rcases (stages_alike h).outcomes with ⟨values, values', hold, hnew, hvalues⟩ | ⟨failure, hold, hnew⟩
  · rw [hold] at hrun
    rw [hnew] at hrun'
    exact .inr ⟨values, values', hrun, hrun', hvalues⟩
  · rw [hold] at hrun
    rw [hnew] at hrun'
    exact .inl ⟨failure, hrun, hrun'⟩

theorem selectAll_of_grows_of_two_members :
    let queries := ["a[b==\"x\"]"]
    let root := Json.object [("a", .array [.object [("b", .string "x")], .object [("b", .null)]])]
    let grown := Json.object [("a", .array [.object [("b", .string "x"), ("c", .null)],
      .object [("b", .null)]]), ("d", .bool true)]
    let found := Json.object [("b", .string "x")]
    root.Grows (Unmentioned queries) grown
      ∧ ((ofRoot root).selectAll queries).state = .ok ⟨[found], queries⟩
      ∧ ∃ values', ((ofRoot grown).selectAll queries).state = .ok ⟨values', queries⟩
          ∧ List.Forall₂ (Json.Grows (Unmentioned queries)) [found] values' := by
  intro queries root grown found
  have hparse : Path.parse "a[b==\"x\"]"
      = .ok (.first ⟨"a", false, [.comparison ⟨some .eq, .text "b", some (.text "x")⟩]⟩) := by
    decide +kernel
  have hfresh : ∀ key, key ∉ ["a", "b"] → Unmentioned queries key := by
    intro key hkey query hquery path hpath
    rw [List.mem_singleton.mp hquery, hparse] at hpath
    cases hpath
    exact hkey
  have hgrows : root.Grows (Unmentioned queries) grown := by
    refine .cons (.array (.cons ?_ (.cons ?_ .nil))) (.cons_fresh rfl (hfresh "d" (by decide)) .nil)
    · exact .cons (.string "x") (.cons_fresh rfl (hfresh "c" (by decide)) .nil)
    · exact .cons .null .nil
  have hstate : ((ofRoot root).selectAll queries).state = .ok ⟨[found], queries⟩ := by
    rw [state_run]
    simp only [queries, stages, List.foldlM_cons, List.foldlM_nil, stage, hparse]
    rfl
  refine ⟨hgrows, hstate, ?_⟩
  rcases selectAll_of_grows hgrows with ⟨failure, hfailure, -⟩ | ⟨values, values', hvalues, hgrown, hsame⟩
  · rw [hstate] at hfailure
    cases hfailure
  · rw [hstate] at hvalues
    cases hvalues
    exact ⟨values', hgrown, hsame⟩

end Pipeline

end Run

end DotPath
