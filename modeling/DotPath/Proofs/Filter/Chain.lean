import DotPath.Proofs.Path.Failing
import DotPath.Proofs.Path.Reading

/-!
This module contains the evaluation of a filter from that of its comparisons. Each comparison is
evaluated, from left to right, and the first one that fails makes the filter fail, whatever the ones
before it have decided. In the filters that texts spell the results are connected in the order of the
text, each connective taking all that stands in front of it as its left side.
-/

namespace DotPath

open Grammar

namespace Filter

variable {filter left : Filter} {links : List (Connective × Comparison)} {index : Nat} {item : Json}
  {holds : Comparison → Bool}

/-- The result of the filter if each of its comparisons has the result that `holds` says. -/
def value (holds : Comparison → Bool) (filter : Filter) : Bool :=
  match filter with
  | .comparison c => holds c
  | .logical connective left right => connective.apply (left.value holds) (right.value holds)

/-- `result` and the results behind it, connected from left to right, whatever the connectives are. -/
def connect (holds : Comparison → Bool) (result : Bool) (links : List (Connective × Comparison)) :
    Bool :=
  match links with
  | [] => result
  | (.and, c) :: links => connect holds (result && holds c) links
  | (.or, c) :: links => connect holds (result || holds c) links

theorem eval_alike_comparisons (filter : Filter) (index : Nat) (item : Json) :
    Alike (fun _ _ => True) (filter.eval index item)
      (filter.comparisons.mapM (·.eval index item)) := by
  induction filter with
  | comparison c =>
    rw [comparisons, List.mapM_cons, eval]
    cases c.eval index item with
    | ok result => exact .ok trivial
    | error failure => exact .error failure
  | logical connective left right ihLeft ihRight =>
    -- The right side is evaluated after the left one has succeeded, with either result.
    rw [comparisons, List.mapM_append, eval]
    apply ihLeft.bind
    intro _ _ _
    apply ihRight.bind
    intro _ _ _
    exact .ok trivial

theorem eval_eq_error_iff {failure : Failure} : filter.eval index item = .error failure ↔
    FirstError (·.eval index item) filter.comparisons failure := by
  rw [← mapM_eq_error_iff, (filter.eval_alike_comparisons index item).eq_error_iff]

theorem exists_eval_eq_ok_iff : (∃ result, filter.eval index item = .ok result) ↔
    ∀ comparison ∈ filter.comparisons, ∃ result, comparison.eval index item = .ok result := by
  rw [← exists_mapM_eq_ok_iff, (filter.eval_alike_comparisons index item).exists_eq_ok_iff]

theorem eval_eq_ok_value
    (h : ∀ comparison ∈ filter.comparisons, comparison.eval index item = .ok (holds comparison)) :
    filter.eval index item = .ok (filter.value holds) := by
  induction filter with
  | comparison c => exact h c (List.mem_singleton_self c)
  | logical connective left right ihLeft ihRight =>
    rw [comparisons, List.forall_mem_append] at h
    rw [eval, ihLeft h.1, ihRight h.2]
    rfl

theorem comparisons_extend (left : Filter) (links : List (Connective × Comparison)) :
    (left.extend links).comparisons = left.comparisons ++ links.map Prod.snd := by
  induction links generalizing left with
  | nil => rw [List.map_nil, List.append_nil]; rfl
  | cons link links ih =>
    rw [extend, List.foldl_cons, ← extend, ih, comparisons, List.append_assoc]
    rfl

theorem value_extend (left : Filter) (links : List (Connective × Comparison)) :
    (left.extend links).value holds = connect holds (left.value holds) links := by
  induction links generalizing left with
  | nil => rfl
  | cons link links ih =>
    rcases link with ⟨connective, c⟩
    rw [extend, List.foldl_cons, ← extend, ih]
    cases connective <;> rfl

/--
A text that is read as a filter is made of comparisons with connectives between them. If all of them can
be evaluated, their results are connected from left to right, both connectives being equally strong.
Otherwise the filter fails with what the first comparison of the text that fails does.
-/
theorem eval_of_read {text : String} {after : Cursor}
    (h : read (Cursor.ofText text) = .ok filter after) :
    ∃ head tail first links, DerivesComparison head first ∧ Many DerivesLink tail links
      ∧ (Cursor.ofText text).Spans (head ++ tail ++ [.rightBracket]) after
      ∧ filter = chain first links
      ∧ ∀ index item, let comparisons := first :: links.map Prod.snd
        ((∃ result, filter.eval index item = .ok result) ↔
            ∀ comparison ∈ comparisons, ∃ result, comparison.eval index item = .ok result)
          ∧ (∀ holds : Comparison → Bool,
            (∀ comparison ∈ comparisons, comparison.eval index item = .ok (holds comparison)) →
              filter.eval index item = .ok (connect holds (holds first) links))
          ∧ ∀ failure, filter.eval index item = .error failure ↔
            FirstError (·.eval index item) comparisons failure := by
  rcases derives_of_read h with ⟨kinds, hderives, hspans⟩
  cases hderives with
  | chain hhead htail =>
    refine ⟨_, _, _, _, hhead, htail, hspans, rfl, ?_⟩
    intro index item comparisons
    have hcomparisons : (chain _ _).comparisons = comparisons := comparisons_extend _ _
    rw [← hcomparisons]
    refine ⟨exists_eval_eq_ok_iff, ?_, fun _ => eval_eq_error_iff⟩
    intro holds hholds
    rw [eval_eq_ok_value hholds, chain, value_extend]
    rfl

/--
For the first object both connectives hold. With the second one the comparison of `b` would not count if
"and" were the stronger connective, and with the third one it fails although the comparison before it
already holds.
-/
theorem eval_of_read_of_mixed_connectives :
    let text := "a==1 || b==2 && c==3]"
    let filter := Filter.logical .and
      (.logical .or (.comparison ⟨some .eq, .text "a", some (.integer 1)⟩)
        (.comparison ⟨some .eq, .text "b", some (.integer 2)⟩))
      (.comparison ⟨some .eq, .text "c", some (.integer 3)⟩)
    let passing := Json.object [("a", .ofInt64 1), ("b", .ofInt64 0), ("c", .ofInt64 3)]
    let item := Json.object [("a", .ofInt64 1), ("b", .ofInt64 0), ("c", .ofInt64 0)]
    let failing := Json.object [("a", .ofInt64 1), ("b", .null)]
    (∃ after, read (Cursor.ofText text) = .ok filter after)
      ∧ filter.eval 0 passing = .ok true
      ∧ filter.eval 0 item = .ok false
      ∧ filter.eval 0 failing = .error (.typeMismatch "b" .number .null) := by
  intro text filter passing item failing
  have hread : ∃ after, read (Cursor.ofText text) = .ok filter after := by
    have haccepted : (match read (Cursor.ofText text) with
        | .ok found _ => some found
        | .error _ _ => none) = some filter := by
      decide +kernel
    split at haccepted
    · next after hread =>
      cases haccepted
      exact ⟨after, hread⟩
    · cases haccepted
  refine ⟨hread, ?_⟩
  rcases hread with ⟨after, hread⟩
  rcases eval_of_read hread with ⟨head, tail, first, links, -, -, -, hchain, heval⟩
  have hcomparisons : first :: links.map Prod.snd = filter.comparisons := by
    rw [hchain, chain, comparisons_extend]
    rfl
  have hvalue (holds : Comparison → Bool) : connect holds (holds first) links = filter.value holds := by
    rw [hchain, chain, value_extend]
    rfl
  rw [hcomparisons] at heval
  refine ⟨?_, ?_, ?_⟩
  · let holds (c : Comparison) : Bool := c.left ≠ .text "b"
    have hholds : ∀ c ∈ filter.comparisons, c.eval 0 passing = .ok (holds c) := by
      decide +kernel
    rw [(heval 0 passing).2.1 holds hholds, hvalue]
    rfl
  · let holds (c : Comparison) : Bool := c.left = .text "a"
    have hholds : ∀ c ∈ filter.comparisons, c.eval 0 item = .ok (holds c) := by
      decide +kernel
    rw [(heval 0 item).2.1 holds hholds, hvalue]
    rfl
  · have hfirst : FirstError (·.eval 0 failing) filter.comparisons (.typeMismatch "b" .number .null) := by
      refine ⟨[_], _, [_], rfl, ?_, rfl⟩
      rw [List.forall_mem_singleton]
      exact ⟨true, rfl⟩
    exact ((heval 0 failing).2.2 _).mpr hfirst

end Filter

end DotPath
