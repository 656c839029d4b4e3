import DotPath.Proofs.Filter.Survivors

/-!
This module contains how the six comparators divide the items of a value. A comparator sees a field only
through the order in which it stands to the literal. Whether there is such an order depends on the item
and on the literal alone, so the comparators fail together, and each order belongs to three of them.
-/

namespace DotPath

/-- The order in which the field of the item stands to the literal; a `null` stands there as an empty text. -/
def Json.compareField (item : Json) (name : String) (literal : Operand) : Except Failure Ordering := do
  let value ← item.member name name (.notFound name)
  match literal with
  | .text s => return compare (← value.asString name) s
  | .integer n => return (← value.asNumber name).compareInt64 n

variable {item : Json} {name : String} {literal : Operand}

theorem Json.compareField_null {s : String} (h : item.child? (.member name) = some .null) :
    item.compareField name (.text s) = .ok (compare "" s) := by
  rw [compareField, member_eq_ok_iff.mpr h]
  rfl

def Comparison.field (comparator : Comparator) (name : String) (literal : Operand) : Comparison :=
  ⟨some comparator, .text name, some literal⟩

theorem Comparison.eval_field (comparator : Comparator) (name : String) (literal : Operand)
    (index : Nat) (item : Json) : (field comparator name literal).eval index item
      = (item.compareField name literal).map comparator.holds := by
  show evalField _ _ _ _ = _
  rw [evalField, Json.compareField]
  cases item.member name name (.notFound name) with
  | error failure => rfl
  | ok value =>
    cases literal with
    | text s =>
      simp only [field, bind, Except.bind]
      cases value.asString name <;> rfl
    | integer n =>
      simp only [field, bind, Except.bind]
      cases value.asNumber name <;> rfl

/-- What holds of the comparators that accept some one order. -/
theorem Comparator.partition {order : Ordering} {Accepts : Comparator → Prop}
    (h : ∀ comparator, Accepts comparator ↔ comparator.holds order = true) :
    (Accepts .lt ↔ ¬ Accepts .ge) ∧ (Accepts .gt ↔ ¬ Accepts .le) ∧ (Accepts .eq ↔ ¬ Accepts .neq)
      ∧ (∃! comparator, comparator ∈ [.lt, .eq, .gt] ∧ Accepts comparator)
      ∧ (Accepts .le ↔ Accepts .lt ∨ Accepts .eq) ∧ (Accepts .ge ↔ Accepts .gt ∨ Accepts .eq) := by
  simp only [h]
  cases order <;> simp [holds, ExistsUnique]

namespace Path

variable {path : Path} {root value : Json}

/-- Whether a field can be compared is the same for all comparators. -/
theorem sift_field (items : Numbered) (name : String) (literal : Operand) :
    (∃ failure, ∀ comparator,
        sift (fun entry => (Filter.comparison (.field comparator name literal)).eval entry.2 entry.1) items
          = .error failure)
      ∨ ∀ entry ∈ items, ∃ order, entry.1.compareField name literal = .ok order := by
  have hsift (comparator : Comparator) (failure : Failure) :
      sift (fun entry => (Filter.comparison (.field comparator name literal)).eval entry.2 entry.1) items
        = .error failure ↔ items.mapM (·.1.compareField name literal) = .error failure := by
    have heach (entry other : Json × Nat) (h : entry = other) : Alike (fun _ _ => True)
        ((Filter.comparison (.field comparator name literal)).eval entry.2 entry.1)
        (other.1.compareField name literal) := by
      rw [h, Filter.eval, Comparison.eval_field]
      cases other.1.compareField name literal with
      | error failure => exact .error failure
      | ok order => exact .ok trivial
    have hall := Alike.mapM (List.forall₂_refl items) heach
    rw [(sift_alike_mapM _ items).eq_error_iff, hall.eq_error_iff]
  cases horders : items.mapM (·.1.compareField name literal) with
  | error failure => exact .inl ⟨failure, fun comparator => (hsift comparator failure).mpr horders⟩
  | ok orders => exact .inr (exists_mapM_eq_ok_iff.mp ⟨orders, horders⟩)

theorem exists_keeps_field (hresolve : path.resolve path.isOptional root = .ok value)
    (horders : ∀ entry ∈ value.elements.zipIdx, ∃ order, entry.1.compareField name literal = .ok order)
    (comparator : Comparator) : ∃ kept,
      (path.withFilters [.comparison (.field comparator name literal)]).Keeps root value kept := by
  simp only [keeps_filter_iff]
  refine ⟨_, hresolve, ?_, rfl⟩
  intro entry hentry
  rcases horders entry hentry with ⟨order, horder⟩
  rw [Filter.eval, Comparison.eval_field, horder]
  exact ⟨_, rfl⟩

theorem mem_iff_holds {comparator : Comparator} {kept : Numbered} {entry : Json × Nat}
    {order : Ordering}
    (h : (path.withFilters [.comparison (.field comparator name literal)]).Keeps root value kept)
    (hentry : entry ∈ value.elements.zipIdx) (horder : entry.1.compareField name literal = .ok order) :
    entry ∈ kept ↔ comparator.holds order = true := by
  rw [mem_iff_of_keeps h, Filter.eval, Comparison.eval_field, horder]
  simp [hentry, Except.map]

/--
A field of the items under a path without filters is compared with a literal. The six comparators fail
alike, or none of them fails. Then each item, told by its position, is left by exactly one of "less",
"equal" and "greater", and by one of each comparator and its negation.
-/
theorem comparators_partition (hplain : path.filters = []) (root : Json) (name : String)
    (literal : Operand) :
    let compared (comparator : Comparator) :=
      path.withFilters [.comparison (.field comparator name literal)]
    (∃ failure, ∀ comparator, (compared comparator).eval root = .error failure)
      ∨ ∃ (value : Json) (kept : Comparator → Numbered), path.eval root = .ok (.one value)
        ∧ (∀ comparator, (compared comparator).Keeps root value (kept comparator))
        ∧ ∀ entry ∈ value.elements.zipIdx,
          ((entry ∈ kept .lt ↔ entry ∉ kept .ge) ∧ (entry ∈ kept .gt ↔ entry ∉ kept .le)
            ∧ (entry ∈ kept .eq ↔ entry ∉ kept .neq)
            ∧ (∃! comparator, comparator ∈ [.lt, .eq, .gt] ∧ entry ∈ kept comparator)
            ∧ (entry ∈ kept .le ↔ entry ∈ kept .lt ∨ entry ∈ kept .eq)
            ∧ (entry ∈ kept .ge ↔ entry ∈ kept .gt ∨ entry ∈ kept .eq))
          ∧ ∀ text, literal = .text text → entry.1.child? (.member name) = some .null →
            ∀ comparator, entry ∈ kept comparator ↔ comparator.holds (compare "" text) = true := by
  intro compared
  cases hresolve : path.resolve path.isOptional root with
  | error failure =>
    refine .inl ⟨failure, ?_⟩
    intro comparator
    rw [eval_eq_resolve, resolve_of_withFilters, hresolve]
    rfl
  | ok value =>
    rcases sift_field value.elements.zipIdx name literal with ⟨failure, hfailure⟩ | horders
    · refine .inl ⟨failure, ?_⟩
      intro comparator
      rw [eval_withFilter _ hresolve, hfailure]
      rfl
    · choose kept hkept using exists_keeps_field hresolve horders
      refine .inr ⟨value, kept, ?_, hkept, ?_⟩
      · rw [eval_of_filters_nil hplain, hresolve]
        rfl
      · intro entry hentry
        rcases horders entry hentry with ⟨order, horder⟩
        have haccepts (comparator : Comparator) :
            entry ∈ kept comparator ↔ comparator.holds order = true :=
          mem_iff_holds (hkept comparator) hentry horder
        refine ⟨Comparator.partition haccepts, ?_⟩
        rintro text rfl hnull comparator
        rw [Json.compareField_null hnull] at horder
        cases horder
        exact haccepts comparator

/-- A field that is `null` stands before every text, so only "less" and its like accept the second item. -/
theorem comparators_partition_of_null_field :
    let path := Path.first ⟨"a", false, []⟩
    let item (field : Json) := Json.object [("k", field)]
    let root := Json.object [("a", .array [item (.string "x"), item .null, item (.string "z")])]
    let compared (comparator : Comparator) :=
      path.withFilters [.comparison (.field comparator "k" (.text "x"))]
    path.filters = [] ∧ (compared .lt).eval root = .ok (.many [item .null])
      ∧ ∃ (value : Json) (kept : Comparator → Numbered),
        (∀ comparator, (compared comparator).Keeps root value (kept comparator))
          ∧ ∀ entry ∈ value.elements.zipIdx, (entry ∈ kept .gt ↔ entry ∉ kept .le)
            ∧ (entry ∈ kept .le ↔ entry ∈ kept .lt ∨ entry ∈ kept .eq) := by
  intro path item root compared
  have hplain : path.filters = [] := rfl
  have hless : (compared .lt).eval root = .ok (.many [item .null]) := rfl
  refine ⟨hplain, hless, ?_⟩
  rcases comparators_partition hplain root "k" (.text "x")
    with ⟨failure, hfailure⟩ | ⟨value, kept, -, hkeeps, hentries⟩
  · cases (hfailure .lt).symm.trans hless
  · refine ⟨value, kept, hkeeps, ?_⟩
    intro entry hentry
    rcases (hentries entry hentry).1 with ⟨-, hgreater, -, -, hless, -⟩
    exact ⟨hgreater, hless⟩

end Path

end DotPath
