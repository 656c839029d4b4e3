import DotPath.CommandLine.Run
import DotPath.Proofs.Json.Printing

/-!
This module contains the proof that the JSON form of a path tells which path it is, for every path there
is and although members that say nothing are left out. The form has no doubles, so its text tells it too,
and queries of which the program shows the same text lead to the same everywhere.
-/

namespace DotPath

theorem Operand.toJson_inj {left right : Operand} (h : left.toJson = right.toJson) : left = right := by
  cases left with
  | text s =>
    cases right with
    | text t =>
      cases h
      rfl
    | integer n => cases h
  | integer m =>
    cases right with
    | text t => cases h
    | integer n =>
      simp only [toJson, Json.ofInt64, Json.number.injEq, Number.integer.injEq] at h
      rw [Int64.toInt_inj.mp h]

theorem Operand.toJson_ne_null (operand : Operand) : operand.toJson ≠ .null := by
  cases operand <;> rintro ⟨⟩

theorem Operand.integersOnly_toJson (operand : Operand) : operand.toJson.IntegersOnly := by
  cases operand with
  | text s => exact .string s
  | integer n => exact .integer n.toInt _

/-- An operand that is missing is told from the others by its form. -/
theorem Operand.form_inj {left right : Option Operand}
    (h : (left.map toJson).getD .null = (right.map toJson).getD .null) : left = right := by
  cases left with
  | none =>
    cases right with
    | none => rfl
    | some right => exact absurd h.symm right.toJson_ne_null
  | some left =>
    cases right with
    | none => exact absurd h left.toJson_ne_null
    | some right => rw [toJson_inj h]

theorem Comparator.label_inj {comparator other : Comparator} (h : comparator.label = other.label) :
    comparator = other := by
  cases comparator <;> cases other <;> first | rfl | exact absurd h (by decide)

namespace Comparison

theorem label_ne_of_comparator {c d : Comparison} {comparator : Comparator}
    (hc : c.comparator = some comparator) (hd : d.comparator = none) : c.label ≠ d.label := by
  rw [label, label, hc, hd]
  cases comparator <;> decide

theorem comparator_eq_of_label {c d : Comparison} (h : c.label = d.label) :
    c.comparator = d.comparator := by
  cases hc : c.comparator with
  | none =>
    cases hd : d.comparator with
    | none => rfl
    | some other => exact absurd h.symm (label_ne_of_comparator hd hc)
  | some comparator =>
    cases hd : d.comparator with
    | none => exact absurd h (label_ne_of_comparator hc hd)
    | some other =>
      rw [label, label, hc, hd] at h
      rw [Comparator.label_inj h]

theorem toJson_inj {c d : Comparison} (h : c.toJson = d.toJson) : c = d := by
  simp only [toJson, Json.object.injEq, List.cons.injEq, Prod.mk.injEq, Json.string.injEq, true_and,
    and_true] at h
  rcases h with ⟨hleft, hlabel, hright⟩
  have hcomparator := comparator_eq_of_label hlabel
  rcases c with ⟨comparator, left, right⟩
  rcases d with ⟨other, left', right'⟩
  cases hcomparator
  cases Operand.toJson_inj hleft
  cases Operand.form_inj hright
  rfl

theorem integersOnly_toJson (c : Comparison) : c.toJson.IntegersOnly := by
  have hright : ((c.right.map Operand.toJson).getD .null).IntegersOnly := by
    cases c.right with
    | none => exact .null
    | some right => exact right.integersOnly_toJson
  apply Json.IntegersOnly.object
  rw [List.forall_mem_cons, List.forall_mem_cons, List.forall_mem_cons, List.forall_mem_singleton]
  exact ⟨.string _, c.left.integersOnly_toJson, .string _, hright⟩

end Comparison

theorem Connective.label_inj {connective other : Connective} (h : connective.label = other.label) :
    connective = other := by
  cases connective <;> cases other <;> first | rfl | exact absurd h (by decide)

namespace Filter

theorem toJson_inj {filter other : Filter} (h : filter.toJson = other.toJson) : filter = other := by
  induction filter generalizing other with
  | comparison c =>
    cases other with
    | comparison d => rw [Comparison.toJson_inj h]
    | logical connective left right =>
      -- The kinds of the two forms differ.
      simp [toJson, Comparison.toJson] at h
  | logical connective left right ihLeft ihRight =>
    cases other with
    | comparison d => simp [toJson, Comparison.toJson] at h
    | logical connective' left' right' =>
      simp only [toJson, Json.object.injEq, List.cons.injEq, Prod.mk.injEq, Json.string.injEq,
        true_and, and_true] at h
      rcases h with ⟨hleft, hlabel, hright⟩
      rw [ihLeft hleft, Connective.label_inj hlabel, ihRight hright]

theorem integersOnly_toJson (filter : Filter) : filter.toJson.IntegersOnly := by
  induction filter with
  | comparison c => exact c.integersOnly_toJson
  | logical connective left right ihLeft ihRight =>
    apply Json.IntegersOnly.object
    rw [List.forall_mem_cons, List.forall_mem_cons, List.forall_mem_cons, List.forall_mem_singleton]
    exact ⟨.string _, ihLeft, .string _, ihRight⟩

end Filter

namespace Step

variable {step other : Step} {tail : List (String × Json)}

theorem find?_key (step : Step) (tail : List (String × Json)) :
    Keyed.find? "key" (step.members ++ tail) = some (.string step.key) := by
  unfold members
  split <;> rfl

theorem find?_optional (step : Step) (tail : List (String × Json)) :
    Keyed.find? "optional" (step.members ++ tail)
      = if step.optional then some (.bool true) else Keyed.find? "optional" tail := by
  unfold members
  split <;> split <;> rfl

theorem find?_filters (step : Step) (tail : List (String × Json)) :
    Keyed.find? "filters" (step.members ++ tail)
      = if step.filters.isEmpty then Keyed.find? "filters" tail
        else some (.array (step.filters.map Filter.toJson)) := by
  unfold members
  split
  · split <;> rfl
  · rfl

theorem find?_parent (step : Step) (tail : List (String × Json)) :
    Keyed.find? "parent" (step.members ++ tail) = Keyed.find? "parent" tail := by
  unfold members
  split <;> split <;> rfl

theorem integersOnly_of_mem_members (step : Step) :
    ∀ member ∈ step.members, member.2.IntegersOnly := by
  have hfilters : (Json.array (step.filters.map Filter.toJson)).IntegersOnly := by
    apply Json.IntegersOnly.array
    rw [List.forall_mem_map]
    intro filter _
    exact filter.integersOnly_toJson
  intro member hmember
  unfold members at hmember
  rw [List.mem_append, List.mem_append, List.mem_singleton] at hmember
  rcases hmember with (hmember | rfl) | hmember
  · split at hmember
    · cases hmember
    · rw [List.mem_singleton] at hmember
      rw [hmember]
      exact hfilters
  · exact .string step.key
  · split at hmember
    · rw [List.mem_singleton] at hmember
      rw [hmember]
      exact .bool true
    · cases hmember

end Step

namespace Path

variable {path other : Path}

/-- What the form of a path has besides the members of its last step. -/
def parentMembers (path : Path) : List (String × Json) :=
  match path with
  | .first _ => []
  | .child parent _ => [("parent", parent.toJson)]

theorem toJson_eq (path : Path) : path.toJson = .object (path.last.members ++ path.parentMembers) := by
  cases path with
  | first step => rw [parentMembers, List.append_nil]; rfl
  | child parent step => rfl

theorem find?_parentMembers {key : String} (h : key ≠ "parent") (path : Path) :
    Keyed.find? key path.parentMembers = none := by
  cases path with
  | first step => rfl
  | child parent step => exact if_neg (Ne.symm h)

theorem find?_toJson_eq (h : path.toJson = other.toJson) (key : String) :
    Keyed.find? key (path.last.members ++ path.parentMembers)
      = Keyed.find? key (other.last.members ++ other.parentMembers) := by
  rw [toJson_eq, toJson_eq, Json.object.injEq] at h
  rw [h]

theorem last_eq_of_toJson (h : path.toJson = other.toJson) : path.last = other.last := by
  have hkey := find?_toJson_eq h "key"
  rw [Step.find?_key, Step.find?_key] at hkey
  have hoptional := find?_toJson_eq h "optional"
  rw [Step.find?_optional, Step.find?_optional, find?_parentMembers (by decide),
    find?_parentMembers (by decide)] at hoptional
  have hfilters := find?_toJson_eq h "filters"
  rw [Step.find?_filters, Step.find?_filters, find?_parentMembers (by decide),
    find?_parentMembers (by decide)] at hfilters
  generalize path.last = step at *
  generalize other.last = step' at *
  rcases step with ⟨key, optional, filters⟩
  rcases step' with ⟨key', optional', filters'⟩
  have hmark : optional = optional' := by
    cases optional <;> cases optional' <;> first | rfl | cases hoptional
  have hforms : filters.map Filter.toJson = filters'.map Filter.toJson := by
    -- An empty list of filters has no member, and any other list has one.
    cases filters with
    | nil =>
      cases filters' with
      | nil => rfl
      | cons => cases hfilters
    | cons =>
      cases filters' with
      | nil => cases hfilters
      | cons => exact Json.array.inj (Option.some.inj hfilters)
  cases hkey
  cases hmark
  cases (List.map_inj_right fun _ _ => Filter.toJson_inj).mp hforms
  rfl

theorem toJson_inj (h : path.toJson = other.toJson) : path = other := by
  have hlast := last_eq_of_toJson h
  have hparent := find?_toJson_eq h "parent"
  rw [Step.find?_parent, Step.find?_parent] at hparent
  induction path generalizing other with
  | first step =>
    cases other with
    | first step' =>
      cases hlast
      rfl
    | child parent' step' => cases hparent
  | child parent step ih =>
    cases other with
    | first step' => cases hparent
    | child parent' step' =>
      have hform : parent.toJson = parent'.toJson := by
        simpa [parentMembers, Keyed.find?] using hparent
      have hnext := find?_toJson_eq hform "parent"
      rw [Step.find?_parent, Step.find?_parent] at hnext
      rw [ih hform (last_eq_of_toJson hform) hnext]
      cases hlast
      rfl

theorem integersOnly_toJson (path : Path) : path.toJson.IntegersOnly := by
  induction path with
  | first step => exact .object step.integersOnly_of_mem_members
  | child parent step ih =>
    apply Json.IntegersOnly.object
    rw [List.forall_mem_append, List.forall_mem_singleton]
    exact ⟨step.integersOnly_of_mem_members, ih⟩

end Path

namespace CommandLine.Invocation

variable {invocation other : Invocation} {stdin : String}

theorem run_of_ast (hast : invocation.ast = true) (stdin : String) :
    (∃ path, Path.parse invocation.query = .ok path
      ∧ invocation.run stdin = .success path.toJson)
      ∨ (invocation.run stdin).exitCode = 1 ∧ (invocation.run stdin).stdout = "" := by
  unfold run
  rw [if_pos hast]
  cases Path.parse invocation.query with
  | ok path => exact .inl ⟨path, rfl, rfl⟩
  | error failure => exact .inr ⟨rfl, rfl⟩

/--
A path is told by its JSON form. So if the program shows the same of two queries, these are the same path
and lead to the same from every document.
-/
theorem shown_path_tells_query :
    (∀ path other : Path, path.toJson = other.toJson ↔ path = other)
      ∧ ∀ (invocation other : Invocation) (stdin stdin' : String), invocation.ast = true →
        other.ast = true → (invocation.run stdin).exitCode = 0 →
        (invocation.run stdin).stdout = (other.run stdin').stdout →
          (∃ path, Path.parse invocation.query = .ok path ∧ Path.parse other.query = .ok path)
            ∧ ∀ root : Json, root.lookup invocation.query = root.lookup other.query := by
  refine ⟨?_, ?_⟩
  · intro path other
    constructor
    · exact Path.toJson_inj
    · rintro rfl
      rfl
  intro invocation other stdin stdin' hast hother hexit hstdout
  have hsame : ∃ path, Path.parse invocation.query = .ok path ∧ Path.parse other.query = .ok path := by
    rcases run_of_ast hast stdin with ⟨path, hparse, hrun⟩ | ⟨hfails, -⟩
    · rw [hrun] at hstdout
      rcases run_of_ast hother stdin' with ⟨path', hparse', hrun'⟩ | ⟨-, hempty⟩
      · rw [hrun'] at hstdout
        have hprint : path.toJson.print = path'.toJson.print := by
          simpa [Outcome.success] using hstdout
        have hjson := Json.print_inj path.integersOnly_toJson path'.integersOnly_toJson hprint
        cases Path.toJson_inj hjson
        exact ⟨path, hparse, hparse'⟩
      · rw [hempty] at hstdout
        have hlines := congrArg String.toList hstdout
        simp [Outcome.success] at hlines
    · rw [hfails] at hexit
      cases hexit
  refine ⟨hsame, ?_⟩
  intro root
  rcases hsame with ⟨path, hparse, hparse'⟩
  rw [Json.lookup, Json.lookup, hparse, hparse']

/-- Blanks and the quotes around a literal are not shown. -/
theorem shown_path_tells_query_of_spaced_filter :
    let invocation : Invocation := ⟨"-", "?a.b[c==\"d\" && 0]", [], none, true, none⟩
    let other : Invocation := ⟨"-", " ? a . \"b\" [ c == d && 00 ] ", [], none, true, none⟩
    (invocation.run "").stdout = (other.run "").stdout
      ∧ ∀ root : Json, root.lookup invocation.query = root.lookup other.query := by
  intro invocation other
  have hexit : (invocation.run "").exitCode = 0 := by decide +kernel
  have hstdout : (invocation.run "").stdout = (other.run "").stdout := by decide +kernel
  exact ⟨hstdout, (shown_path_tells_query.2 invocation other "" "" rfl rfl hexit hstdout).2⟩

end CommandLine.Invocation

end DotPath
