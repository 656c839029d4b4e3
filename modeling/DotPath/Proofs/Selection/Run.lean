import DotPath.Pipeline
import DotPath.Proofs.Outcome
import DotPath.Proofs.Path.Blame

/-!
This module contains the reference that runs of a pipeline are measured by: a fold over the queries
that keeps nothing but values. A run that no query has stopped holds the values of the fold and the
queries that led to them. A run that has been stopped holds the failure of the first query that fails,
and of the first value that it fails for, and answers with it ever after.
-/

namespace DotPath

namespace Path

/-- What `value` adds to a selection; a value that an optional path leads nowhere from adds nothing. -/
def contribution (path : Path) (value : Json) : Except Failure (List Json) :=
  match path.eval value with
  | .ok (.one found) => .ok [found]
  | .ok (.many found) => .ok found
  | .error (.optionalMissing _) => .ok []
  | .error failure => .error failure

theorem contribution_of_eval_ok {path : Path} {value : Json} {found : Matches}
    (h : path.eval value = .ok found) : path.contribution value = .ok found.values := by
  unfold contribution
  rw [h]
  cases found <;> rfl

theorem contribution_of_eval_error {path : Path} {value : Json} {failure : Failure}
    (h : path.eval value = .error failure) :
    path.contribution value = if failure.isOptionalMissing then .ok [] else .error failure := by
  unfold contribution
  rw [h]
  cases failure <;> rfl

theorem eval_of_contribution_error {path : Path} {value : Json} {failure : Failure}
    (h : path.contribution value = .error failure) :
    path.eval value = .error failure ∧ failure.isOptionalMissing = false := by
  cases heval : path.eval value with
  | ok found =>
    rw [contribution_of_eval_ok heval] at h
    cases h
  | error other =>
    rw [contribution_of_eval_error heval] at h
    split at h
    · cases h
    · next hother =>
      cases h
      exact ⟨rfl, by simpa using hother⟩

theorem evalEach_cons (path : Path) (value : Json) (rest : List Json) :
    path.evalEach (value :: rest)
      = (path.contribution value).bind fun found => (path.evalEach rest).map (found ++ ·) := by
  rw [evalEach]
  cases heval : path.eval value with
  | ok found =>
    rw [contribution_of_eval_ok heval]
    rfl
  | error failure =>
    rw [contribution_of_eval_error heval]
    cases failure with
    | optionalMissing =>
      show path.evalEach rest = (path.evalEach rest).map ([] ++ ·)
      cases path.evalEach rest <;> rfl
    | _ => rfl

theorem evalEach_eq_mapM (path : Path) (values : List Json) :
    path.evalEach values = (values.mapM path.contribution).map List.flatten := by
  induction values with
  | nil => rfl
  | cons value rest ih =>
    rw [List.mapM_cons, evalEach_cons, ih]
    cases path.contribution value with
    | error failure => rfl
    | ok found => cases rest.mapM path.contribution <;> rfl

theorem evalEach_singleton (path : Path) (value : Json) :
    path.evalEach [value] = path.contribution value := by
  rw [evalEach_cons]
  cases path.contribution value with
  | error failure => rfl
  | ok found => exact congrArg Except.ok (List.append_nil found)

theorem evalEach_append (path : Path) (values others : List Json) :
    path.evalEach (values ++ others)
      = (path.evalEach values).bind fun found => (path.evalEach others).map (found ++ ·) := by
  rw [evalEach_eq_mapM, evalEach_eq_mapM, evalEach_eq_mapM, List.mapM_append]
  cases values.mapM path.contribution with
  | error failure => rfl
  | ok here =>
    cases others.mapM path.contribution with
    | error failure => rfl
    | ok there => exact congrArg Except.ok List.flatten_append

end Path

/-- What `query` leads to from each of `values`, in order; the query is read before any value is seen. -/
def stage (values : List Json) (query : String) : Except Failure (List Json) := do
  let path ← Path.parse query
  let found ← values.mapM path.contribution
  return found.flatten

def stages (root : Json) (queries : List String) : Except Failure (List Json) :=
  queries.foldlM stage [root]

/-- `query` fails, as a text or for the first of `values` that it does not go on from. -/
def FailsFirst (values : List Json) (query : String) (failure : Failure) : Prop :=
  Path.parse query = .error failure ∨
    ∃ path before value behind, Path.parse query = .ok path ∧ values = before ++ value :: behind
      ∧ (∀ earlier ∈ before, ∃ found, path.contribution earlier = .ok found)
      ∧ path.eval value = .error failure ∧ failure.isOptionalMissing = false

theorem failsFirst_of_stage {values : List Json} {query : String} {failure : Failure}
    (h : stage values query = .error failure) : FailsFirst values query failure := by
  rw [stage, bind_eq_error_iff] at h
  rcases h with hparse | ⟨path, hparse, h⟩
  · exact .inl hparse
  · rcases bind_eq_error_iff.mp h with hfound | ⟨_, _, h⟩
    · rcases mapM_eq_error hfound with ⟨before, value, behind, hvalues, hbefore, hvalue⟩
      rcases Path.eval_of_contribution_error hvalue with ⟨heval, hmissing⟩
      exact .inr ⟨path, before, value, behind, hparse, hvalues, hbefore, heval, hmissing⟩
    · cases h

namespace Selection

theorem select_eq_stage (selection : Selection) (query : String) :
    selection.select query
      = (stage selection.values query).map (⟨·, selection.trail ++ [query]⟩) := by
  unfold select stage
  cases Path.parse query with
  | error failure => rfl
  | ok path =>
    simp only [bind, Except.bind]
    rw [Path.evalEach_eq_mapM]
    cases selection.values.mapM path.contribution <;> rfl

end Selection

namespace Pipeline

/-- What a stopped pipeline is: nothing changes it, and every question is answered by the failure. -/
structure Stopped (pipeline : Pipeline) (failure : Failure) : Prop where
  state : pipeline.state = .error failure
  select : ∀ query, pipeline.select query = pipeline
  selectAll : ∀ queries, pipeline.selectAll queries = pipeline
  failure? : pipeline.failure? = some failure
  values : pipeline.values = .error failure
  extract : ∀ (T : Type) [Target T] (target : T), pipeline.extract target = .error failure target

theorem select_of_state_error {pipeline : Pipeline} {failure : Failure}
    (h : pipeline.state = .error failure) (query : String) : pipeline.select query = pipeline := by
  unfold select
  rw [h]

theorem stopped_of_state_error {pipeline : Pipeline} {failure : Failure}
    (h : pipeline.state = .error failure) : pipeline.Stopped failure := by
  constructor
  · exact h
  · apply select_of_state_error h
  · intro queries
    induction queries with
    | nil => rfl
    | cons query queries ih =>
      rw [Pipeline.selectAll, List.foldl_cons, select_of_state_error h]
      exact ih
  · rw [Pipeline.failure?, h]
  · rw [Pipeline.values, h]
    rfl
  · intro T _ target
    rw [Pipeline.extract, h]

theorem values_select {pipeline : Pipeline} {selection : Selection} {query : String} {path : Path}
    (hstate : pipeline.state = .ok selection) (hparse : Path.parse query = .ok path) :
    (pipeline.select query).values = path.evalEach selection.values := by
  rw [select, hstate]
  simp only [values, Selection.select, hparse]
  simp only [bind, Except.bind]
  cases path.evalEach selection.values <;> rfl

theorem failure?_eq_some_iff {pipeline : Pipeline} {failure : Failure} :
    pipeline.failure? = some failure ↔ pipeline.values = .error failure := by
  rw [failure?, values]
  cases pipeline.state with
  | ok selection => simp [Except.map]
  | error other => simp [Except.map]

theorem state_selectAll (selection : Selection) (queries : List String) :
    (selectAll ⟨.ok selection⟩ queries).state
      = (queries.foldlM stage selection.values).map (⟨·, selection.trail ++ queries⟩) := by
  induction queries generalizing selection with
  | nil =>
    rw [List.append_nil]
    rfl
  | cons query queries ih =>
    rw [selectAll, List.foldl_cons, ← selectAll, List.foldlM_cons]
    have hselect : select ⟨.ok selection⟩ query = ⟨selection.select query⟩ := rfl
    rw [hselect, selection.select_eq_stage]
    cases stage selection.values query with
    | error failure =>
      -- The fold ends here. The pipeline sees the other queries too, but they change nothing.
      show (selectAll ⟨.error failure⟩ queries).state = _
      rw [(stopped_of_state_error rfl).selectAll]
      rfl
    | ok values =>
      show (selectAll ⟨.ok ⟨values, selection.trail ++ [query]⟩⟩ queries).state = _
      rw [ih, List.append_assoc]
      rfl

theorem state_run (root : Json) (queries : List String) :
    ((ofRoot root).selectAll queries).state = (stages root queries).map (⟨·, queries⟩) := by
  apply state_selectAll

/--
A run of selects is the fold over its queries. It either holds the values of the fold and describes
itself by the queries, or the earliest query that fails has stopped it for good.
-/
theorem selectAll_eq_stages (root : Json) (queries : List String) :
    let run := (ofRoot root).selectAll queries
    match stages root queries with
    | .ok values =>
      run.state = .ok ⟨values, queries⟩ ∧ run.values = .ok values ∧ run.failure? = none
        ∧ (Selection.mk values queries).describe
          = if queries = [] then "<root>" else " | ".intercalate queries
    | .error failure =>
      run.Stopped failure ∧ ∃ before query behind values, queries = before ++ query :: behind
        ∧ stages root before = .ok values ∧ FailsFirst values query failure := by
  intro run
  have hstate : run.state = (stages root queries).map (⟨·, queries⟩) := state_run root queries
  cases hstages : stages root queries with
  | ok values =>
    rw [hstages] at hstate
    refine ⟨hstate, ?_, ?_, ?_⟩
    · rw [Pipeline.values, hstate]
      rfl
    · rw [Pipeline.failure?, hstate]
      rfl
    · cases queries <;> rfl
  | error failure =>
    rw [hstages] at hstate
    refine ⟨stopped_of_state_error hstate, ?_⟩
    rcases foldlM_eq_error hstages with ⟨before, query, behind, values, hqueries, hbefore, hquery⟩
    exact ⟨before, query, behind, values, hqueries, hbefore, failsFirst_of_stage hquery⟩

end Pipeline

end DotPath
