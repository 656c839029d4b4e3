import DotPath.Proofs.Path.Failing
import DotPath.Proofs.Path.Joining
import DotPath.Proofs.Path.Resolving
import DotPath.Proofs.Selection.Run
import Mathlib.Control.Monad.Basic

/-!
This module contains selection in two steps. To select by one path and then by another one leads to
what the two paths put together lead to, and it fails for the same selections. What one selected value
fails with is the same as well, but for the keys of the second path: only the path put together tells
where these keys began.
-/

namespace DotPath

namespace Path

variable {above path : Path} {value between : Json} {failure : Failure}

theorem eval_following (hrequired : path.isOptional = false) :
    (following above path).eval between
      = (path.resolve above.isOptional between).bind (chosen path.filters) := by
  rw [eval_eq_resolve, resolve_following, isOptional_following above path hrequired,
    filters_following]

theorem eval_append : (above.append path).eval value
    = ((above.resolve above.isOptional value).bind fun between =>
        (path.resolve above.isOptional between).mapError (·.beneath above.dotted)).bind
          (chosen path.filters) := by
  rw [eval_eq_resolve, resolve_append, isOptional_append, filters_append]

/-- `above` leads to a value, and from there on the keys of `path` fail. -/
def FailsBehind (above path : Path) (value : Json) (failure : Failure) : Prop :=
  ∃ between, above.eval value = .ok (.one between)
    ∧ path.resolve above.isOptional between = .error failure

theorem contribution_of_failsBehind (hplain : above.filters = [])
    (hrequired : path.isOptional = false) (h : FailsBehind above path value failure) :
    (above.append path).contribution value
        = (if failure.isOptionalMissing then .ok [] else .error (failure.beneath above.dotted))
      ∧ (above.contribution value >>= (following above path).evalEach)
        = (if failure.isOptionalMissing then .ok [] else .error failure) := by
  rcases h with ⟨between, habove, hresolve⟩
  constructor
  · have heval : (above.append path).eval value = .error (failure.beneath above.dotted) := by
      rw [eval_of_filters_nil hplain, map_eq_ok_iff] at habove
      rcases habove with ⟨_, habove, ⟨⟩⟩
      rw [eval_append, habove]
      simp only [Except.bind, hresolve]
      rfl
    rw [contribution_of_eval_error heval, failure.isOptionalMissing_beneath]
  · have heval : (following above path).eval between = .error failure := by
      rw [eval_following hrequired, hresolve]
      rfl
    rw [contribution_of_eval_ok habove]
    show (following above path).evalEach [between] = _
    rw [evalEach_singleton, contribution_of_eval_error heval]

theorem beneath_of_failsBehind (h : FailsBehind above path value failure)
    (hmissing : failure.isOptionalMissing = false) :
    (∃ behind, failure = .notFound behind
        ∧ failure.beneath above.dotted = .notFound (above.dotted ++ "." ++ behind))
      ∨ ∃ behind actual, failure = .typeMismatch behind .object actual
        ∧ failure.beneath above.dotted
          = .typeMismatch (above.dotted ++ "." ++ behind) .object actual := by
  rcases h with ⟨between, -, hresolve⟩
  rcases failure_of_resolve hresolve with ⟨blamed, rfl | ⟨actual, rfl⟩⟩
  · rw [isOptionalMissing_missing] at hmissing
    rw [hmissing]
    exact .inl ⟨blamed.dotted, rfl, rfl⟩
  · exact .inr ⟨blamed.dotted, actual, rfl, rfl⟩

theorem contribution_of_not_failsBehind (hplain : above.filters = [])
    (hrequired : path.isOptional = false) (h : ∀ failure, ¬ FailsBehind above path value failure) :
    (above.append path).contribution value
      = (above.contribution value >>= (following above path).evalEach) := by
  have heval : above.eval value = _ := eval_of_filters_nil hplain
  cases habove : above.resolve above.isOptional value with
  | error failure =>
    rw [habove] at heval
    have happend : (above.append path).eval value = .error failure := by
      rw [eval_append, habove]
      rfl
    rw [contribution_of_eval_error heval, contribution_of_eval_error happend]
    split <;> rfl
  | ok between =>
    rw [habove] at heval
    have hsame : (above.append path).eval value = (following above path).eval between := by
      rw [eval_append, habove, eval_following hrequired]
      simp only [Except.bind]
      cases hresolve : path.resolve above.isOptional between with
      | error failure => exact absurd ⟨between, heval, hresolve⟩ (h failure)
      | ok found => rfl
    rw [contribution_of_eval_ok heval]
    show _ = (following above path).evalEach [between]
    rw [evalEach_singleton, contribution, contribution, hsame]

theorem contribution_append_eq_ok_iff {found : List Json} (hplain : above.filters = [])
    (hrequired : path.isOptional = false) : (above.append path).contribution value = .ok found ↔
      ∃ reached, above.contribution value = .ok reached
        ∧ (following above path).evalEach reached = .ok found := by
  rw [← bind_eq_ok_iff]
  by_cases h : ∃ failure, FailsBehind above path value failure
  · rcases h with ⟨failure, h⟩
    rcases contribution_of_failsBehind hplain hrequired h with ⟨happend, hsteps⟩
    rw [happend, hsteps]
    cases failure.isOptionalMissing <;> simp
  · rw [contribution_of_not_failsBehind hplain hrequired (not_exists.mp h)]

theorem evalEach_append_eq_ok_iff {values others found : List Json} :
    path.evalEach (values ++ others) = .ok found ↔
      ∃ here there, path.evalEach values = .ok here ∧ path.evalEach others = .ok there
        ∧ here ++ there = found := by
  rw [evalEach_append]
  cases path.evalEach values with
  | error failure => simp [Except.bind]
  | ok here => simp [Except.bind, map_eq_ok_iff]

theorem evalEach_cons_eq_ok_iff {rest found : List Json} : path.evalEach (value :: rest) = .ok found ↔
    ∃ here there, path.contribution value = .ok here ∧ path.evalEach rest = .ok there
      ∧ here ++ there = found := by
  rw [← List.singleton_append, evalEach_append_eq_ok_iff, evalEach_singleton]

/-- Value by value, or all values by the one path before any by the other: what is found is the same. -/
theorem evalEach_append_path_eq_ok_iff {values found : List Json} (hplain : above.filters = [])
    (hrequired : path.isOptional = false) : (above.append path).evalEach values = .ok found ↔
      ∃ reached, above.evalEach values = .ok reached
        ∧ (following above path).evalEach reached = .ok found := by
  induction values generalizing found with
  | nil =>
    constructor
    · intro h
      exact ⟨[], rfl, h⟩
    · rintro ⟨_, ⟨⟩, h⟩
      exact h
  | cons value rest ih =>
    rw [evalEach_cons_eq_ok_iff]
    constructor
    · rintro ⟨here, there, hhere, hthere, rfl⟩
      rcases (contribution_append_eq_ok_iff hplain hrequired).mp hhere with ⟨first, hfirst, hhere⟩
      rcases ih.mp hthere with ⟨others, hothers, hthere⟩
      refine ⟨first ++ others, ?_, ?_⟩
      · rw [evalEach_cons_eq_ok_iff]
        exact ⟨first, others, hfirst, hothers, rfl⟩
      · rw [evalEach_append_eq_ok_iff]
        exact ⟨here, there, hhere, hthere, rfl⟩
    · rintro ⟨reached, hreached, hfound⟩
      rw [evalEach_cons_eq_ok_iff] at hreached
      rcases hreached with ⟨first, others, hfirst, hothers, rfl⟩
      rw [evalEach_append_eq_ok_iff] at hfound
      rcases hfound with ⟨here, there, hhere, hthere, rfl⟩
      refine ⟨here, there, ?_, ?_, rfl⟩
      · rw [contribution_append_eq_ok_iff hplain hrequired]
        exact ⟨first, hfirst, hhere⟩
      · rw [ih]
        exact ⟨others, hothers, hthere⟩

end Path

namespace Pipeline

variable {pipeline : Pipeline} {selection : Selection} {p q : String} {above path : Path}

theorem values_select_select (hstate : pipeline.state = .ok selection) (hp : Path.parse p = .ok above)
    (hq : Path.parse q = .ok path) : ((pipeline.select p).select q).values
      = above.evalEach selection.values >>= path.evalEach := by
  have hvalues := values_select hstate hp
  cases hnext : (pipeline.select p).state with
  | error failure =>
    rw [values, hnext] at hvalues
    rw [select_of_state_error hnext, values, hnext, ← hvalues]
    rfl
  | ok next =>
    rw [values, hnext] at hvalues
    rw [values_select hnext hq, ← hvalues]
    rfl

theorem failure_of_single {value : Json} {failure failure' : Failure} (hplain : above.filters = [])
    (hrequired : path.isOptional = false)
    (hsteps : above.contribution value >>= (Path.following above path).evalEach = .error failure)
    (happend : (above.append path).contribution value = .error failure') :
    (above.FailsBehind path value failure →
        failure.isOptionalMissing = false ∧ failure' = failure.beneath above.dotted)
      ∧ (¬ above.FailsBehind path value failure → failure' = failure) := by
  constructor
  · intro h
    rcases Path.contribution_of_failsBehind hplain hrequired h with ⟨htold, hraised⟩
    rw [happend] at htold
    cases hmissing : failure.isOptionalMissing with
    | true =>
      rw [hmissing] at htold
      cases htold
    | false =>
      rw [hmissing] at htold
      cases htold
      exact ⟨rfl, rfl⟩
  · intro h
    -- Any failure of the keys behind `above` would be the one that the two steps report.
    have hnone : ∀ other, ¬ above.FailsBehind path value other := by
      intro other hother
      have hraised := (Path.contribution_of_failsBehind hplain hrequired hother).2
      rw [hsteps] at hraised
      split at hraised
      · cases hraised
      · cases hraised
        exact h hother
    rw [Path.contribution_of_not_failsBehind hplain hrequired hnone, hsteps] at happend
    cases happend
    rfl

/--
To select by one text and then by another one comes to the same as to select by both of them with a dot
between. The first text has no filters, and the second one has no mark but takes over that of the first.
Both ways lead to the same values or fail. For a single value they fail alike, unless it is a key of the
second text that fails: then the path that is told of begins where the first text begins.
-/
theorem select_select_eq_select_dotted (hstate : pipeline.state = .ok selection)
    (hp : Path.parse p = .ok above) (hplain : above.filters = []) (hq : Path.parse q = .ok path)
    (hrequired : path.isOptional = false) :
    let stepwise := (pipeline.select p).select (if above.isOptional then "?" ++ q else q)
    let single := pipeline.select (p ++ "." ++ q)
    ((∃ values, stepwise.values = .ok values ∧ single.values = .ok values)
        ∨ ∃ failure failure', stepwise.values = .error failure ∧ single.values = .error failure')
      ∧ ∀ value failure failure', selection.values = [value] → stepwise.values = .error failure →
        single.values = .error failure' →
          (above.FailsBehind path value failure →
            (∃ behind, failure = .notFound behind
                ∧ failure' = .notFound (above.dotted ++ "." ++ behind))
              ∨ ∃ behind actual, failure = .typeMismatch behind .object actual
                ∧ failure' = .typeMismatch (above.dotted ++ "." ++ behind) .object actual)
          ∧ (¬ above.FailsBehind path value failure → failure' = failure) := by
  intro stepwise single
  have hstepwise : stepwise.values
      = above.evalEach selection.values >>= (Path.following above path).evalEach :=
    values_select_select hstate hp (Path.parse_following hq hrequired)
  have hsingle : single.values = (above.append path).evalEach selection.values :=
    values_select hstate (Path.parse_append hp hplain hq hrequired)
  constructor
  · have hiff : ∀ values, single.values = .ok values ↔ stepwise.values = .ok values := by
      intro values
      rw [hsingle, hstepwise, bind_eq_ok_iff]
      apply Path.evalEach_append_path_eq_ok_iff hplain hrequired
    cases hfound : single.values with
    | ok values => exact .inl ⟨values, (hiff values).mp hfound, rfl⟩
    | error failure' =>
      cases hother : stepwise.values with
      | ok values =>
        rw [← hiff, hfound] at hother
        cases hother
      | error failure => exact .inr ⟨failure, failure', rfl, rfl⟩
  · intro value failure failure' hvalue hfailure hfailure'
    rw [hstepwise, hvalue, Path.evalEach_singleton] at hfailure
    rw [hsingle, hvalue, Path.evalEach_singleton] at hfailure'
    rcases failure_of_single hplain hrequired hfailure hfailure' with ⟨hbehind, hsame⟩
    refine ⟨?_, hsame⟩
    intro h
    rcases hbehind h with ⟨hmissing, rfl⟩
    exact Path.beneath_of_failsBehind h hmissing

theorem select_select_eq_select_dotted_of_missing_key :
    let above := Path.first ⟨"a", false, []⟩
    let path := Path.first ⟨"b", false, [.comparison ⟨none, .integer 0, none⟩]⟩
    let root := Json.object [("a", .object [("c", .null)])]
    Path.parse "a" = .ok above ∧ Path.parse "b[0]" = .ok path
      ∧ above.FailsBehind path root (.notFound "b")
      ∧ (((ofRoot root).select "a").select "b[0]").values = .error (.notFound "b")
      ∧ ((ofRoot root).select "a.b[0]").values = .error (.notFound "a.b") := by
  intro above path root
  have hp : Path.parse "a" = .ok above := by
    decide +kernel
  have hq : Path.parse "b[0]" = .ok path := by
    decide +kernel
  have hstate : (ofRoot root).state = .ok (.ofRoot root) := rfl
  have hbehind : above.FailsBehind path root (.notFound "b") :=
    ⟨.object [("c", .null)], rfl, rfl⟩
  have hstepwise : (((ofRoot root).select "a").select "b[0]").values = .error (.notFound "b") := by
    rw [values_select_select hstate hp hq]
    rfl
  refine ⟨hp, hq, hbehind, hstepwise, ?_⟩
  rcases select_select_eq_select_dotted hstate hp rfl hq rfl with ⟨hfail, htold⟩
  rcases hfail with ⟨values, hvalues, -⟩ | ⟨failure, failure', hfailure, hsingle⟩
  · cases hstepwise.symm.trans hvalues
  · cases hstepwise.symm.trans hfailure
    rcases (htold root _ failure' rfl hstepwise hsingle).1 hbehind
      with ⟨behind, hnotFound, rfl⟩ | ⟨behind, actual, hmismatch, -⟩
    · cases hnotFound
      exact hsingle
    · cases hmismatch

end Pipeline

end DotPath
