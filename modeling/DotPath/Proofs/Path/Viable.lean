import DotPath.Proofs.Path.FaultPlace

/-!
This module contains the proof that syntax errors are found as far to the left as they can be. What is
consumed in front of an error can still be completed to a query. With the tokens that the error is about
there is no query any more, and only a text that some query goes on from is said to end too early.
-/

namespace DotPath

open Cursor Grammar Text

namespace Path

variable {text : String} {consumed remaining : List Char} {kinds rest : List TokenKind}
  {state : State} {fault : SyntaxFault} {failure : Failure}

/-- Some query begins with tokens of these kinds. -/
def Viable (kinds : List TokenKind) : Prop :=
  ∃ text path rest, parse text = .ok path ∧ (ofText text).kinds = kinds ++ rest

/-- Some query is made of tokens of these kinds. -/
def Complete (kinds : List TokenKind) : Prop :=
  ∃ text path, parse text = .ok path ∧ (ofText text).kinds = kinds

/-- The fault, found behind `consumed` whose tokens are `kinds`, is the first one of `text`. -/
structure Leftmost (text : String) (consumed : String) (kinds : List TokenKind)
    (fault : SyntaxFault) : Prop where
  consumed_kinds : (ofText consumed).kinds = kinds
  viable : Viable kinds
  completion : ∃ completion path, parse (consumed ++ completion) = .ok path
  token : ∀ expected found, fault = .unexpectedToken expected found →
    (∃ behind, (ofText text).kinds = kinds ++ found :: behind) ∧ ¬ Viable (kinds ++ [found])
  integer : fault = .integerOnLeft → ∃ n comparator,
    (∃ behind, (ofText text).kinds = kinds ++ .integer n :: .comparator comparator :: behind)
      ∧ ¬ Viable (kinds ++ [.integer n, .comparator comparator])
  finish : (∃ expected, fault = .unexpectedEnd expected) ↔
    (ofText text).stream.failure? = none ∧ Viable (ofText text).kinds
      ∧ ¬ Complete (ofText text).kinds

theorem Viable.of_append (h : Viable (kinds ++ rest)) : Viable kinds := by
  rcases h with ⟨text, path, behind, hparse, hkinds⟩
  exact ⟨text, path, rest ++ behind, hparse, by rw [hkinds, List.append_assoc]⟩

theorem Viable.exists_run? (h : Viable kinds) : ∃ state, State.start.run? kinds = some state := by
  rcases h with ⟨text, path, behind, hparse, hkinds⟩
  have haccepts := (accepts_of_parse hparse).2
  rw [hkinds] at haccepts
  exact haccepts.exists_run?

theorem not_viable_of_run? (h : State.start.run? kinds = none) : ¬ Viable kinds := by
  intro hviable
  rcases hviable.exists_run? with ⟨state, hrun⟩
  rw [h] at hrun
  cases hrun

theorem Complete.accepts (h : Complete kinds) : State.start.Accepts kinds := by
  rcases h with ⟨text, path, hparse, rfl⟩
  exact (accepts_of_parse hparse).2

theorem exists_completion (h : Lexes consumed kinds) (hrun : State.start.run? kinds = some state) :
    ∃ path behind, parse (String.ofList consumed ++ state.completion) = .ok path
      ∧ (ofText (String.ofList consumed ++ state.completion)).kinds = kinds ++ behind := by
  rcases state.lexes_completion with ⟨behind, hbehind, haccepts⟩
  rcases state.completion_apart with ⟨hapart, hequals⟩
  have hlexes : Lexes (String.ofList consumed ++ state.completion).toList (kinds ++ behind) := by
    rw [String.toList_append, String.toList_ofList]
    apply h.append hapart hequals hbehind
  rcases hlexes.stream_eq [] with ⟨hkinds, hfailure⟩
  have hparse : ∃ path, parse (String.ofList consumed ++ state.completion) = .ok path := by
    rw [exists_parse_iff]
    refine ⟨hfailure, ?_⟩
    rw [ofText, hkinds, State.accepts_append_iff hrun]
    exact haccepts
  rcases hparse with ⟨path, hparse⟩
  exact ⟨path, behind, hparse, hkinds⟩

theorem exists_unexpectedEnd_iff (h : parse text = .error failure) (hviable : Viable kinds)
    (hstuck : Stuck text consumed remaining kinds fault) :
    (∃ expected, fault = .unexpectedEnd expected) ↔
      (ofText text).stream.failure? = none ∧ Viable (ofText text).kinds
        ∧ ¬ Complete (ofText text).kinds := by
  constructor
  · rintro ⟨expected, rfl⟩
    cases hstuck with
    | lexeme _ hbegins => cases hbegins.isLexical
    | finish hkinds hfailure =>
      refine ⟨hfailure, by rwa [hkinds], ?_⟩
      intro hcomplete
      rcases exists_parse_iff.mpr ⟨hfailure, hcomplete.accepts⟩ with ⟨path, hparse⟩
      rw [h] at hparse
      cases hparse
  · -- Any other fault lies in front of the end, and no query begins with the tokens up to it.
    rintro ⟨hfailure, hwhole, -⟩
    cases hstuck with
    | lexeme hsome => exact absurd hfailure hsome
    | token hkinds hnone =>
      rw [hkinds, List.append_cons] at hwhole
      exact absurd hwhole.of_append (not_viable_of_run? hnone)
    | finish _ _ _ expected => exact ⟨expected, rfl⟩
    | integer hkinds hnone =>
      rw [hkinds, List.append_cons, List.append_cons, List.append_assoc kinds] at hwhole
      exact absurd hwhole.of_append (not_viable_of_run? hnone)

theorem leftmost_of_stuck (h : parse text = .error failure)
    (hdivides : Divides text consumed remaining kinds) (hrun : State.start.run? kinds = some state)
    (hstuck : Stuck text consumed remaining kinds fault) :
    Leftmost text (String.ofList consumed) kinds fault := by
  rcases exists_completion hdivides.lexes hrun with ⟨path, behind, hparse, hkinds⟩
  have hviable : Viable kinds := ⟨_, path, behind, hparse, hkinds⟩
  constructor
  · rw [ofText, String.toList_ofList]
    exact (hdivides.lexes.stream_eq []).1
  · exact hviable
  · exact ⟨_, path, hparse⟩
  · rintro expected found rfl
    cases hstuck with
    | lexeme _ hbegins => cases hbegins.isLexical
    | token hkinds hnone => exact ⟨⟨_, hkinds⟩, not_viable_of_run? hnone⟩
  · rintro rfl
    cases hstuck with
    | lexeme _ hbegins => cases hbegins.isLexical
    | integer hkinds hnone => exact ⟨_, _, ⟨_, hkinds⟩, not_viable_of_run? hnone⟩
  · exact exists_unexpectedEnd_iff h hviable hstuck

/-- A text that is no query is blamed behind the longest part that can still become one. -/
theorem leftmost_of_parse (h : parse text = .error failure) :
    ∃ fault offset consumed remaining, failure = .malformed fault offset consumed remaining
      ∧ text = consumed ++ remaining ∧ offset = byteLength consumed.toList
      ∧ Leftmost text consumed ((ofText text).stream.kindsBefore offset) fault := by
  rcases (deadEnd_of_parse h).getsStuck
    with ⟨fault, consumed, remaining, kinds, state, hdivides, hrun, hstuck, rfl⟩
  refine ⟨_, _, _, _, rfl, hdivides.text_eq_append, ?_, ?_⟩
  · rw [String.toList_ofList]
  · rw [hdivides.kindsBefore_eq]
    exact leftmost_of_stuck h hdivides hrun hstuck

theorem leftmost_of_integer_on_left :
    parse "a[b&&1==2]" = .error (.malformed .integerOnLeft 5 "a[b&&" "1==2]")
      ∧ (∃ completion path, parse ("a[b&&" ++ completion) = .ok path)
      ∧ ∃ n comparator, ¬ Viable ((ofText "a[b&&").kinds ++ [.integer n, .comparator comparator]) := by
  have hparse : parse "a[b&&1==2]" = .error (.malformed .integerOnLeft 5 "a[b&&" "1==2]") := by
    decide +kernel
  refine ⟨hparse, ?_⟩
  rcases leftmost_of_parse hparse
    with ⟨fault, offset, consumed, remaining, hfailure, -, -, hleftmost⟩
  cases hfailure
  rcases hleftmost.integer rfl with ⟨n, comparator, -, hdead⟩
  rw [← hleftmost.consumed_kinds] at hdead
  exact ⟨hleftmost.completion, n, comparator, hdead⟩

end Path

end DotPath
