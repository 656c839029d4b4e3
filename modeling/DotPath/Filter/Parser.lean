import DotPath.Cursor
import DotPath.Filter.Basic

/-!
This module contains the reading of filters, from behind the opening bracket to the closing one. The
two connectives bind equally strongly and group to the left.
-/

namespace DotPath

namespace Operand

def ofToken? (kind : TokenKind) : Option Operand :=
  match kind with
  | .text s => some (.text s)
  | .integer n => some (.integer n)
  | _ => none

def read : Reader Operand :=
  Cursor.accept .operand ofToken?

end Operand

namespace Comparison

def read : Reader Comparison := fun cursor =>
  match Operand.read cursor with
  | .error failure after => .error failure after
  | .ok left afterLeft =>
    match Cursor.next afterLeft with
    | .error failure after => .error failure after
    | .ok none after => .ok (.position left) after
    | .ok (some token) afterToken =>
      match token.kind.comparator?, left with
      | none, _ => .ok (.position left) (afterToken.pushBack token)
      | some _, .integer _ => .error (afterToken.failureAt cursor.offset .integerOnLeft) afterToken
      | some comparator, .text _ =>
        match Operand.read afterToken with
        | .error failure after => .error failure after
        | .ok right after => .ok ⟨some comparator, left, some right⟩ after

theorem remaining_lt_of_read {cursor after : Cursor} {comparison : Comparison}
    (h : read cursor = .ok comparison after) : after.remaining < cursor.remaining := by
  unfold read at h
  split at h
  · cases h
  · next hleft =>
    have := (Cursor.accept_eq_ok hleft).1
    split at h
    · cases h
    · next hnext =>
      have := Cursor.next_eq_ok_none hnext
      cases h
      omega
    · next hnext =>
      have := Cursor.remaining_pushBack_le hnext
      have := (Cursor.next_eq_ok_some hnext).1
      split at h
      · cases h
        omega
      · cases h
      · split at h
        · cases h
        · next hright =>
          have := (Cursor.accept_eq_ok hright).1
          cases h
          omega

end Comparison

namespace Filter

def connective? (kind : TokenKind) : Option Connective :=
  match kind with
  | .and => some .and
  | .or => some .or
  | _ => none

/-- Reads connectives and comparisons behind the filter `left`, up to the closing bracket. -/
def readChain (left : Filter) : Reader Filter := fun cursor =>
  match _ : Cursor.token .closingBracket cursor with
  | .error failure after => .error failure after
  | .ok token after =>
    if token.kind = .rightBracket then
      .ok left after
    else
      match connective? token.kind with
      | none => .error (after.unexpected token .connectiveOrEnd) after
      | some connective =>
        match _ : Comparison.read after with
        | .error failure after => .error failure after
        | .ok right after => readChain (.logical connective left (.comparison right)) after
termination_by cursor => cursor.remaining
decreasing_by
  have := (Cursor.token_eq_ok ‹_›).1
  have := Comparison.remaining_lt_of_read ‹_›
  omega

theorem readChain_eq (left : Filter) (cursor : Cursor) :
    readChain left cursor =
      match Cursor.token .closingBracket cursor with
      | .error failure after => .error failure after
      | .ok token after =>
        if token.kind = .rightBracket then
          .ok left after
        else
          match connective? token.kind with
          | none => .error (after.unexpected token .connectiveOrEnd) after
          | some connective =>
            match Comparison.read after with
            | .error failure after => .error failure after
            | .ok right after => readChain (.logical connective left (.comparison right)) after := by
  rw [readChain]
  cases Cursor.token .closingBracket cursor with
  | error failure after => rfl
  | ok token after =>
    dsimp only
    cases connective? token.kind with
    | none => rfl
    | some connective => cases Comparison.read after <;> rfl

def read : Reader Filter := fun cursor =>
  match Comparison.read cursor with
  | .error failure after => .error failure after
  | .ok first after => readChain (.comparison first) after

theorem remaining_lt_of_readChain {left filter : Filter} {cursor after : Cursor}
    (h : readChain left cursor = .ok filter after) : after.remaining < cursor.remaining := by
  fun_induction readChain left cursor with
  | case1 => cases h
  | case2 left cursor token middle htoken =>
    cases h
    exact (Cursor.token_eq_ok htoken).1
  | case3 => cases h
  | case4 => cases h
  | case5 left cursor token middle htoken _ connective _ right last hright ih =>
    have := (Cursor.token_eq_ok htoken).1
    have := Comparison.remaining_lt_of_read hright
    have := ih h
    omega

theorem remaining_lt_of_read {filter : Filter} {cursor after : Cursor}
    (h : read cursor = .ok filter after) : after.remaining < cursor.remaining := by
  unfold read at h
  split at h
  · cases h
  · next hfirst =>
    have := Comparison.remaining_lt_of_read hfirst
    have := remaining_lt_of_readChain h
    omega

end Filter
end DotPath
