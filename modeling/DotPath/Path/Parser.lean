import DotPath.Filter.Parser
import DotPath.Path.Basic

/-!
This module contains the reading of paths: an optional mark, keys with dots between them, and filters
behind the last key.
-/

namespace DotPath.Path

def readKey (expected : Expectation) : Reader String :=
  Cursor.accept expected TokenKind.text?

def readFirst : Reader Path := fun cursor =>
  match Cursor.token .key cursor with
  | .error failure after => .error failure after
  | .ok token after =>
    match token.kind with
    | .question =>
      match readKey .key after with
      | .error failure after => .error failure after
      | .ok key after => .ok (.first ⟨key, true, []⟩) after
    | .text key => .ok (.first ⟨key, false, []⟩) after
    | _ => .error (after.unexpected token .key) after

def readKeys (path : Path) : Reader Path := fun cursor =>
  match _ : Cursor.next cursor with
  | .error failure after => .error failure after
  | .ok none after => .ok path after
  | .ok (some token) after =>
    if token.kind = .dot then
      match _ : readKey .keyAfterDot after with
      | .error failure after => .error failure after
      | .ok key after => readKeys (.child path ⟨key, false, []⟩) after
    else
      .ok path (after.pushBack token)
termination_by cursor => cursor.remaining
decreasing_by
  have := (Cursor.next_eq_ok_some ‹_›).1
  have := (Cursor.accept_eq_ok ‹_›).1
  omega

theorem readKeys_eq (path : Path) (cursor : Cursor) :
    readKeys path cursor =
      match Cursor.next cursor with
      | .error failure after => .error failure after
      | .ok none after => .ok path after
      | .ok (some token) after =>
        if token.kind = .dot then
          match readKey .keyAfterDot after with
          | .error failure after => .error failure after
          | .ok key after => readKeys (.child path ⟨key, false, []⟩) after
        else
          .ok path (after.pushBack token) := by
  rw [readKeys]
  cases Cursor.next cursor with
  | error failure after => rfl
  | ok token? after =>
    cases token? with
    | none => rfl
    | some token =>
      dsimp only
      cases readKey .keyAfterDot after <;> rfl

def readFilters : Reader (List Filter) := fun cursor =>
  match _ : Cursor.next cursor with
  | .error failure after => .error failure after
  | .ok none after => .ok [] after
  | .ok (some token) after =>
    if token.kind = .leftBracket then
      match _ : Filter.read after with
      | .error failure after => .error failure after
      | .ok filter after =>
        match readFilters after with
        | .error failure after => .error failure after
        | .ok filters after => .ok (filter :: filters) after
    else
      .error (after.unexpected token .filterOrEnd) after
termination_by cursor => cursor.remaining
decreasing_by
  have := (Cursor.next_eq_ok_some ‹_›).1
  have := Filter.remaining_lt_of_read ‹_›
  omega

theorem readFilters_eq (cursor : Cursor) :
    readFilters cursor =
      match Cursor.next cursor with
      | .error failure after => .error failure after
      | .ok none after => .ok [] after
      | .ok (some token) after =>
        if token.kind = .leftBracket then
          match Filter.read after with
          | .error failure after => .error failure after
          | .ok filter after =>
            match readFilters after with
            | .error failure after => .error failure after
            | .ok filters after => .ok (filter :: filters) after
        else
          .error (after.unexpected token .filterOrEnd) after := by
  rw [readFilters]
  cases Cursor.next cursor with
  | error failure after => rfl
  | ok token? after =>
    cases token? with
    | none => rfl
    | some token =>
      dsimp only
      cases Filter.read after <;> rfl

def read : Reader Path := do
  let first ← readFirst
  let path ← readKeys first
  let filters ← readFilters
  return path.withFilters filters

def parse (text : String) : Except Failure Path :=
  match read (Cursor.ofText text) with
  | .ok path _ => .ok path
  | .error failure _ => .error failure

end DotPath.Path
