import DotPath.Cursor

/-!
This module contains token streams: what a cursor yields if it is asked for one token after the other
until the text ends or a lexeme is faulty. A reader sees nothing of a text but its stream, so what a
reader accepts is stated in terms of the token kinds it spans.
-/

namespace DotPath

structure TokenStream where
  tokens : List Token
  failure? : Option Failure
  deriving DecidableEq

namespace TokenStream

def kinds (stream : TokenStream) : List TokenKind :=
  stream.tokens.map Token.kind

def cons (token : Token) (stream : TokenStream) : TokenStream :=
  { stream with tokens := token :: stream.tokens }

end TokenStream

namespace Cursor

def stream (cursor : Cursor) : TokenStream :=
  match _ : next cursor with
  | .error failure _ => ⟨[], some failure⟩
  | .ok none _ => ⟨[], none⟩
  | .ok (some token) after => .cons token after.stream
termination_by cursor.remaining
decreasing_by exact (next_eq_ok_some ‹_›).1

def kinds (cursor : Cursor) : List TokenKind :=
  cursor.stream.kinds

/-- Between `cursor` and `after` stand tokens of the given kinds, and all that follows is the same. -/
structure Spans (cursor : Cursor) (kinds : List TokenKind) (after : Cursor) : Prop where
  kinds_eq : cursor.kinds = kinds ++ after.kinds
  failure?_eq : cursor.stream.failure? = after.stream.failure?

variable {cursor middle after : Cursor} {token : Token}

theorem stream_eq (cursor : Cursor) :
    cursor.stream =
      match next cursor with
      | .error failure _ => ⟨[], some failure⟩
      | .ok none _ => ⟨[], none⟩
      | .ok (some token) after => .cons token after.stream := by
  rw [stream]
  cases next cursor with
  | error failure after => rfl
  | ok token? after => cases token? <;> rfl

theorem stream_of_next_error {failure : Failure} (h : next cursor = .error failure after) :
    cursor.stream = ⟨[], some failure⟩ := by
  rw [stream_eq, h]

theorem stream_of_next_none (h : next cursor = .ok none after) : cursor.stream = ⟨[], none⟩ := by
  rw [stream_eq, h]

theorem stream_of_next_some (h : next cursor = .ok (some token) after) :
    cursor.stream = .cons token after.stream := by
  rw [stream_eq, h]

theorem stream_congr {other : Cursor} (h : next cursor = next other) :
    cursor.stream = other.stream := by
  rw [stream_eq, h, ← stream_eq]

theorem skipBlanks_of_rest_eq_nil (h : cursor.rest = []) : cursor.skipBlanks = cursor := by
  cases cursor
  cases h
  rfl

theorem next_after_next_none (h : next cursor = .ok none after) : next after = .ok none after := by
  unfold next at h
  split at h
  · cases h
  · next hpending =>
    unfold readLexeme at h
    split at h
    · next hrest =>
      cases h
      unfold next
      rw [pending_skipBlanks, hpending, skipBlanks_of_rest_eq_nil hrest]
      simp only [readLexeme, hrest]
    · dsimp only at h
      split at h <;> cases h

theorem kinds_of_next_none (h : next cursor = .ok none after) : cursor.kinds = [] := by
  rw [kinds, stream_of_next_none h]
  rfl

theorem spans_of_next_none (h : next cursor = .ok none after) : cursor.Spans [] after := by
  have hafter := next_after_next_none h
  constructor
  · rw [kinds_of_next_none h, kinds_of_next_none hafter]
    rfl
  · rw [stream_of_next_none h, stream_of_next_none hafter]

theorem spans_of_next_some {kind : TokenKind} (h : next cursor = .ok (some token) after)
    (hkind : token.kind = kind) : cursor.Spans [kind] after := by
  rw [← hkind]
  constructor
  · rw [kinds, stream_of_next_some h]
    rfl
  · rw [stream_of_next_some h]
    rfl

theorem next_pushBack (h : next cursor = .ok (some token) after) :
    next (after.pushBack token) = .ok (some token) after := by
  have hpending := (next_eq_ok_some h).2
  cases after
  cases hpending
  rfl

theorem stream_pushBack (h : next cursor = .ok (some token) after) :
    (after.pushBack token).stream = cursor.stream := by
  rw [stream_of_next_some (next_pushBack h), stream_of_next_some h]

theorem spans_pushBack (h : next cursor = .ok (some token) after) :
    cursor.Spans [] (after.pushBack token) := by
  constructor
  · rw [kinds, kinds, stream_pushBack h]
    rfl
  · rw [stream_pushBack h]

theorem Spans.trans {first second : List TokenKind} (h : cursor.Spans first middle)
    (h' : middle.Spans second after) : cursor.Spans (first ++ second) after := by
  constructor
  · rw [h.kinds_eq, h'.kinds_eq, List.append_assoc]
  · rw [h.failure?_eq, h'.failure?_eq]

theorem Spans.cons {kind : TokenKind} {kinds : List TokenKind} (h : cursor.Spans [kind] middle)
    (h' : middle.Spans kinds after) : cursor.Spans (kind :: kinds) after := by
  apply h.trans h'

theorem Spans.kinds_after {kinds rest : List TokenKind} (h : cursor.Spans kinds after)
    (hkinds : cursor.kinds = kinds ++ rest) : after.kinds = rest := by
  rw [h.kinds_eq] at hkinds
  apply List.append_cancel_left hkinds

theorem next_of_kinds_cons {kind : TokenKind} {rest : List TokenKind}
    (h : cursor.kinds = kind :: rest) :
    ∃ token after, next cursor = .ok (some token) after ∧ token.kind = kind
      ∧ cursor.Spans [kind] after := by
  cases hnext : next cursor with
  | error failure after =>
    rw [kinds, stream_of_next_error hnext] at h
    cases h
  | ok token? after =>
    cases token? with
    | none =>
      rw [kinds_of_next_none hnext] at h
      cases h
    | some token =>
      have hspans := spans_of_next_some hnext rfl
      rw [hspans.kinds_eq] at h
      cases h
      exact ⟨token, after, rfl, rfl, hspans⟩

theorem next_of_kinds_nil (h : cursor.kinds = []) (hfailure : cursor.stream.failure? = none) :
    ∃ after, next cursor = .ok none after := by
  cases hnext : next cursor with
  | error failure after =>
    rw [stream_of_next_error hnext] at hfailure
    cases hfailure
  | ok token? after =>
    cases token? with
    | none => exact ⟨after, rfl⟩
    | some token =>
      rw [(spans_of_next_some hnext rfl).kinds_eq] at h
      cases h

theorem token_eq_ok_iff {expected : Expectation} :
    Cursor.token expected cursor = .ok token after ↔ next cursor = .ok (some token) after := by
  unfold Cursor.token
  split
  · next hnext => simp [hnext]
  · next hnext => simp [hnext]
  · next hnext => simp [hnext]

section Accept

variable {α : Type} {expected : Expectation} {meaning : TokenKind → Option α} {value : α}

theorem accept_eq_ok_iff :
    accept expected meaning cursor = .ok value after ↔
      ∃ token, next cursor = .ok (some token) after ∧ meaning token.kind = some value := by
  unfold accept
  constructor
  · intro h
    split at h
    · cases h
    · next token _ htoken =>
      split at h
      · next hmeaning =>
        cases h
        exact ⟨token, token_eq_ok_iff.1 htoken, hmeaning⟩
      · cases h
  · rintro ⟨token, hnext, hmeaning⟩
    rw [token_eq_ok_iff.2 hnext]
    simp only [hmeaning]

theorem spans_of_accept (h : accept expected meaning cursor = .ok value after) :
    ∃ kind, meaning kind = some value ∧ cursor.Spans [kind] after := by
  rcases accept_eq_ok_iff.mp h with ⟨token, hnext, hmeaning⟩
  exact ⟨token.kind, hmeaning, spans_of_next_some hnext rfl⟩

theorem accept_of_kinds_cons {kind : TokenKind} {rest : List TokenKind}
    (h : cursor.kinds = kind :: rest) (hmeaning : meaning kind = some value) :
    ∃ after, accept expected meaning cursor = .ok value after ∧ cursor.Spans [kind] after := by
  rcases next_of_kinds_cons h with ⟨token, after, hnext, rfl, hspans⟩
  exact ⟨after, accept_eq_ok_iff.mpr ⟨token, hnext, hmeaning⟩, hspans⟩

end Accept

end Cursor
end DotPath
