import DotPath.Proofs.Token.Stream
import Mathlib.Data.List.Chain

/-!
This module contains what a caller sees that asks a cursor for tokens and puts tokens back, one call after
the other. A token that is put back is got again by the next call, which leads back to where the cursor
was before. So the two calls can be left out, and no other call tells the difference.
-/

namespace DotPath

inductive Call where
  | next
  -- Puts the token back that a call has returned last.
  | pushBack
  deriving DecidableEq

namespace Call

/-- No two tokens are put back without asking for one between them. -/
def Apart (calls : List Call) : Prop :=
  calls.IsChain fun first second => first = .next ∨ second = .next

instance (calls : List Call) : Decidable (Apart calls) :=
  inferInstanceAs (Decidable (calls.IsChain _))

theorem eq_next_of_apart {first : Call} {calls : List Call} (h : Apart (first :: .pushBack :: calls)) :
    first = .next := by
  have hjoint := (List.isChain_cons_cons.mp h).1
  simpa using hjoint

theorem getLast?_of_apart {before behind : List Call} (h : Apart (before ++ .pushBack :: behind)) :
    before.getLast? ≠ some .pushBack := by
  intro hlast
  have hjoint := (List.isChain_append.mp h).2.2 .pushBack hlast .pushBack rfl
  cases hjoint <;> contradiction

theorem Apart.erase {before behind : List Call}
    (h : Apart (before ++ .pushBack :: .next :: behind)) : Apart (before ++ behind) := by
  have hlast := getLast?_of_apart h
  rcases List.isChain_append.mp h with ⟨hbefore, hbehind, -⟩
  apply hbefore.append hbehind.tail.tail
  intro call hcall _ _
  left
  cases call with
  | next => rfl
  | pushBack => exact absurd hcall hlast

end Call

inductive Answer where
  | token (token : Token)
  | finish
  | failure (failure : Failure)
  | pushedBack
  deriving DecidableEq

/-- What a call returns, and the offset of the cursor behind it. -/
structure Entry where
  answer : Answer
  offset : Nat
  deriving DecidableEq

/-- A cursor in the hands of its caller, and the token that a call has returned last. -/
structure Session where
  cursor : Cursor
  last? : Option Token
  deriving DecidableEq

namespace Session

open Cursor

def start (text : String) : Session :=
  ⟨ofText text, none⟩

/-- There is no result if a token is to be put back and none was returned. -/
def call (session : Session) (call : Call) : Option (Entry × Session) :=
  match call with
  | .next =>
    match next session.cursor with
    | .ok (some token) after => some (⟨.token token, after.offset⟩, ⟨after, some token⟩)
    | .ok none after => some (⟨.finish, after.offset⟩, ⟨after, session.last?⟩)
    | .error failure after => some (⟨.failure failure, after.offset⟩, ⟨after, session.last?⟩)
  | .pushBack =>
    match session.last? with
    | some token =>
      let after := session.cursor.pushBack token
      some (⟨.pushedBack, after.offset⟩, ⟨after, some token⟩)
    | none => none

def play (session : Session) (calls : List Call) : Option (List Entry × Session) :=
  match calls with
  | [] => some ([], session)
  | first :: calls =>
    match session.call first with
    | none => none
    | some (entry, session) =>
      match session.play calls with
      | none => none
      | some (entries, session) => some (entry :: entries, session)

variable {session after : Session} {calls before behind : List Call} {entries : List Entry}
  {first : Call}

theorem play_cons_eq_some_iff :
    session.play (first :: calls) = some (entries, after) ↔
      ∃ entry middle others, session.call first = some (entry, middle)
        ∧ middle.play calls = some (others, after) ∧ entries = entry :: others := by
  rw [play]
  cases session.call first with
  | none => simp
  | some result =>
    rcases result with ⟨entry, middle⟩
    cases hplay : middle.play calls with
    | none => simp [hplay]
    | some result =>
      rcases result with ⟨others, last⟩
      simp [hplay, eq_comm, and_comm]

theorem play_append_eq_some_iff :
    session.play (before ++ behind) = some (entries, after) ↔
      ∃ front middle tail, session.play before = some (front, middle)
        ∧ middle.play behind = some (tail, after) ∧ entries = front ++ tail := by
  induction before generalizing session entries with
  | nil => simp [play]
  | cons first before ih =>
    simp only [List.cons_append, play_cons_eq_some_iff, ih]
    constructor
    · rintro ⟨entry, second, _, hcall, ⟨front, middle, tail, hfront, htail, rfl⟩, rfl⟩
      exact ⟨entry :: front, middle, tail, ⟨entry, second, front, hcall, hfront, rfl⟩, htail, rfl⟩
    · rintro ⟨_, middle, tail, ⟨entry, second, front, hcall, hfront, rfl⟩, htail, rfl⟩
      exact ⟨entry, second, front ++ tail, hcall, ⟨front, middle, tail, hfront, htail, rfl⟩, rfl⟩

theorem length_of_play (h : session.play calls = some (entries, after)) :
    entries.length = calls.length := by
  induction calls generalizing session entries with
  | nil =>
    cases h
    rfl
  | cons first calls ih =>
    rcases play_cons_eq_some_iff.mp h with ⟨entry, middle, others, -, hothers, rfl⟩
    rw [List.length_cons, List.length_cons, ih hothers]

theorem pending_of_next_error {cursor after : Cursor} {failure : Failure}
    (h : next cursor = .error failure after) : after.pending = none := by
  unfold next readLexeme at h
  split at h
  · cases h
  · next hpending =>
    split at h
    · cases h
    · dsimp only at h
      split at h
      · cases h
      · cases h
        exact hpending

theorem pending_of_call_next {entry : Entry} (h : session.call .next = some (entry, after)) :
    after.cursor.pending = none := by
  unfold call at h
  dsimp only at h
  split at h
  · next hnext =>
    cases h
    exact (next_eq_ok_some hnext).2
  · next hnext =>
    cases h
    have hremaining := next_eq_ok_none hnext
    simp [remaining] at hremaining
    exact hremaining.2
  · next hnext =>
    cases h
    exact pending_of_next_error hnext

/-- A token is put back only where the call before it has asked for one, and has left none put back. -/
theorem pending_of_play (hstart : session.cursor.pending = none)
    (h : session.play calls = some (entries, after)) (hlast : calls.getLast? ≠ some .pushBack) :
    after.cursor.pending = none := by
  rcases List.eq_nil_or_concat' calls with rfl | ⟨init, last, rfl⟩
  · cases h
    exact hstart
  · rcases play_append_eq_some_iff.mp h with ⟨front, middle, tail, -, htail, -⟩
    rcases play_cons_eq_some_iff.mp htail with ⟨entry, _, others, hcall, hothers, -⟩
    cases hothers
    cases last with
    | next => exact pending_of_call_next hcall
    | pushBack => simp at hlast

/--
Of a token that is put back the offset is that of the cursor, the next call returns it, and if both calls
are left out then all others return the same and leave the cursor at the same offset.
-/
theorem pushBack_transparent {text : String} {final : Session}
    (hapart : Call.Apart (before ++ .pushBack :: behind))
    (hplay : (start text).play (before ++ .pushBack :: behind) = some (entries, final)) :
    ∃ front session token tail, (start text).play before = some (front, session)
      ∧ front.length = before.length ∧ session.last? = some token
      ∧ entries = front ++ ⟨.pushedBack, token.offset⟩ :: tail
      ∧ next (session.cursor.pushBack token) = .ok (some token) session.cursor
      ∧ ∀ others, behind = .next :: others → ∃ rest,
        tail = ⟨.token token, session.cursor.offset⟩ :: rest ∧ rest.length = others.length
          ∧ Call.Apart (before ++ others)
          ∧ (start text).play (before ++ others) = some (front ++ rest, final) := by
  rcases play_append_eq_some_iff.mp hplay with ⟨front, session, back, hfront, hback, rfl⟩
  rcases play_cons_eq_some_iff.mp hback with ⟨entry, _, tail, hcall, htail, rfl⟩
  have hpending : session.cursor.pending = none :=
    pending_of_play rfl hfront (Call.getLast?_of_apart hapart)
  unfold call at hcall
  dsimp only at hcall
  split at hcall
  · next token hlast =>
    cases hcall
    have hnext : next (session.cursor.pushBack token) = .ok (some token) session.cursor := by
      rcases session with ⟨⟨before, rest, pending⟩, last⟩
      cases hpending
      rfl
    refine ⟨front, session, token, tail, hfront, length_of_play hfront, hlast, rfl, hnext, ?_⟩
    rintro others rfl
    rcases play_cons_eq_some_iff.mp htail with ⟨entry, _, rest, hcall, hrest, rfl⟩
    have hsession : (⟨session.cursor, some token⟩ : Session) = session := by
      rw [← hlast]
    simp only [call, hnext, hsession] at hcall
    cases hcall
    refine ⟨rest, rfl, length_of_play hrest, hapart.erase, ?_⟩
    exact play_append_eq_some_iff.mpr ⟨front, session, rest, hfront, hrest, rfl⟩
  · cases hcall

/-- The integer is faulty, reading goes on behind its digit, and the word before it is put back there. -/
theorem pushBack_transparent_behind_failure :
    let word : Entry := ⟨.token ⟨.text "k", 0⟩, 1⟩
    let fault : Entry := ⟨.failure (.malformed .malformedInteger 2 "k " "1x"), 3⟩
    let last : Entry := ⟨.token ⟨.text "x", 3⟩, 4⟩
    let final : Session := ⟨⟨"k 1x".toList.reverse, [], none⟩, some ⟨.text "x", 3⟩⟩
    (start "k 1x").play [.next, .next, .pushBack, .next, .next]
        = some ([word, fault, ⟨.pushedBack, 0⟩, ⟨.token ⟨.text "k", 0⟩, 3⟩, last], final)
      ∧ (start "k 1x").play [.next, .next, .next] = some ([word, fault, last], final) := by
  intro word fault last final
  have hplay : (start "k 1x").play ([.next, .next] ++ .pushBack :: [.next, .next])
      = some ([word, fault, ⟨.pushedBack, 0⟩, ⟨.token ⟨.text "k", 0⟩, 3⟩, last], final) := by
    decide +kernel
  refine ⟨hplay, ?_⟩
  rcases pushBack_transparent (by decide) hplay
    with ⟨front, session, token, tail, -, hlength, -, hentries, -, herase⟩
  rcases herase [.next] rfl with ⟨rest, rfl, -, -, hrest⟩
  have hfront : [word, fault].length = front.length := hlength.symm
  rcases List.append_inj (hentries : [word, fault] ++ _ = _) hfront with ⟨rfl, htail⟩
  have hlast : [last] = rest := (List.cons.inj (List.cons.inj htail).2).2
  rw [hlast]
  exact hrest

end Session
end DotPath
