import DotPath.Proofs.Path.Reading
import DotPath.Proofs.Token.Tiling

/-!
This module contains the proof that a filter is read up to its closing bracket and no further. Reading looks
one token ahead at times, but what it has looked at is read again, and so the bracket is the last token that
it gets. A bracket is one whatever stands behind it, so another text there changes nothing.
-/

namespace DotPath

open Cursor Grammar Text

namespace Cursor

/-- Reading `tokens` from `start` on leads to where `cursor` goes on, though one may have been put back. -/
def Reaches (start : Cursor) (tokens : List Token) (cursor : Cursor) : Prop :=
  ∃ arrived, Steps start tokens arrived ∧ next arrived = next cursor

variable {start cursor after : Cursor} {tokens : List Token} {token : Token}

theorem reaches_nil (start : Cursor) : start.Reaches [] start :=
  ⟨start, .refl start, rfl⟩

namespace Reaches

theorem next (h : start.Reaches tokens cursor) (hnext : next cursor = .ok (some token) after) :
    start.Reaches (tokens ++ [token]) after := by
  rcases h with ⟨arrived, hsteps, harrived⟩
  exact ⟨after, hsteps.snoc (harrived.trans hnext), rfl⟩

theorem finish (h : start.Reaches tokens cursor) (hnext : Cursor.next cursor = .ok none after) :
    start.Reaches tokens after := by
  rcases h with ⟨arrived, hsteps, harrived⟩
  refine ⟨arrived, hsteps, ?_⟩
  rw [harrived, hnext, next_after_next_none hnext]

theorem pushBack (h : start.Reaches tokens cursor)
    (hnext : Cursor.next cursor = .ok (some token) after) :
    start.Reaches tokens (after.pushBack token) := by
  rcases h with ⟨arrived, hsteps, harrived⟩
  refine ⟨arrived, hsteps, ?_⟩
  rw [harrived, hnext, next_pushBack hnext]

end Reaches

section Bracket

variable {before rest blanks behind : List Char} {bracket : Token}

theorem next_bracket (hblanks : ∀ b ∈ blanks, isBlank b = true) :
    next ⟨before, blanks ++ ']' :: behind, none⟩
      = .ok (some ⟨.rightBracket, byteLength (before.reverse ++ blanks)⟩)
        ⟨']' :: (blanks.reverse ++ before), behind, none⟩ := by
  have hscan : Lexeme.scan ']' ([] ++ behind) = ⟨[']'], .ok .rightBracket⟩ := rfl
  have hnext := next_lexeme (blanks.reverse ++ before) rfl hscan
  rw [List.nil_append] at hnext
  rw [next_blanks hblanks, hnext, byteLength_append, byteLength_append, byteLength_reverse,
    byteLength_reverse, Nat.add_comm]
  rfl

theorem eq_of_next_bracket (h : next ⟨before, rest, none⟩ = .ok (some bracket) after)
    (hkind : bracket.kind = .rightBracket) :
    ∃ blanks behind, (∀ b ∈ blanks, isBlank b = true) ∧ rest = blanks ++ ']' :: behind
      ∧ bracket = ⟨.rightBracket, byteLength (before.reverse ++ blanks)⟩
      ∧ after = ⟨']' :: (blanks.reverse ++ before), behind, none⟩ := by
  rcases eq_of_next_some h with ⟨blanks, c, cs, behind, hblanks, -, rfl, hscan, -, -⟩
  rw [hkind] at hscan
  have hwritten : c :: cs = [']'] := (Lexeme.written_of_scan hscan).1
  cases hwritten
  rw [List.nil_append, next_bracket hblanks] at h
  cases h
  exact ⟨blanks, behind, hblanks, rfl, rfl, rfl⟩

end Bracket
end Cursor

variable {start cursor after : Cursor} {tokens : List Token}

theorem Operand.reaches_of_read {operand : Operand} (h : Operand.read cursor = .ok operand after)
    (hstart : start.Reaches tokens cursor) :
    ∃ token, start.Reaches (tokens ++ [token]) after ∧ DerivesOperand [token.kind] operand := by
  rcases accept_eq_ok_iff.mp h with ⟨token, hnext, hmeaning⟩
  refine ⟨token, hstart.next hnext, ?_⟩
  unfold ofToken? at hmeaning
  split at hmeaning
  · next hkind =>
    cases hmeaning
    rw [hkind]
    apply DerivesOperand.text
  · next hkind =>
    cases hmeaning
    rw [hkind]
    apply DerivesOperand.integer
  · cases hmeaning

theorem Comparison.reaches_of_read {comparison : Comparison}
    (h : Comparison.read cursor = .ok comparison after) (hstart : start.Reaches tokens cursor) :
    ∃ others, start.Reaches (tokens ++ others) after
      ∧ DerivesComparison (others.map Token.kind) comparison := by
  unfold Comparison.read at h
  split at h
  · cases h
  · next left afterLeft hleft =>
    rcases Operand.reaches_of_read hleft hstart with ⟨first, hfirst, hderives⟩
    split at h
    · cases h
    · next hnext =>
      cases h
      exact ⟨[first], hfirst.finish hnext, .position hderives⟩
    · next second afterSecond hnext =>
      split at h
      · cases h
        exact ⟨[first], hfirst.pushBack hnext, .position hderives⟩
      · cases h
      · next comparator name hcomparator =>
        split at h
        · cases h
        · next right _ hright =>
          cases h
          rcases Operand.reaches_of_read hright (hfirst.next hnext) with ⟨third, hthird, hderives'⟩
          rcases first with ⟨kind, offset⟩
          cases hderives
          refine ⟨[⟨.text name, offset⟩, second, third], by simpa using hthird, ?_⟩
          simp only [List.map_cons, List.map_nil, eq_comparator_of_comparator? hcomparator]
          exact .field name comparator hderives'

namespace Filter

/-- The chain ends with the bracket: it is the last token that is read, and it stays read. -/
theorem reaches_of_readChain {left filter : Filter} (h : readChain left cursor = .ok filter after)
    (hstart : start.Reaches tokens cursor) :
    ∃ others links arrived bracket, Steps start (tokens ++ others) arrived
      ∧ Cursor.next arrived = .ok (some bracket) after ∧ bracket.kind = .rightBracket
      ∧ Many DerivesLink (others.map Token.kind) links ∧ filter = left.extend links := by
  fun_induction readChain left cursor generalizing tokens with
  | case1 => cases h
  | case2 left cursor bracket after' htoken hkind =>
    cases h
    rw [token_eq_ok_iff] at htoken
    rcases hstart with ⟨arrived, hsteps, harrived⟩
    exact ⟨[], [], arrived, bracket, by rwa [List.append_nil], harrived.trans htoken, hkind, .nil, rfl⟩
  | case3 => cases h
  | case4 => cases h
  | case5 left cursor token middle htoken _ connective hconnective right last hright ih =>
    rw [token_eq_ok_iff] at htoken
    rcases Comparison.reaches_of_read hright (hstart.next htoken) with ⟨compared, hcompared, hderives⟩
    rcases ih h hcompared with ⟨others, links, arrived, bracket, hsteps, hbracket, hkind, hlinks, hfilter⟩
    refine ⟨token :: (compared ++ others), (connective, right) :: links, arrived, bracket, ?_, hbracket,
      hkind, ?_, hfilter⟩
    · simpa using hsteps
    · rw [List.map_cons, List.map_append, eq_kind_of_connective? hconnective, ← List.cons_append]
      exact .cons (.link connective hderives) hlinks

theorem steps_of_read {filter : Filter} (h : Filter.read cursor = .ok filter after) :
    ∃ tokens arrived bracket, Steps cursor tokens arrived
      ∧ Cursor.next arrived = .ok (some bracket) after ∧ bracket.kind = .rightBracket
      ∧ DerivesFilter (tokens.map Token.kind) filter := by
  unfold Filter.read at h
  split at h
  · cases h
  · next hfirst =>
    rcases Comparison.reaches_of_read hfirst (reaches_nil cursor) with ⟨compared, hcompared, hderives⟩
    rcases reaches_of_readChain h hcompared
      with ⟨others, links, arrived, bracket, hsteps, hbracket, hkind, hlinks, rfl⟩
    refine ⟨compared ++ others, arrived, bracket, hsteps, hbracket, hkind, ?_⟩
    rw [List.map_append]
    exact .chain hderives hlinks

/-- The tokens of a filter and the bracket behind them are all that its reading depends on. -/
theorem read_of_steps {filter : Filter} {arrived : Cursor} {bracket : Token}
    (hsteps : Steps cursor tokens arrived) (hbracket : Cursor.next arrived = .ok (some bracket) after)
    (hkind : bracket.kind = .rightBracket) (hderives : DerivesFilter (tokens.map Token.kind) filter) :
    Filter.read cursor = .ok filter after := by
  have hkinds := hsteps.kinds_eq
  rw [(spans_of_next_some hbracket hkind).kinds_eq, List.singleton_append] at hkinds
  rcases read_of_derives hderives hkinds with ⟨after', hread, -⟩
  -- The reading that succeeds has got the same tokens, for a filter has no bracket in it.
  rcases steps_of_read hread with ⟨tokens', arrived', bracket', hsteps', hbracket', hkind', hderives'⟩
  have hkinds' := hsteps'.kinds_eq
  rw [(spans_of_next_some hbracket' hkind').kinds_eq, List.singleton_append, hkinds] at hkinds'
  rcases hderives.unique hderives' hkinds' with ⟨-, hrest⟩
  rw [hrest] at hkinds'
  have hlength := congrArg List.length (List.append_cancel_right hkinds')
  rw [List.length_map, List.length_map] at hlength
  rcases hsteps.eq_of_length_eq hsteps' hlength with ⟨-, rfl⟩
  rw [hbracket] at hbracket'
  cases hbracket'
  exact hread

/--
A filter that is read from the front of a text ends with the bracket that closes it. Nothing is put back
there, and what stands behind the bracket does not matter, be it made of lexemes or not.
-/
theorem read_stops_behind_bracket {text : String} {filter : Filter} {after : Cursor}
    (h : Filter.read (ofText text) = .ok filter after) :
    after.pending = none ∧ ∃ front behind tokens, text = front ++ "]" ++ behind
      ∧ after.offset = byteLength (front ++ "]").toList
      ∧ Steps (ofText text) (tokens ++ [⟨.rightBracket, byteLength front.toList⟩]) after
      ∧ DerivesFilter (tokens.map Token.kind) filter
      ∧ ∀ other : String, ∃ after', Filter.read (ofText (front ++ "]" ++ other)) = .ok filter after'
        ∧ after'.pending = none ∧ after'.offset = after.offset ∧ after'.rest = other.toList := by
  rcases steps_of_read h with ⟨tokens, arrived, bracket, hsteps, hbracket, hkind, hderives⟩
  have hall := hsteps.snoc hbracket
  rw [hsteps.eq_mk rfl] at hbracket
  rcases eq_of_next_bracket hbracket hkind with ⟨blanks, behind, hblanks, hrest, rfl, rfl⟩
  rcases hsteps.of_endsToo (.inl rfl) with ⟨front, htext, hbefore, -⟩
  rw [List.append_nil] at hbefore
  have hfront : front = arrived.before.reverse := by
    rw [hbefore, List.reverse_reverse]
  subst hfront
  refine ⟨rfl, String.ofList (arrived.before.reverse ++ blanks), String.ofList behind, tokens,
    ?_, ?_, ?_, hderives, ?_⟩
  · rw [← String.toList_inj, htext, hrest]
    simp
  · simp [offset]
    omega
  · rwa [String.toList_ofList]
  · intro other
    have hother : Lexeme.EndsToo arrived.rest (blanks ++ ']' :: other.toList) := by
      rw [hrest]
      cases blanks with
      | nil => exact .inl rfl
      | cons b blanks => exact .inl rfl
    rcases hsteps.of_endsToo hother with ⟨front, htext', -, hsteps'⟩
    rw [htext, List.append_left_inj] at htext'
    subst htext'
    have hcut : ofText (String.ofList (arrived.before.reverse ++ blanks) ++ "]" ++ other)
        = ⟨[], arrived.before.reverse ++ (blanks ++ ']' :: other.toList), none⟩ := by
      simp [ofText]
    rw [hcut]
    exact ⟨_, read_of_steps hsteps' (next_bracket hblanks) rfl hderives, rfl, rfl, rfl⟩

/-- A bracket in quotes and one behind a position, and of neither text behind it can all be read. -/
theorem read_stops_behind_bracket_of_position :
    let filter := Filter.logical .or (.comparison ⟨some .eq, .text "a", some (.text "]")⟩)
      (.comparison (.position (.integer 7)))
    Filter.read (ofText "a==\"]\"||7 ]1x")
        = .ok filter ⟨"a==\"]\"||7 ]".toList.reverse, ['1', 'x'], none⟩
      ∧ ∃ after, Filter.read (ofText "a==\"]\"||7 ]\"]") = .ok filter after
        ∧ after.pending = none ∧ after.offset = 11 ∧ after.rest = ['"', ']'] := by
  intro filter
  have hread : Filter.read (ofText "a==\"]\"||7 ]1x")
      = .ok filter ⟨"a==\"]\"||7 ]".toList.reverse, ['1', 'x'], none⟩ := by
    have hreading : (match Filter.read (ofText "a==\"]\"||7 ]1x") with
        | .ok found after => some (found, after)
        | .error _ _ => none) = some (filter, ⟨"a==\"]\"||7 ]".toList.reverse, ['1', 'x'], none⟩) := by
      decide +kernel
    split at hreading
    · next hread =>
      cases hreading
      exact hread
    · cases hreading
  refine ⟨hread, ?_⟩
  rcases read_stops_behind_bracket hread with ⟨-, front, behind, -, htext, hoffset, -, -, hother⟩
  -- The offset says where the text is cut.
  have hcut : splitAtByte 11 "a==\"]\"||7 ]1x".toList = ((front ++ "]").toList, behind.toList) := by
    have hbytes : byteLength (front ++ "]").toList = 11 := hoffset.symm
    rw [htext, String.toList_append, ← hbytes, splitAtByte_byteLength]
  have hfront : front ++ "]" = "a==\"]\"||7 ]" := by
    rw [← String.toList_inj]
    exact (Prod.ext_iff.mp hcut).1.symm
  rcases hother "\"]" with ⟨after, hafter, hpending, hsame, hrest⟩
  rw [hfront] at hafter
  exact ⟨after, hafter, hpending, hsame, hrest⟩

end Filter

end DotPath
