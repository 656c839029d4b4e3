import DotPath.Proofs.Outcome
import DotPath.Proofs.Path.Blame
import DotPath.Proofs.Path.DeadEnd

/-!
This module contains the place that a syntax error blames. What is consumed in front of it is made of
whole tokens. Behind it stands what is complained about, or the text ends there. Only an integer on the
left of a comparison is blamed from where the token in front of it ends, with the blanks between them.
-/

namespace DotPath

open Cursor Grammar Text

/-- The kinds of the tokens that begin in front of the byte `offset`. -/
def TokenStream.kindsBefore (stream : TokenStream) (offset : Nat) : List TokenKind :=
  (stream.tokens.filter (·.offset < offset)).map Token.kind

/-- What the fault is about, at the place between `consumed` and `remaining` of a text of these tokens. -/
def SyntaxFault.PointsAt (fault : SyntaxFault) (tokens : List Token) (consumed remaining : List Char) :
    Prop :=
  match fault with
  | .unexpectedEnd _ => remaining = []
  | .unexpectedToken _ found =>
    ⟨found, byteLength consumed⟩ ∈ tokens ∧ Lexeme.Begins remaining (.ok found)
  | .integerOnLeft =>
    (∀ c ∈ consumed.getLast?, isBlank c = false) ∧ ∃ blanks behind n,
      remaining = blanks ++ behind ∧ (∀ b ∈ blanks, isBlank b = true)
        ∧ ⟨.integer n, byteLength (consumed ++ blanks)⟩ ∈ tokens
        ∧ Lexeme.Begins behind (.ok (.integer n))
  | fault => Lexeme.Begins remaining (.error fault)

theorem SyntaxFault.pointsAt_of_isLexical {fault : SyntaxFault} {tokens : List Token}
    {consumed remaining : List Char} (hlexical : fault.isLexical = true)
    (h : Lexeme.Begins remaining (.error fault)) : fault.PointsAt tokens consumed remaining := by
  cases fault with
  | unexpectedToken => cases hlexical
  | unexpectedEnd => cases hlexical
  | integerOnLeft => cases hlexical
  | _ => exact h

namespace Cursor

variable {text : String} {cursor after : Cursor} {tokens : List Token} {state : State}
  {blanks consumed remaining : List Char} {kinds : List TokenKind} {fault : SyntaxFault}
  {failure : Failure}

/-- The text is cut in two between its tokens, with `kinds` in front. -/
structure Divides (text : String) (consumed remaining : List Char) (kinds : List TokenKind) : Prop where
  text_eq : text.toList = consumed ++ remaining
  lexes : Lexes consumed kinds
  kindsBefore_eq : (ofText text).stream.kindsBefore (byteLength consumed) = kinds

/-- What makes it impossible to go on reading `text` behind `kinds`, when `remaining` is left of it. -/
inductive Stuck (text : String) (consumed remaining : List Char) (kinds : List TokenKind) :
    SyntaxFault → Prop where
  | lexeme {fault : SyntaxFault} (hfailure : (ofText text).stream.failure? ≠ none)
      (hbegins : Lexeme.Begins remaining (.error fault)) : Stuck text consumed remaining kinds fault
  | token {behind : List TokenKind} (hkinds : (ofText text).kinds = kinds ++ found :: behind)
      (hrun : State.start.run? (kinds ++ [found]) = none)
      (expected : Expectation)
      (hplace : (SyntaxFault.unexpectedToken expected found).PointsAt (ofText text).stream.tokens
        consumed remaining) :
    Stuck text consumed remaining kinds (.unexpectedToken expected found)
  | finish (hkinds : (ofText text).kinds = kinds) (hfailure : (ofText text).stream.failure? = none)
      (hend : remaining = []) (expected : Expectation) :
    Stuck text consumed remaining kinds (.unexpectedEnd expected)
  | integer {behind : List TokenKind}
      (hkinds : (ofText text).kinds = kinds ++ .integer n :: .comparator comparator :: behind)
      (hrun : State.start.run? (kinds ++ [.integer n, .comparator comparator]) = none)
      (hplace : SyntaxFault.integerOnLeft.PointsAt (ofText text).stream.tokens consumed remaining) :
    Stuck text consumed remaining kinds .integerOnLeft

/-- The failure blames the place in `text` behind whole tokens at which reading is stuck. -/
def GetsStuck (text : String) (failure : Failure) : Prop :=
  ∃ fault consumed remaining kinds state, Divides text consumed remaining kinds
    ∧ State.start.run? kinds = some state ∧ Stuck text consumed remaining kinds fault
    ∧ failure = .malformed fault (byteLength consumed) (String.ofList consumed)
      (String.ofList remaining)

theorem Divides.failureAt (h : Divides text consumed remaining kinds)
    (hcursor : cursor.text = text.toList) :
    cursor.failureAt (byteLength consumed) fault
      = .malformed fault (byteLength consumed) (String.ofList consumed) (String.ofList remaining) :=
  failureAt_eq (hcursor.trans h.text_eq)

theorem Divides.text_eq_append (h : Divides text consumed remaining kinds) :
    text = String.ofList consumed ++ String.ofList remaining := by
  rw [← String.toList_inj, String.toList_append, String.toList_ofList, String.toList_ofList, h.text_eq]

theorem text_of_next {token? : Option Token} (hcursor : cursor.text = text.toList)
    (hnext : next cursor = .ok token? after) : after.text = text.toList := by
  have hreads := next_reads hcursor
  rwa [hnext] at hreads

namespace Steps

theorem text_eq (h : Steps (ofText text) tokens cursor) : cursor.text = text.toList := by
  rcases h.exists_front with ⟨front, htext, hcursor, -⟩
  rw [htext, hcursor]
  simp [Cursor.text]

theorem divides (h : Steps (ofText text) tokens cursor) (hrest : cursor.rest = blanks ++ remaining)
    (hblanks : ∀ b ∈ blanks, isBlank b = true) :
    Divides text (cursor.before.reverse ++ blanks) remaining (tokens.map Token.kind) := by
  have hfilter := h.filter_stream hrest hblanks
  rcases h.exists_front with ⟨front, htext, hcursor, hlexes⟩
  constructor
  · rw [htext, hrest, hcursor]
    simp
  · have hblanks : Lexes blanks [] := by
      rw [← List.append_nil blanks]
      exact .of_blanks hblanks .nil
    have := hlexes blanks remaining [] hrest hblanks
    rw [hcursor]
    simpa using this
  · exact congrArg _ hfilter

end Steps

theorem Arrives.last_not_blank (h : (ofText text).Arrives cursor .opening) :
    ∀ c ∈ cursor.before.head?, isBlank c = false := by
  rcases h with ⟨tokens, hsteps, hrun⟩
  rcases hsteps.exists_last with rfl | ⟨front, last, previous, rfl, hfront, hlast⟩
  · cases hrun
  · rw [List.map_append, State.run?_append, Option.bind_eq_some_iff] at hrun
    rcases hrun with ⟨reached, -, hopens⟩
    rw [List.map_singleton, State.run?_singleton] at hopens
    rw [hfront.eq_mk rfl] at hlast
    rcases eq_of_next_some hlast with ⟨blanks, c, cs, behind, -, -, -, hscan, -, rfl⟩
    have hchars := Lexeme.not_isBlank_of_opens hscan (State.mem_of_next?_eq_opening hopens)
    intro b hb
    apply hchars b
    apply List.mem_of_getLast?
    rw [List.head?_append, List.head?_reverse, List.getLast?_cons, Option.some_or] at hb
    rw [List.getLast?_cons]
    exact hb

section GetsStuck

variable {middle : Cursor} {first second : Token}

theorem getsStuck_of_error (hsteps : Steps (ofText text) tokens cursor)
    (hrun : State.start.run? (tokens.map Token.kind) = some state)
    (hnext : next cursor = .error failure after) : GetsStuck text failure := by
  have hfailure : (ofText text).stream.failure? ≠ none := by
    rw [hsteps.failure?_eq, stream_of_next_error hnext]
    simp
  rw [hsteps.eq_mk rfl] at hnext
  rcases begins_of_next_error hnext with ⟨blanks, behind, fault, hblanks, hrest, hbegins, rfl⟩
  have hdivides := hsteps.divides hrest hblanks
  refine ⟨fault, _, behind, _, state, hdivides, hrun, .lexeme hfailure hbegins, ?_⟩
  apply hdivides.failureAt
  rw [hdivides.text_eq]
  simp [Cursor.text]

theorem getsStuck_of_some (hsteps : Steps (ofText text) tokens cursor)
    (hrun : State.start.run? (tokens.map Token.kind) = some state)
    (hnext : next cursor = .ok (some first) after) (hstate : state.next? first.kind = none)
    (expected : Expectation) : GetsStuck text (after.unexpected first expected) := by
  have hkinds := hsteps.kinds_eq
  rw [(spans_of_next_some hnext rfl).kinds_eq] at hkinds
  have hafter := text_of_next hsteps.text_eq hnext
  have hmem := hsteps.mem_stream hnext
  rw [hsteps.eq_mk rfl] at hnext
  rcases begins_of_next_some hnext with ⟨blanks, behind, hblanks, hrest, hbegins, hoffset⟩
  have hdivides := hsteps.divides hrest hblanks
  refine ⟨_, _, behind, _, state, hdivides, hrun, .token hkinds ?_ expected ⟨?_, hbegins⟩, ?_⟩
  · rw [State.run?_snoc hrun, hstate]
  · rwa [← hoffset]
  · rw [← hdivides.failureAt hafter, unexpected, hoffset]

theorem getsStuck_of_none (hsteps : Steps (ofText text) tokens cursor)
    (hrun : State.start.run? (tokens.map Token.kind) = some state)
    (hnext : next cursor = .ok none after) (expected : Expectation) :
    GetsStuck text (after.unexpectedEnd expected) := by
  have hkinds := hsteps.kinds_eq
  rw [kinds_of_next_none hnext, List.append_nil] at hkinds
  have hfailure := hsteps.failure?_eq
  rw [stream_of_next_none hnext] at hfailure
  have hafter := text_of_next hsteps.text_eq hnext
  rw [hsteps.eq_mk rfl] at hnext
  -- All that is left of the text are blanks, and the place lies behind them.
  have hdivides := hsteps.divides (List.append_nil _).symm (eq_of_next_none hnext)
  refine ⟨_, _, [], _, state, hdivides, hrun, .finish hkinds hfailure rfl expected, ?_⟩
  rw [← hdivides.failureAt hafter, unexpectedEnd, hafter, hdivides.text_eq, List.append_nil]

theorem getsStuck_of_integer (h : (ofText text).Arrives cursor .opening)
    (hfirst : next cursor = .ok (some first) middle)
    (hsecond : next middle = .ok (some second) after) {n : Int64} {comparator : Comparator}
    (hinteger : first.kind = .integer n) (hcomparator : second.kind = .comparator comparator) :
    GetsStuck text (after.failureAt cursor.offset .integerOnLeft) := by
  have hlast := h.last_not_blank
  rcases h with ⟨tokens, hsteps, hrun⟩
  have hspans := (spans_of_next_some hfirst hinteger).trans (spans_of_next_some hsecond hcomparator)
  have hkinds := hsteps.kinds_eq
  rw [hspans.kinds_eq] at hkinds
  have hafter := text_of_next (text_of_next hsteps.text_eq hfirst) hsecond
  have hmem := hsteps.mem_stream hfirst
  rw [hsteps.eq_mk rfl] at hfirst
  rcases begins_of_next_some hfirst with ⟨blanks, behind, hblanks, hrest, hbegins, hoffset⟩
  rw [hinteger] at hbegins
  -- The place is where the cursor stands, in front of the blanks.
  have hdivides := hsteps.divides (List.nil_append _).symm (by simp)
  refine ⟨_, _, _, _, .opening, hdivides, hrun,
    .integer hkinds ?_ ⟨?_, blanks, behind, n, hrest, hblanks, ?_, hbegins⟩, ?_⟩
  · rw [State.run?_append, hrun]
    rfl
  · rw [List.append_nil, List.getLast?_reverse]
    exact hlast
  · rwa [List.append_nil, ← hoffset, ← hinteger]
  · rw [← hdivides.failureAt hafter, hsteps.eq_mk rfl]
    simp [offset]

theorem DeadEnd.getsStuck (h : (ofText text).DeadEnd failure) : GetsStuck text failure := by
  cases h with
  | lexeme h hnext =>
    rcases h with ⟨tokens, hsteps, hrun⟩
    exact getsStuck_of_error hsteps hrun hnext
  | token h hnext hstate expected =>
    rcases h with ⟨tokens, hsteps, hrun⟩
    exact getsStuck_of_some hsteps hrun hnext hstate expected
  | finish h hnext hstate expected =>
    rcases h with ⟨tokens, hsteps, hrun⟩
    exact getsStuck_of_none hsteps hrun hnext expected
  | integer h hfirst hsecond hinteger hcomparator =>
    exact getsStuck_of_integer h hfirst hsecond hinteger hcomparator

end GetsStuck

theorem Stuck.pointsAt (h : Stuck text consumed remaining kinds fault) :
    fault.PointsAt (ofText text).stream.tokens consumed remaining := by
  cases h with
  | lexeme _ hbegins => exact SyntaxFault.pointsAt_of_isLexical hbegins.isLexical hbegins
  | token _ _ _ hplace => exact hplace
  | finish _ _ hend => exact hend
  | integer _ _ hplace => exact hplace

end Cursor

namespace Path

/-- A syntax error cuts the text at the byte that it names, in front of what it is about. -/
theorem exists_pointsAt_of_parse {text : String} {failure : Failure}
    (h : parse text = .error failure) :
    ∃ fault offset consumed remaining, failure = .malformed fault offset consumed remaining
      ∧ text = consumed ++ remaining ∧ offset = byteLength consumed.toList
      ∧ fault.PointsAt (ofText text).stream.tokens consumed.toList remaining.toList := by
  rcases (deadEnd_of_parse h).getsStuck
    with ⟨fault, consumed, remaining, kinds, state, hdivides, -, hstuck, rfl⟩
  refine ⟨_, _, _, _, rfl, hdivides.text_eq_append, ?_, ?_⟩
  · rw [String.toList_ofList]
  · rw [String.toList_ofList, String.toList_ofList]
    exact hstuck.pointsAt

theorem exists_pointsAt_of_missing_operand :
    parse "a[b== ]" = .error (.malformed (.unexpectedToken .operand .rightBracket) 6 "a[b== " "]")
      ∧ ⟨.rightBracket, 6⟩ ∈ (ofText "a[b== ]").stream.tokens := by
  have hparse : parse "a[b== ]"
      = .error (.malformed (.unexpectedToken .operand .rightBracket) 6 "a[b== " "]") := by
    decide +kernel
  refine ⟨hparse, ?_⟩
  rcases exists_pointsAt_of_parse hparse
    with ⟨fault, offset, consumed, remaining, hfailure, -, -, hpoints⟩
  cases hfailure
  exact hpoints.1

/-- The integer begins at the byte 3, and the blank in front of it is blamed. -/
theorem integer_on_left_blamed_at_blank :
    parse "a[ 1==2]" = .error (.malformed .integerOnLeft 2 "a[" " 1==2]")
      ∧ (ofText "a[ 1==2]").stream.tokens[2]? = some ⟨.integer 1, 3⟩ := by
  constructor <;> decide +kernel

end Path

end DotPath
