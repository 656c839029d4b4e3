import DotPath.Proofs.Path.Reading
import DotPath.Proofs.Path.State
import DotPath.Proofs.Token.Steps

/-!
This module contains the proof that readers go through a query as the automaton of the grammar does. A
reader that fails has been led to a state in which what comes next is hopeless. Readers look one token
further than they reach and push it back, so what matters of a state is what it makes of that token.
-/

namespace DotPath

open Grammar

namespace Cursor

/-- The tokens between `start` and `cursor` lead to `state`. -/
def Arrives (start cursor : Cursor) (state : State) : Prop :=
  ∃ tokens, Steps start tokens cursor ∧ State.start.run? (tokens.map Token.kind) = some state

/-- What comes next has the same meaning as in `state`, whichever state the tokens have led to. -/
def Awaits (start cursor : Cursor) (state : State) : Prop :=
  ∃ arrived reached, start.Arrives arrived reached ∧ next arrived = next cursor
    ∧ reached.isFinal = state.isFinal ∧ ∀ first after, next cursor = .ok (some first) after →
      reached.next? first.kind = state.next? first.kind

/-- The failure is about the first thing behind `start` that makes a query impossible. -/
inductive DeadEnd (start : Cursor) : Failure → Prop where
  | lexeme {failure : Failure} (h : start.Arrives cursor state)
      (hnext : next cursor = .error failure after) :
    DeadEnd start failure
  | token {first : Token} (h : start.Arrives cursor state)
      (hnext : next cursor = .ok (some first) after)
      (hstate : state.next? first.kind = none) (expected : Expectation) :
    DeadEnd start (after.unexpected first expected)
  | finish (h : start.Arrives cursor state) (hnext : next cursor = .ok none after)
      (hstate : state.isFinal = false) (expected : Expectation) :
    DeadEnd start (after.unexpectedEnd expected)
  -- The integer alone would be a position, so it is the comparator that makes it wrong.
  | integer {first second : Token} (h : start.Arrives cursor .opening)
      (hfirst : next cursor = .ok (some first) middle)
      (hsecond : next middle = .ok (some second) after) (hinteger : first.kind = .integer n)
      (hcomparator : second.kind = .comparator comparator) :
    DeadEnd start (after.failureAt cursor.offset .integerOnLeft)

/-- A reader has ended where the state `target` goes on, or it has failed at a dead end. -/
def Leads {α : Type} (start : Cursor) (target : α → State)
    (result : EStateM.Result Failure Cursor α) : Prop :=
  match result with
  | .ok value after => start.Awaits after (target value)
  | .error failure _ => start.DeadEnd failure

variable {start cursor after : Cursor} {state target other : State} {first : Token}
  {kind : TokenKind} {failure : Failure} {expected : Expectation} {α : Type}

theorem Arrives.awaits (h : start.Arrives cursor state) : start.Awaits cursor state :=
  ⟨cursor, state, h, rfl, rfl, fun _ _ _ => rfl⟩

theorem arrives_start (start : Cursor) : start.Arrives start .start :=
  ⟨[], .refl start, rfl⟩

namespace Awaits

theorem arrives (h : start.Awaits cursor state) (hnext : next cursor = .ok (some first) after)
    (hkind : first.kind = kind) (hstate : state.next? kind = some target) :
    start.Arrives after target := by
  rcases h with ⟨arrived, reached, ⟨tokens, hsteps, hrun⟩, harrived, -, hreached⟩
  refine ⟨tokens ++ [first], hsteps.snoc (harrived.trans hnext), ?_⟩
  rw [List.map_append, List.map_singleton, State.run?_snoc hrun, hreached first after hnext, hkind,
    hstate]

theorem finish (h : start.Awaits cursor state) (hnext : next cursor = .ok none after)
    (hfinal : state.isFinal = other.isFinal) : start.Awaits after other := by
  rcases h with ⟨arrived, reached, h, harrived, hreached, -⟩
  have hafter := next_after_next_none hnext
  refine ⟨arrived, reached, h, ?_, hreached.trans hfinal, ?_⟩
  · rw [harrived, hnext, hafter]
  · intro first last hfirst
    rw [hafter] at hfirst
    cases hfirst

theorem pushBack (h : start.Awaits cursor state) (hnext : next cursor = .ok (some first) after)
    (hfinal : state.isFinal = other.isFinal)
    (hstate : state.next? first.kind = other.next? first.kind) :
    start.Awaits (after.pushBack first) other := by
  rcases h with ⟨arrived, reached, h, harrived, hreached, hsame⟩
  have hpushed := next_pushBack hnext
  refine ⟨arrived, reached, h, ?_, hreached.trans hfinal, ?_⟩
  · rw [harrived, hnext, hpushed]
  · intro token last hlast
    rw [hpushed] at hlast
    cases hlast
    rw [hsame first after hnext, hstate]

theorem deadEnd_of_error (h : start.Awaits cursor state) (hnext : next cursor = .error failure after) :
    start.DeadEnd failure := by
  rcases h with ⟨arrived, reached, h, harrived, -, -⟩
  exact .lexeme h (harrived.trans hnext)

theorem deadEnd_of_none (h : start.Awaits cursor state) (hnext : next cursor = .ok none after)
    (hfinal : state.isFinal = false) : start.DeadEnd (after.unexpectedEnd expected) := by
  rcases h with ⟨arrived, reached, h, harrived, hreached, -⟩
  exact .finish h (harrived.trans hnext) (hreached.trans hfinal) expected

theorem deadEnd_of_some (h : start.Awaits cursor state) (hnext : next cursor = .ok (some first) after)
    (hstate : state.next? first.kind = none) : start.DeadEnd (after.unexpected first expected) := by
  rcases h with ⟨arrived, reached, h, harrived, -, hreached⟩
  refine .token h (harrived.trans hnext) ?_ expected
  rw [hreached first after hnext, hstate]

theorem deadEnd_of_token (h : start.Awaits cursor state) (hfinal : state.isFinal = false)
    (htoken : token expected cursor = .error failure after) : start.DeadEnd failure := by
  unfold token at htoken
  split at htoken
  · next hnext =>
    cases htoken
    apply h.deadEnd_of_error hnext
  · next hnext =>
    cases htoken
    apply h.deadEnd_of_none hnext hfinal
  · cases htoken

theorem accept {meaning : TokenKind → Option α} {target : α → State}
    (h : start.Awaits cursor state) (hfinal : state.isFinal = false)
    (hmeaning : ∀ kind, state.next? kind = (meaning kind).map target) :
    start.Leads target (accept expected meaning cursor) := by
  unfold Cursor.accept
  split
  · next htoken => apply h.deadEnd_of_token hfinal htoken
  · next first after htoken =>
    rw [token_eq_ok_iff] at htoken
    specialize hmeaning first.kind
    split
    · next hvalue =>
      rw [hvalue] at hmeaning
      apply (h.arrives htoken rfl hmeaning).awaits
    · next hvalue =>
      rw [hvalue] at hmeaning
      apply h.deadEnd_of_some htoken hmeaning

end Awaits
end Cursor

open Cursor

variable {start cursor after : Cursor}

theorem Operand.eq_integer_of_ofToken? {kind : TokenKind} {n : Int64}
    (h : Operand.ofToken? kind = some (.integer n)) : kind = .integer n := by
  unfold ofToken? at h
  split at h <;> cases h
  rfl

theorem Comparison.read_leads (h : start.Arrives cursor .opening) :
    start.Leads (fun _ => .operand) (Comparison.read cursor) := by
  have hleft : start.Leads State.ofLeft (Operand.read cursor) := by
    apply h.awaits.accept rfl
    intro kind
    cases kind <;> rfl
  unfold Comparison.read
  split
  · next hfailure => rwa [hfailure] at hleft
  · next hok =>
    rw [hok] at hleft
    split
    · next hnext => apply hleft.deadEnd_of_error hnext
    · next hnext => apply hleft.finish hnext (State.isFinal_ofLeft _)
    · next token afterToken hnext =>
      split
      · next hkind => apply hleft.pushBack hnext (State.isFinal_ofLeft _) (State.next?_ofLeft _ hkind)
      · next hkind =>
        rcases accept_eq_ok_iff.mp hok with ⟨first, hfirst, hmeaning⟩
        exact .integer h hfirst hnext (Operand.eq_integer_of_ofToken? hmeaning)
          (eq_comparator_of_comparator? hkind)
      · next hkind =>
        have hmiddle : start.Arrives afterToken .comparator :=
          hleft.arrives hnext (eq_comparator_of_comparator? hkind) rfl
        have hright : start.Leads (fun _ => .operand) (Operand.read afterToken) := by
          apply hmiddle.awaits.accept rfl
          intro kind
          cases kind <;> rfl
        split
        · next hfailure => rwa [hfailure] at hright
        · next hok => rwa [hok] at hright

namespace Filter

theorem arrives_of_connective {expected : Expectation} {token : Token} {connective : Connective}
    (h : start.Awaits cursor .operand) (htoken : Cursor.token expected cursor = .ok token after)
    (hconnective : connective? token.kind = some connective) : start.Arrives after .opening := by
  rw [token_eq_ok_iff] at htoken
  apply h.arrives htoken (eq_kind_of_connective? hconnective)
  cases connective <;> rfl

theorem readChain_leads (left : Filter) (h : start.Awaits cursor .operand) :
    start.Leads (fun _ => .closing) (readChain left cursor) := by
  fun_induction readChain left cursor with
  | case1 left cursor failure after htoken => apply h.deadEnd_of_token rfl htoken
  | case2 left cursor token after htoken hbracket =>
    rw [token_eq_ok_iff] at htoken
    exact (h.arrives htoken hbracket rfl).awaits
  | case3 left cursor token after htoken hbracket hconnective =>
    rw [token_eq_ok_iff] at htoken
    apply h.deadEnd_of_some htoken
    cases hkind : token.kind with
    | rightBracket => exact absurd hkind hbracket
    | and => rw [hkind] at hconnective; cases hconnective
    | or => rw [hkind] at hconnective; cases hconnective
    | _ => rfl
  | case4 left cursor token after htoken _ connective hconnective failure last hfailure =>
    have hright := Comparison.read_leads (arrives_of_connective h htoken hconnective)
    rwa [hfailure] at hright
  | case5 left cursor token after htoken _ connective hconnective right last hok ih =>
    have hright := Comparison.read_leads (arrives_of_connective h htoken hconnective)
    rw [hok] at hright
    exact ih hright

theorem read_leads (h : start.Arrives cursor .opening) :
    start.Leads (fun _ => .closing) (Filter.read cursor) := by
  have hfirst := Comparison.read_leads h
  unfold Filter.read
  split
  · next hfailure => rwa [hfailure] at hfirst
  · next hok =>
    rw [hok] at hfirst
    exact readChain_leads _ hfirst

end Filter

namespace Path

theorem readKey_leads {state : State} (expected : Expectation) (h : start.Arrives cursor state)
    (hstate : state = .marked ∨ state = .dot) :
    start.Leads (fun _ => .key) (readKey expected cursor) := by
  rcases hstate with rfl | rfl
  · apply h.awaits.accept rfl
    intro kind
    cases kind <;> rfl
  · apply h.awaits.accept rfl
    intro kind
    cases kind <;> rfl

theorem readFirst_leads (h : start.Awaits cursor .start) :
    start.Leads (fun _ => .key) (readFirst cursor) := by
  unfold readFirst
  split
  · next htoken => apply h.deadEnd_of_token rfl htoken
  · next token after htoken =>
    rw [token_eq_ok_iff] at htoken
    split
    · next hkind =>
      have hkey := readKey_leads .key (h.arrives htoken hkind rfl) (.inl rfl)
      split
      · next hfailure => rwa [hfailure] at hkey
      · next hok => rwa [hok] at hkey
    · next hkind => exact (h.arrives htoken hkind rfl).awaits
    · next hquestion htext =>
      apply h.deadEnd_of_some htoken
      cases hkind : token.kind with
      | question => exact absurd hkind hquestion
      | text key => exact absurd hkind (htext key)
      | _ => rfl

theorem readKeys_leads (path : Path) (h : start.Awaits cursor .key) :
    start.Leads (fun _ => .closing) (readKeys path cursor) := by
  fun_induction readKeys path cursor with
  | case1 path cursor failure after hnext => apply h.deadEnd_of_error hnext
  | case2 path cursor after hnext => exact h.finish hnext rfl
  | case3 path cursor token after hnext hdot failure last hfailure =>
    have hkey := readKey_leads .keyAfterDot (h.arrives hnext hdot rfl) (.inr rfl)
    rwa [hfailure] at hkey
  | case4 path cursor token after hnext hdot key last hok ih =>
    have hkey := readKey_leads .keyAfterDot (h.arrives hnext hdot rfl) (.inr rfl)
    rw [hok] at hkey
    exact ih hkey
  | case5 path cursor token after hnext hdot =>
    -- A key that no dot follows goes on as a closing bracket does.
    refine h.pushBack hnext rfl ?_
    cases hkind : token.kind with
    | dot => exact absurd hkind hdot
    | _ => rfl

theorem readFilters_leads (h : start.Awaits cursor .closing) :
    start.Leads (fun _ => .closing) (readFilters cursor) := by
  fun_induction readFilters cursor with
  | case1 cursor failure after hnext => apply h.deadEnd_of_error hnext
  | case2 cursor after hnext => exact h.finish hnext rfl
  | case3 cursor token after hnext hbracket failure last hfailure =>
    have hfilter := Filter.read_leads (h.arrives hnext hbracket rfl)
    rwa [hfailure] at hfilter
  | case4 cursor token after hnext hbracket filter middle hok failure last hfailure ih =>
    have hfilter := Filter.read_leads (h.arrives hnext hbracket rfl)
    rw [hok] at hfilter
    have hothers := ih hfilter
    rwa [hfailure] at hothers
  | case5 cursor token after hnext hbracket filter middle hok filters last hothers ih =>
    have hfilter := Filter.read_leads (h.arrives hnext hbracket rfl)
    rw [hok] at hfilter
    have hrest := ih hfilter
    rwa [hothers] at hrest
  | case6 cursor token after hnext hbracket =>
    apply h.deadEnd_of_some hnext
    cases hkind : token.kind with
    | leftBracket => exact absurd hkind hbracket
    | _ => rfl

theorem next_of_readFilters {filters : List Filter} (h : readFilters cursor = .ok filters after) :
    next after = .ok none after := by
  fun_induction readFilters cursor generalizing filters with
  | case1 => cases h
  | case2 cursor last hnext =>
    cases h
    exact next_after_next_none hnext
  | case3 => cases h
  | case4 => cases h
  | case5 cursor token middle hnext hbracket filter behind hok others last hothers ih =>
    cases h
    exact ih hothers
  | case6 => cases h

theorem next_of_read {path : Path} (h : Path.read cursor = .ok path after) :
    next after = .ok none after := by
  rcases read_eq_ok_iff.mp h with ⟨_, _, _, _, _, _, _, hfilters, _⟩
  exact next_of_readFilters hfilters

theorem read_leads (start : Cursor) :
    start.Leads (fun _ => .closing) (Path.read start) := by
  have hfirst := readFirst_leads (arrives_start start).awaits
  rw [Path.read]
  simp only [bind, EStateM.bind, pure, EStateM.pure]
  split
  · next first afterFirst hok =>
    rw [hok] at hfirst
    have hkeys := readKeys_leads first hfirst
    split
    · next path afterKeys hok =>
      rw [hok] at hkeys
      have hfilters := readFilters_leads hkeys
      split
      · next hok => rwa [hok] at hfilters
      · next hfailure => rwa [hfailure] at hfilters
    · next hfailure => rwa [hfailure] at hkeys
  · next hfailure => rwa [hfailure] at hfirst

theorem deadEnd_of_parse {text : String} {failure : Failure} (h : parse text = .error failure) :
    (ofText text).DeadEnd failure := by
  have hread := read_leads (ofText text)
  unfold parse at h
  split at h
  · cases h
  · next hfailure =>
    cases h
    rwa [hfailure] at hread

theorem accepts_of_parse {text : String} {path : Path} (h : parse text = .ok path) :
    (ofText text).stream.failure? = none ∧ State.start.Accepts (ofText text).kinds := by
  have hread := read_leads (ofText text)
  unfold parse at h
  split at h
  · next after hok =>
    have hend := next_of_read hok
    rw [hok] at hread
    rcases hread with ⟨arrived, reached, ⟨tokens, hsteps, hrun⟩, harrived, hfinal, -⟩
    rw [hend] at harrived
    rw [hsteps.failure?_eq, hsteps.kinds_eq, State.accepts_append_iff hrun]
    rw [kinds, stream_of_next_none harrived]
    exact ⟨rfl, State.accepts_nil_iff.mpr hfinal⟩
  · cases h

end Path

namespace Cursor.DeadEnd

theorem not_accepts {failure : Failure} (h : start.DeadEnd failure)
    (hfailure : start.stream.failure? = none) : ¬ State.start.Accepts start.kinds := by
  cases h with
  | lexeme h hnext =>
    rcases h with ⟨tokens, hsteps, hrun⟩
    rw [hsteps.failure?_eq, stream_of_next_error hnext] at hfailure
    cases hfailure
  | token h hnext hstate =>
    rcases h with ⟨tokens, hsteps, hrun⟩
    rw [hsteps.kinds_eq, State.accepts_append_iff hrun, (spans_of_next_some hnext rfl).kinds_eq]
    apply State.not_accepts_cons hstate
  | finish h hnext hstate =>
    rcases h with ⟨tokens, hsteps, hrun⟩
    rw [hsteps.kinds_eq, State.accepts_append_iff hrun, kinds, stream_of_next_none hnext]
    intro hnil
    rw [State.accepts_nil_iff.mp hnil] at hstate
    cases hstate
  | integer h hfirst hsecond hinteger hcomparator =>
    rcases h with ⟨tokens, hsteps, hrun⟩
    have hinteger := spans_of_next_some hfirst hinteger
    have hcomparator := spans_of_next_some hsecond hcomparator
    rw [hsteps.kinds_eq, State.accepts_append_iff hrun, (hinteger.trans hcomparator).kinds_eq]
    rintro ⟨final, ⟨⟩, -⟩

end Cursor.DeadEnd

/-- A text is a query if its tokens lead the automaton from the start to an end. -/
theorem Path.exists_parse_iff {text : String} :
    (∃ path, parse text = .ok path)
      ↔ (ofText text).stream.failure? = none ∧ State.start.Accepts (ofText text).kinds := by
  constructor
  · rintro ⟨path, h⟩
    exact accepts_of_parse h
  · rintro ⟨hfailure, haccepts⟩
    cases h : parse text with
    | ok path => exact ⟨path, rfl⟩
    | error failure => exact absurd haccepts ((deadEnd_of_parse h).not_accepts hfailure)

end DotPath
