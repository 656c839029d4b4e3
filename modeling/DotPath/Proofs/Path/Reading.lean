import DotPath.Path.Parser
import DotPath.Proofs.Path.Grammar
import DotPath.Proofs.Token.Stream

/-!
This module contains the proof that reading accepts exactly the grammar of queries. For each reader
there is a pair of theorems: what it accepts is derived by the grammar from the tokens that it spans,
and tokens that the grammar derives something from are accepted, whatever follows them. A comparison
has to look one token further than it reaches, so there the token behind it matters.
-/

namespace DotPath

open Grammar

variable {cursor after : Cursor} {kinds rest : List TokenKind}

namespace Operand

theorem derives_of_read {operand : Operand} (h : read cursor = .ok operand after) :
    ∃ kinds, DerivesOperand kinds operand ∧ cursor.Spans kinds after := by
  rcases Cursor.spans_of_accept h with ⟨kind, hkind, hspans⟩
  refine ⟨[kind], ?_, hspans⟩
  unfold ofToken? at hkind
  split at hkind <;> cases hkind
  · apply DerivesOperand.text
  · apply DerivesOperand.integer

theorem read_of_derives {operand : Operand} (h : DerivesOperand kinds operand)
    (hkinds : cursor.kinds = kinds ++ rest) :
    ∃ after, read cursor = .ok operand after ∧ cursor.Spans kinds after := by
  cases h <;> exact Cursor.accept_of_kinds_cons hkinds rfl

end Operand

namespace Comparison

theorem eq_comparator_of_comparator? {kind : TokenKind} {comparator : Comparator}
    (h : kind.comparator? = some comparator) : kind = .comparator comparator := by
  unfold TokenKind.comparator? at h
  split at h <;> cases h
  rfl

theorem derives_of_read {comparison : Comparison} (h : read cursor = .ok comparison after) :
    ∃ kinds, DerivesComparison kinds comparison ∧ cursor.Spans kinds after := by
  unfold read at h
  split at h
  · cases h
  · next left afterLeft hleft =>
    rcases Operand.derives_of_read hleft with ⟨kinds, hderives, hspans⟩
    split at h
    · cases h
    · next hnext =>
      cases h
      refine ⟨kinds ++ [], ?_, hspans.trans (Cursor.spans_of_next_none hnext)⟩
      rw [List.append_nil]
      apply DerivesComparison.position hderives
    · next token afterToken hnext =>
      split at h
      · cases h
        refine ⟨kinds ++ [], ?_, hspans.trans (Cursor.spans_pushBack hnext)⟩
        rw [List.append_nil]
        apply DerivesComparison.position hderives
      · cases h
      · next comparator name hcomparator =>
        split at h
        · cases h
        · next right _ hright =>
          cases h
          rcases Operand.derives_of_read hright with ⟨kinds', hderives', hspans'⟩
          have hmiddle := Cursor.spans_of_next_some hnext (eq_comparator_of_comparator? hcomparator)
          cases hderives
          exact ⟨_, .field name comparator hderives', hspans.cons (hmiddle.cons hspans')⟩

theorem read_of_derives {comparison : Comparison} {kind : TokenKind}
    (h : DerivesComparison kinds comparison) (hkinds : cursor.kinds = kinds ++ kind :: rest)
    (hkind : kind.comparator? = none) :
    ∃ after, read cursor = .ok comparison after ∧ cursor.Spans kinds after := by
  cases h with
  | position hoperand =>
    rcases Operand.read_of_derives hoperand hkinds with ⟨afterLeft, hleft, hspans⟩
    rcases Cursor.next_of_kinds_cons (hspans.kinds_after hkinds)
      with ⟨token, afterToken, hnext, rfl, -⟩
    -- The token has been read only to see that it is no comparator.
    refine ⟨afterToken.pushBack token, ?_, ?_⟩
    · unfold read
      rw [hleft]
      simp only [hnext, hkind, position]
    · have := hspans.trans (Cursor.spans_pushBack hnext)
      rwa [List.append_nil] at this
  | field name comparator hright =>
    rw [List.cons_append] at hkinds
    rcases Operand.read_of_derives (.text name) hkinds with ⟨afterLeft, hleft, hspans⟩
    have hkindsLeft := hspans.kinds_after hkinds
    rcases Cursor.next_of_kinds_cons hkindsLeft with ⟨token, afterToken, hnext, htoken, hmiddle⟩
    rcases Operand.read_of_derives hright (hmiddle.kinds_after hkindsLeft)
      with ⟨after, hread, hspans'⟩
    refine ⟨after, ?_, hspans.cons (hmiddle.cons hspans')⟩
    unfold read
    rw [hleft]
    simp only [hnext, htoken, TokenKind.comparator?, hread]

end Comparison

namespace Filter

theorem connective?_kind (connective : Connective) : connective? connective.kind = some connective := by
  cases connective <;> rfl

theorem eq_kind_of_connective? {kind : TokenKind} {connective : Connective}
    (h : connective? kind = some connective) : kind = connective.kind := by
  unfold connective? at h
  split at h <;> cases h <;> rfl

theorem derives_of_readChain {left filter : Filter} (h : readChain left cursor = .ok filter after) :
    ∃ kinds links, Many DerivesLink kinds links ∧ filter = left.extend links
      ∧ cursor.Spans (kinds ++ [.rightBracket]) after := by
  -- Each round of the loop puts one link in front of those that the later rounds read.
  fun_induction readChain left cursor with
  | case1 => cases h
  | case2 left cursor token middle htoken hkind =>
    cases h
    exact ⟨[], [], .nil, rfl, Cursor.spans_of_next_some (Cursor.token_eq_ok_iff.1 htoken) hkind⟩
  | case3 => cases h
  | case4 => cases h
  | case5 left cursor token middle htoken _ connective hconnective right last hright ih =>
    rcases ih h with ⟨kinds, links, hlinks, hfilter, hspans⟩
    rcases Comparison.derives_of_read hright with ⟨kinds', hderives, hspans'⟩
    have hmiddle := Cursor.spans_of_next_some (Cursor.token_eq_ok_iff.1 htoken)
      (eq_kind_of_connective? hconnective)
    refine ⟨_, _, .cons (.link connective hderives) hlinks, hfilter, ?_⟩
    rw [List.append_assoc]
    apply hmiddle.cons (hspans'.trans hspans)

theorem exists_cons_of_links {links : List (Connective × Comparison)} (h : Many DerivesLink kinds links) :
    ∃ kind tail, kinds ++ .rightBracket :: rest = kind :: tail ∧ kind.comparator? = none := by
  have hnone : NoComparator (kinds ++ .rightBracket :: rest) := noComparator_links h rfl
  cases hcons : kinds ++ .rightBracket :: rest with
  | nil => simp at hcons
  | cons kind tail =>
    rw [hcons] at hnone
    exact ⟨kind, tail, rfl, hnone kind rfl⟩

theorem readChain_of_derives {left : Filter} {links : List (Connective × Comparison)}
    (h : Many DerivesLink kinds links) (hkinds : cursor.kinds = kinds ++ .rightBracket :: rest) :
    ∃ after, readChain left cursor = .ok (left.extend links) after
      ∧ cursor.Spans (kinds ++ [.rightBracket]) after := by
  induction h generalizing left cursor with
  | nil =>
    rcases Cursor.next_of_kinds_cons hkinds with ⟨token, after, hnext, htoken, hspans⟩
    refine ⟨after, ?_, hspans⟩
    rw [readChain_eq, Cursor.token_eq_ok_iff.2 hnext]
    simp only [htoken, if_true]
    rfl
  | cons head tail ih =>
    cases head with
    | link connective hright =>
      rw [List.append_assoc, List.cons_append] at hkinds
      rcases Cursor.next_of_kinds_cons hkinds with ⟨token, middle, hnext, htoken, hspans⟩
      have hmiddle := hspans.kinds_after hkinds
      rcases exists_cons_of_links tail with ⟨kind, rest', hrest, hkind⟩
      rcases Comparison.read_of_derives hright (hmiddle.trans (congrArg _ hrest)) hkind
        with ⟨afterRight, hread, hspansRight⟩
      rcases ih (hspansRight.kinds_after hmiddle) with ⟨after, hchain, hspansChain⟩
      refine ⟨after, ?_, ?_⟩
      · rw [readChain_eq, Cursor.token_eq_ok_iff.2 hnext]
        simp only [htoken, if_neg connective.kind_ne_rightBracket, connective?_kind, hread]
        apply hchain
      · rw [List.append_assoc]
        apply hspans.cons (hspansRight.trans hspansChain)

theorem derives_of_read {filter : Filter} (h : read cursor = .ok filter after) :
    ∃ kinds, DerivesFilter kinds filter ∧ cursor.Spans (kinds ++ [.rightBracket]) after := by
  unfold read at h
  split at h
  · cases h
  · next hfirst =>
    rcases Comparison.derives_of_read hfirst with ⟨kinds, hderives, hspans⟩
    rcases derives_of_readChain h with ⟨kinds', links, hlinks, rfl, hspans'⟩
    refine ⟨kinds ++ kinds', .chain hderives hlinks, ?_⟩
    rw [List.append_assoc]
    apply hspans.trans hspans'

theorem read_of_derives {filter : Filter} (h : DerivesFilter kinds filter)
    (hkinds : cursor.kinds = kinds ++ .rightBracket :: rest) :
    ∃ after, read cursor = .ok filter after ∧ cursor.Spans (kinds ++ [.rightBracket]) after := by
  cases h with
  | chain head tail =>
    rw [List.append_assoc] at hkinds
    rcases exists_cons_of_links tail with ⟨kind, rest', hrest, hkind⟩
    rcases Comparison.read_of_derives head (hkinds.trans (congrArg _ hrest)) hkind
      with ⟨middle, hread, hspans⟩
    rcases readChain_of_derives tail (hspans.kinds_after hkinds) with ⟨after, hchain, hspans'⟩
    refine ⟨after, ?_, ?_⟩
    · unfold read
      rw [hread]
      apply hchain
    · rw [List.append_assoc]
      apply hspans.trans hspans'

end Filter

namespace Path

def extend (path : Path) (keys : List String) : Path :=
  keys.foldl (fun path key => .child path ⟨key, false, []⟩) path

theorem descend_eq_extend (parent : Path) (key : String) (others : List String) (filters : List Filter) :
    descend parent key others filters = (parent.extend (key :: others)).withFilters filters := by
  induction others generalizing parent key with
  | nil => rfl
  | cons next others ih => exact ih (.child parent ⟨key, false, []⟩) next

/-- The keys are put below the path one after the other, and the filters onto what is last then. -/
theorem ofKeys_eq_extend (marked : Bool) (first : String) (others : List String)
    (filters : List Filter) : ofKeys marked first others filters
      = ((Path.first ⟨first, marked, []⟩).extend others).withFilters filters := by
  cases others with
  | nil => rfl
  | cons next others => apply descend_eq_extend

theorem derives_of_readKey {expected : Expectation} {key : String}
    (h : readKey expected cursor = .ok key after) : cursor.Spans [.text key] after := by
  rcases Cursor.spans_of_accept h with ⟨kind, hkind, hspans⟩
  unfold TokenKind.text? at hkind
  split at hkind <;> cases hkind
  exact hspans

theorem readKey_of_kinds (expected : Expectation) {key : String}
    (hkinds : cursor.kinds = .text key :: rest) :
    ∃ after, readKey expected cursor = .ok key after ∧ cursor.Spans [.text key] after := by
  exact Cursor.accept_of_kinds_cons hkinds rfl

theorem derives_of_readFirst {path : Path} (h : readFirst cursor = .ok path after) :
    ∃ marks marked first, DerivesMark marks marked ∧ path = .first ⟨first, marked, []⟩
      ∧ cursor.Spans (marks ++ [.text first]) after := by
  unfold readFirst at h
  split at h
  · cases h
  · next htoken =>
    rw [Cursor.token_eq_ok_iff] at htoken
    split at h
    · next hkind =>
      have hspans := Cursor.spans_of_next_some htoken hkind
      split at h
      · cases h
      · next key _ hkey =>
        cases h
        exact ⟨_, _, key, .present, rfl, hspans.trans (derives_of_readKey hkey)⟩
    · next key hkind =>
      cases h
      exact ⟨_, _, key, .absent, rfl, Cursor.spans_of_next_some htoken hkind⟩
    · cases h

theorem readFirst_of_derives {marks : List TokenKind} {marked : Bool} {first : String}
    (h : DerivesMark marks marked) (hkinds : cursor.kinds = marks ++ .text first :: rest) :
    ∃ after, readFirst cursor = .ok (.first ⟨first, marked, []⟩) after
      ∧ cursor.Spans (marks ++ [.text first]) after := by
  unfold readFirst
  cases h with
  | absent =>
    rcases Cursor.next_of_kinds_cons hkinds with ⟨token, after, hnext, htoken, hspans⟩
    refine ⟨after, ?_, hspans⟩
    rw [Cursor.token_eq_ok_iff.2 hnext]
    simp only [htoken]
  | present =>
    rcases Cursor.next_of_kinds_cons hkinds with ⟨token, middle, hnext, htoken, hspans⟩
    rcases readKey_of_kinds .key (hspans.kinds_after hkinds) with ⟨after, hkey, hspans'⟩
    refine ⟨after, ?_, hspans.cons hspans'⟩
    rw [Cursor.token_eq_ok_iff.2 hnext]
    simp only [htoken, hkey]

theorem derives_of_readKeys {path keyed : Path} (h : readKeys path cursor = .ok keyed after) :
    ∃ kinds others, Many DerivesKey kinds others ∧ keyed = path.extend others
      ∧ cursor.Spans kinds after := by
  fun_induction readKeys path cursor with
  | case1 => cases h
  | case2 path cursor after' hnext =>
    cases h
    exact ⟨[], [], .nil, rfl, Cursor.spans_of_next_none hnext⟩
  | case3 => cases h
  | case4 path cursor token middle hnext hdot key afterKey hkey ih =>
    rcases ih h with ⟨kinds, others, hkeys, hkeyed, hspans⟩
    have hmiddle := Cursor.spans_of_next_some hnext hdot
    refine ⟨_, _, .cons (.key key) hkeys, hkeyed, ?_⟩
    apply hmiddle.cons ((derives_of_readKey hkey).cons hspans)
  | case5 path cursor token middle hnext hdot =>
    cases h
    exact ⟨[], [], .nil, rfl, Cursor.spans_pushBack hnext⟩

theorem readKeys_of_derives {path : Path} {others : List String} (h : Many DerivesKey kinds others)
    (hkinds : cursor.kinds = kinds ++ rest) (hrest : rest.head? ≠ some .dot)
    (hfailure : cursor.stream.failure? = none) :
    ∃ after, readKeys path cursor = .ok (path.extend others) after ∧ cursor.Spans kinds after := by
  induction h generalizing path cursor with
  | nil =>
    cases rest with
    | nil =>
      rcases Cursor.next_of_kinds_nil hkinds hfailure with ⟨after, hnext⟩
      refine ⟨after, ?_, Cursor.spans_of_next_none hnext⟩
      rw [readKeys_eq, hnext]
      rfl
    | cons kind tail =>
      rcases Cursor.next_of_kinds_cons hkinds with ⟨token, after, hnext, rfl, -⟩
      have hdot : token.kind ≠ .dot := by
        intro hdot
        apply hrest
        rw [hdot]
        rfl
      -- The first bracket has been read to see that there is no dot; the filters read it again.
      refine ⟨after.pushBack token, ?_, Cursor.spans_pushBack hnext⟩
      rw [readKeys_eq, hnext]
      simp only [if_neg hdot]
      rfl
  | cons head tail ih =>
    cases head with
    | key name =>
      rw [List.append_assoc] at hkinds
      rcases Cursor.next_of_kinds_cons hkinds with ⟨token, middle, hnext, hdot, hspans⟩
      have hmiddle := hspans.kinds_after hkinds
      rcases readKey_of_kinds .keyAfterDot hmiddle with ⟨afterKey, hkey, hspansKey⟩
      have hspans := hspans.cons hspansKey
      rcases ih (hspans.kinds_after hkinds) (hspans.failure?_eq.symm.trans hfailure)
        with ⟨after, hkeys, hspansKeys⟩
      refine ⟨after, ?_, hspans.trans hspansKeys⟩
      rw [readKeys_eq, hnext]
      simp only [if_pos hdot, hkey]
      apply hkeys

theorem derives_of_readFilters {filters : List Filter} (h : readFilters cursor = .ok filters after) :
    Many DerivesBracketed cursor.kinds filters ∧ cursor.stream.failure? = none := by
  fun_induction readFilters cursor generalizing filters after with
  | case1 => cases h
  | case2 cursor after' hnext =>
    cases h
    rw [Cursor.kinds, Cursor.stream_of_next_none hnext]
    exact ⟨.nil, rfl⟩
  | case3 => cases h
  | case4 => cases h
  | case5 cursor token middle hnext hbracket filter afterFilter hfilter others _ hothers ih =>
    cases h
    rcases ih hothers with ⟨hmany, hfailure⟩
    rcases Filter.derives_of_read hfilter with ⟨kinds, hderives, hspans⟩
    have hspans := (Cursor.spans_of_next_some hnext hbracket).cons hspans
    rw [hspans.kinds_eq, hspans.failure?_eq]
    exact ⟨.cons (.brackets hderives) hmany, hfailure⟩
  | case6 => cases h

theorem readFilters_of_derives {filters : List Filter} (h : Many DerivesBracketed kinds filters)
    (hkinds : cursor.kinds = kinds) (hfailure : cursor.stream.failure? = none) :
    ∃ after, readFilters cursor = .ok filters after := by
  induction h generalizing cursor with
  | nil =>
    rcases Cursor.next_of_kinds_nil hkinds hfailure with ⟨after, hnext⟩
    refine ⟨after, ?_⟩
    rw [readFilters_eq, hnext]
  | cons head tail ih =>
    cases head with
    | brackets inner =>
      have hflat := hkinds
      rw [List.cons_append, List.append_assoc] at hflat
      rcases Cursor.next_of_kinds_cons hflat with ⟨token, middle, hnext, hbracket, hspans⟩
      rcases Filter.read_of_derives inner (hspans.kinds_after hflat)
        with ⟨afterFilter, hfilter, hspansFilter⟩
      have hspans := hspans.cons hspansFilter
      rcases ih (hspans.kinds_after hkinds) (hspans.failure?_eq.symm.trans hfailure)
        with ⟨after, hfilters⟩
      refine ⟨after, ?_⟩
      rw [readFilters_eq, hnext]
      simp only [if_pos hbracket, hfilter, hfilters]

theorem read_eq_ok_iff {path : Path} {after : Cursor} :
    read cursor = .ok path after ↔ ∃ first keyed filters middle last,
      readFirst cursor = .ok first middle ∧ readKeys first middle = .ok keyed last
        ∧ readFilters last = .ok filters after ∧ path = keyed.withFilters filters := by
  simp only [read, bind, EStateM.bind, pure, EStateM.pure]
  constructor
  · intro h
    split at h
    · next hfirst =>
      split at h
      · next hkeys =>
        split at h
        · next hfilters =>
          cases h
          exact ⟨_, _, _, _, _, hfirst, hkeys, hfilters, rfl⟩
        · cases h
      · cases h
    · cases h
  · rintro ⟨first, keyed, filters, middle, last, hfirst, hkeys, hfilters, rfl⟩
    rw [hfirst]
    simp only [hkeys, hfilters]

theorem derives_of_read {path : Path} (h : read cursor = .ok path after) :
    DerivesPath cursor.kinds path ∧ cursor.stream.failure? = none := by
  rcases read_eq_ok_iff.1 h with ⟨first, keyed, filters, middle, last, hfirst, hkeys, hfilters, rfl⟩
  rcases derives_of_readFirst hfirst with ⟨marks, marked, key, hmark, rfl, hspans⟩
  rcases derives_of_readKeys hkeys with ⟨kinds, others, hothers, rfl, hspansKeys⟩
  rcases derives_of_readFilters hfilters with ⟨hbrackets, hfailure⟩
  constructor
  · rw [hspans.kinds_eq, hspansKeys.kinds_eq, List.append_assoc, List.singleton_append,
      ← ofKeys_eq_extend]
    exact .path hmark key hothers hbrackets
  · rw [hspans.failure?_eq, hspansKeys.failure?_eq, hfailure]

theorem read_of_derives {path : Path} (h : DerivesPath cursor.kinds path)
    (hfailure : cursor.stream.failure? = none) : ∃ after, read cursor = .ok path after := by
  generalize hkinds : cursor.kinds = kinds at h
  cases h with
  | path mark first keys brackets =>
    rcases readFirst_of_derives mark hkinds with ⟨middle, hfirst, hspans⟩
    rw [List.append_cons] at hkinds
    have hmiddle := hspans.kinds_after hkinds
    rw [hspans.failure?_eq] at hfailure
    rcases readKeys_of_derives keys hmiddle (head?_brackets_ne_dot brackets) hfailure
      with ⟨last, hkeys, hspansKeys⟩
    rw [hspansKeys.failure?_eq] at hfailure
    rcases readFilters_of_derives brackets (hspansKeys.kinds_after hmiddle) hfailure
      with ⟨after, hfilters⟩
    refine ⟨after, read_eq_ok_iff.2 ⟨_, _, _, _, _, hfirst, hkeys, hfilters, ?_⟩⟩
    apply ofKeys_eq_extend

/--
A query is accepted exactly if reading its tokens does not fail and the grammar derives a path from
their kinds. That path is then the only one, and it is what the query spells.
-/
theorem parse_eq_ok_iff_derives (text : String) (path : Path) :
    parse text = .ok path ↔
      ∃ tokens, (Cursor.ofText text).stream = ⟨tokens, none⟩
        ∧ DerivesPath (tokens.map Token.kind) path
        ∧ ∀ other, DerivesPath (tokens.map Token.kind) other → other = path := by
  unfold parse
  constructor
  · intro h
    split at h
    · next hread =>
      cases h
      rcases derives_of_read hread with ⟨hderives, hfailure⟩
      refine ⟨(Cursor.ofText text).stream.tokens, ?_, hderives, ?_⟩
      · rw [← hfailure]
      · intro other hother
        apply hother.unique hderives
    · cases h
  · rintro ⟨tokens, hstream, hderives, -⟩
    have hkinds : (Cursor.ofText text).kinds = tokens.map Token.kind := by
      rw [Cursor.kinds, hstream]
      rfl
    rw [← hkinds] at hderives
    rcases read_of_derives hderives (by rw [hstream]) with ⟨after, hread⟩
    rw [hread]

end Path
end DotPath
