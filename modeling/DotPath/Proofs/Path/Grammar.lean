import DotPath.Path.Basic
import DotPath.Token

/-!
This module contains the grammar of queries over token kinds, together with the tree that a derivation
stands for:

    path        := ['?'] text ('.' text)* ('[' logical ']')*
    logical     := comparative (('&&' | '||') comparative)*
    comparative := text | integer | text comparator (text | integer)

Nothing in it refers to how queries are read. The grammar is unambiguous: the tokens of a query leave
no choice of its tree.
-/

namespace DotPath

def Connective.kind (connective : Connective) : TokenKind :=
  match connective with
  | .and => .and
  | .or => .or

namespace Connective

theorem kind_injective {a b : Connective} (h : a.kind = b.kind) : a = b := by
  cases a <;> cases b <;> first | rfl | cases h

theorem kind_ne_rightBracket (connective : Connective) : connective.kind ≠ .rightBracket := by
  cases connective <;> simp [kind]

theorem comparator?_kind (connective : Connective) : connective.kind.comparator? = none := by
  cases connective <;> rfl

end Connective

namespace Filter

def extend (left : Filter) (links : List (Connective × Comparison)) : Filter :=
  links.foldl (fun left link => .logical link.1 left (.comparison link.2)) left

def chain (first : Comparison) (links : List (Connective × Comparison)) : Filter :=
  extend (.comparison first) links

end Filter

namespace Path

/-- The path of the keys below `parent`, the last one outermost and the only one with filters. -/
def descend (parent : Path) (key : String) (others : List String) (filters : List Filter) : Path :=
  match others with
  | [] => .child parent ⟨key, false, filters⟩
  | next :: others => descend (.child parent ⟨key, false, []⟩) next others filters

/-- The path of the given keys, the last one outermost, marked in front and filtered at its end. -/
def ofKeys (marked : Bool) (first : String) (others : List String) (filters : List Filter) : Path :=
  match others with
  | [] => .first ⟨first, marked, filters⟩
  | next :: others => descend (.first ⟨first, marked, []⟩) next others filters

end Path

namespace Grammar

inductive Many (item : List TokenKind → α → Prop) : List TokenKind → List α → Prop where
  | nil : Many item [] []
  | cons (head : item kinds a) (tail : Many item rest as) : Many item (kinds ++ rest) (a :: as)

inductive DerivesOperand : List TokenKind → Operand → Prop where
  | text (s : String) : DerivesOperand [.text s] (.text s)
  | integer (n : Int64) : DerivesOperand [.integer n] (.integer n)

inductive DerivesComparison : List TokenKind → Comparison → Prop where
  | position (operand : DerivesOperand kinds left) : DerivesComparison kinds ⟨none, left, none⟩
  | field (name : String) (comparator : Comparator) (operand : DerivesOperand kinds right) :
    DerivesComparison (.text name :: .comparator comparator :: kinds)
      ⟨some comparator, .text name, some right⟩

inductive DerivesLink : List TokenKind → Connective × Comparison → Prop where
  | link (connective : Connective) (right : DerivesComparison kinds c) :
    DerivesLink (connective.kind :: kinds) (connective, c)

inductive DerivesFilter : List TokenKind → Filter → Prop where
  | chain (head : DerivesComparison kinds first) (tail : Many DerivesLink rest links) :
    DerivesFilter (kinds ++ rest) (.chain first links)

inductive DerivesBracketed : List TokenKind → Filter → Prop where
  | brackets (inner : DerivesFilter kinds filter) :
    DerivesBracketed (.leftBracket :: (kinds ++ [.rightBracket])) filter

inductive DerivesMark : List TokenKind → Bool → Prop where
  | absent : DerivesMark [] false
  | present : DerivesMark [.question] true

inductive DerivesKey : List TokenKind → String → Prop where
  | key (name : String) : DerivesKey [.dot, .text name] name

inductive DerivesPath : List TokenKind → Path → Prop where
  | path (mark : DerivesMark marks marked) (first : String) (keys : Many DerivesKey dotted others)
      (brackets : Many DerivesBracketed bracketed filters) :
    DerivesPath (marks ++ .text first :: (dotted ++ bracketed)) (.ofKeys marked first others filters)

def NoComparator (rest : List TokenKind) : Prop :=
  ∀ kind ∈ rest.head?, kind.comparator? = none

theorem DerivesOperand.unique {kinds kinds' rest rest' : List TokenKind} {a b : Operand}
    (h : DerivesOperand kinds a) (h' : DerivesOperand kinds' b)
    (heq : kinds ++ rest = kinds' ++ rest') : a = b ∧ rest = rest' := by
  cases h <;> cases h' <;> cases heq <;> exact ⟨rfl, rfl⟩

theorem DerivesComparison.unique {kinds kinds' rest rest' : List TokenKind} {a b : Comparison}
    (h : DerivesComparison kinds a) (h' : DerivesComparison kinds' b)
    (heq : kinds ++ rest = kinds' ++ rest') (hrest : NoComparator rest)
    (hrest' : NoComparator rest') : a = b ∧ rest = rest' := by
  cases h with
  | position operand =>
    cases h' with
    | position operand' =>
      rcases operand.unique operand' heq with ⟨rfl, rfl⟩
      exact ⟨rfl, rfl⟩
    | field name comparator =>
      cases operand <;> cases heq
      specialize hrest _ rfl
      cases hrest
  | field name comparator operand =>
    cases h' with
    | position operand' =>
      cases operand' <;> cases heq
      specialize hrest' _ rfl
      cases hrest'
    | field name' comparator' operand' =>
      simp only [List.cons_append, List.cons.injEq, TokenKind.text.injEq,
        TokenKind.comparator.injEq] at heq
      rcases heq with ⟨rfl, rfl, heq⟩
      rcases operand.unique operand' heq with ⟨rfl, rfl⟩
      exact ⟨rfl, rfl⟩

/--
A repetition is determined by its tokens if each item is, given that `Ends` holds of what stands
behind it, and if no item begins where the repetition may stop.
-/
theorem Many.unique {item : List TokenKind → α → Prop} (Ends Stops : List TokenKind → Prop)
    (hitem : ∀ {kinds kinds' rest rest' a b}, item kinds a → item kinds' b →
      kinds ++ rest = kinds' ++ rest' → Ends rest → Ends rest' → a = b ∧ rest = rest')
    (hends : ∀ {kinds as rest}, Many item kinds as → Stops rest → Ends (kinds ++ rest))
    (hstops : ∀ {kinds a rest}, item kinds a → ¬ Stops (kinds ++ rest))
    {kinds kinds' rest rest' : List TokenKind} {as bs : List α}
    (h : Many item kinds as) (h' : Many item kinds' bs) (heq : kinds ++ rest = kinds' ++ rest')
    (hrest : Stops rest) (hrest' : Stops rest') : as = bs ∧ rest = rest' := by
  -- Neither repetition can be the longer one: an item would begin where the other one stops.
  induction h generalizing kinds' bs with
  | nil =>
    cases h' with
    | nil => exact ⟨rfl, heq⟩
    | cons head' tail' =>
      rw [List.nil_append, List.append_assoc] at heq
      rw [heq] at hrest
      exact absurd hrest (hstops head')
  | cons head tail ih =>
    cases h' with
    | nil =>
      rw [List.nil_append, List.append_assoc] at heq
      rw [← heq] at hrest'
      exact absurd hrest' (hstops head)
    | cons head' tail' =>
      rw [List.append_assoc, List.append_assoc] at heq
      rcases hitem head head' heq (hends tail hrest) (hends tail' hrest') with ⟨rfl, htail⟩
      rcases ih tail' htail with ⟨rfl, hrest⟩
      exact ⟨rfl, hrest⟩

theorem Many.append {item : List TokenKind → α → Prop} {kinds rest : List TokenKind}
    {as bs : List α} (h : Many item kinds as) (h' : Many item rest bs) :
    Many item (kinds ++ rest) (as ++ bs) := by
  induction h with
  | nil => exact h'
  | cons head tail ih =>
    rw [List.append_assoc]
    exact .cons head ih

theorem DerivesLink.unique {kinds kinds' rest rest' : List TokenKind} {a b : Connective × Comparison}
    (h : DerivesLink kinds a) (h' : DerivesLink kinds' b) (heq : kinds ++ rest = kinds' ++ rest')
    (hrest : NoComparator rest) (hrest' : NoComparator rest') : a = b ∧ rest = rest' := by
  cases h with
  | link connective right =>
    cases h' with
    | link connective' right' =>
      rw [List.cons_append, List.cons_append, List.cons.injEq] at heq
      rcases right.unique right' heq.2 hrest hrest' with ⟨rfl, rfl⟩
      rw [Connective.kind_injective heq.1]
      exact ⟨rfl, rfl⟩

theorem noComparator_links {kinds rest : List TokenKind} {links : List (Connective × Comparison)}
    (h : Many DerivesLink kinds links) (hrest : rest.head? = some .rightBracket) :
    NoComparator (kinds ++ rest) := by
  intro kind hkind
  cases h with
  | nil =>
    rw [List.nil_append, hrest] at hkind
    cases hkind
    rfl
  | cons head tail =>
    cases head with
    | link connective =>
      cases hkind
      apply connective.comparator?_kind

theorem DerivesLink.head?_ne_rightBracket {kinds rest : List TokenKind}
    {link : Connective × Comparison} (h : DerivesLink kinds link) :
    (kinds ++ rest).head? ≠ some .rightBracket := by
  cases h with
  | link connective => simp [connective.kind_ne_rightBracket]

theorem DerivesFilter.unique {kinds kinds' rest rest' : List TokenKind} {a b : Filter}
    (h : DerivesFilter kinds a) (h' : DerivesFilter kinds' b)
    (heq : kinds ++ .rightBracket :: rest = kinds' ++ .rightBracket :: rest') :
    a = b ∧ rest = rest' := by
  cases h with
  | chain head tail =>
    cases h' with
    | chain head' tail' =>
      rw [List.append_assoc, List.append_assoc] at heq
      rcases head.unique head' heq (noComparator_links tail rfl) (noComparator_links tail' rfl)
        with ⟨rfl, htail⟩
      have := Many.unique NoComparator (fun rest => rest.head? = some .rightBracket)
        DerivesLink.unique noComparator_links DerivesLink.head?_ne_rightBracket tail tail' htail rfl rfl
      rcases this with ⟨rfl, hrest⟩
      exact ⟨rfl, List.tail_eq_of_cons_eq hrest⟩

theorem DerivesBracketed.unique {kinds kinds' rest rest' : List TokenKind} {a b : Filter}
    (h : DerivesBracketed kinds a) (h' : DerivesBracketed kinds' b)
    (heq : kinds ++ rest = kinds' ++ rest') : a = b ∧ rest = rest' := by
  cases h with
  | brackets inner =>
    cases h' with
    | brackets inner' =>
      apply inner.unique inner'
      simpa using heq

theorem DerivesKey.unique {kinds kinds' rest rest' : List TokenKind} {a b : String}
    (h : DerivesKey kinds a) (h' : DerivesKey kinds' b)
    (heq : kinds ++ rest = kinds' ++ rest') : a = b ∧ rest = rest' := by
  cases h
  cases h'
  cases heq
  exact ⟨rfl, rfl⟩

theorem head?_brackets_ne_dot {kinds : List TokenKind} {filters : List Filter}
    (h : Many DerivesBracketed kinds filters) : kinds.head? ≠ some .dot := by
  cases h with
  | nil => simp
  | cons head tail =>
    cases head
    simp

theorem DerivesMark.unique {kinds kinds' rest rest' : List TokenKind} {a b : Bool}
    {first first' : String} (h : DerivesMark kinds a) (h' : DerivesMark kinds' b)
    (heq : kinds ++ .text first :: rest = kinds' ++ .text first' :: rest') :
    a = b ∧ first = first' ∧ rest = rest' := by
  cases h <;> cases h' <;> cases heq <;> exact ⟨rfl, rfl, rfl⟩

theorem DerivesPath.unique {kinds : List TokenKind} {a b : Path} (h : DerivesPath kinds a)
    (h' : DerivesPath kinds b) : a = b := by
  generalize hkinds : kinds = kinds' at h'
  cases h with
  | path mark first keys brackets =>
    cases h' with
    | path mark' first' keys' brackets' =>
      rcases mark.unique mark' hkinds with ⟨rfl, rfl, hrest⟩
      have hkeys := Many.unique (fun _ => True) (fun rest => rest.head? ≠ some .dot)
        (fun h h' heq _ _ => DerivesKey.unique h h' heq) (fun _ _ => trivial)
        (fun h => by cases h; simp) keys keys' hrest
        (head?_brackets_ne_dot brackets) (head?_brackets_ne_dot brackets')
      rcases hkeys with ⟨rfl, rfl⟩
      have hfilters := Many.unique (fun _ => True) (fun rest => rest = [])
        (fun h h' heq _ _ => DerivesBracketed.unique h h' heq) (fun _ _ => trivial)
        (fun h => by cases h; simp) brackets brackets' rfl rfl rfl
      rcases hfilters with ⟨rfl, -⟩
      rfl

end Grammar
end DotPath
