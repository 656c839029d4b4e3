import DotPath.Proofs.Path.Grammar
import DotPath.Proofs.Token.Spelling

/-!
This module contains the grammar of queries as a finite automaton over token kinds. Its states are what
a query can have in front of a token. From each of them a query can be completed, and with a text that
can be put behind any other.
-/

namespace DotPath.Grammar

inductive State where
  | start
  | marked
  | key
  | dot
  | opening
  | field
  | comparator
  | operand
  | closing
  deriving DecidableEq

namespace State

def next? (state : State) (kind : TokenKind) : Option State :=
  match state, kind with
  | .start, .question => some .marked
  | .start, .text _ => some .key
  | .marked, .text _ => some .key
  | .key, .dot => some .dot
  | .key, .leftBracket => some .opening
  | .dot, .text _ => some .key
  | .opening, .text _ => some .field
  | .opening, .integer _ => some .operand
  | .field, .comparator _ => some .comparator
  | .field, .and => some .opening
  | .field, .or => some .opening
  | .field, .rightBracket => some .closing
  | .comparator, .text _ => some .operand
  | .comparator, .integer _ => some .operand
  | .operand, .and => some .opening
  | .operand, .or => some .opening
  | .operand, .rightBracket => some .closing
  | .closing, .leftBracket => some .opening
  | _, _ => none

/-- The state behind an operand that begins a comparison. -/
def ofLeft (operand : Operand) : State :=
  match operand with
  | .text _ => .field
  | .integer _ => .operand

def run? (state : State) (kinds : List TokenKind) : Option State :=
  kinds.foldlM next? state

def isFinal (state : State) : Bool :=
  match state with
  | .key => true
  | .closing => true
  | _ => false

/-- The tokens of a whole query lead from `state` to its end. -/
def Accepts (state : State) (kinds : List TokenKind) : Prop :=
  ∃ final, state.run? kinds = some final ∧ final.isFinal = true

def completion (state : State) : String :=
  match state with
  | .start => " a"
  | .marked => " a"
  | .key => ""
  | .dot => " a"
  | .opening => " 0]"
  | .field => " ]"
  | .comparator => " 0]"
  | .operand => " ]"
  | .closing => ""

variable {state reached : State} {kind : TokenKind} {kinds rest : List TokenKind}

@[simp]
theorem run?_nil (state : State) : state.run? [] = some state := rfl

@[simp]
theorem run?_cons (state : State) (kind : TokenKind) (kinds : List TokenKind) :
    state.run? (kind :: kinds) = (state.next? kind).bind (·.run? kinds) := rfl

@[simp]
theorem run?_singleton (state : State) (kind : TokenKind) : state.run? [kind] = state.next? kind := by
  rw [run?_cons]
  cases state.next? kind <;> rfl

theorem run?_append (state : State) (kinds rest : List TokenKind) :
    state.run? (kinds ++ rest) = (state.run? kinds).bind (·.run? rest) :=
  List.foldlM_append

theorem run?_snoc (h : state.run? kinds = some reached) (kind : TokenKind) :
    state.run? (kinds ++ [kind]) = reached.next? kind := by
  rw [run?_append, h, Option.bind_some, run?_singleton]

theorem mem_of_next?_eq_opening (h : state.next? kind = some .opening) :
    kind ∈ [.leftBracket, .and, .or] := by
  cases state <;> cases kind <;> first | decide | cases h

theorem accepts_append_iff (h : state.run? kinds = some reached) :
    state.Accepts (kinds ++ rest) ↔ reached.Accepts rest := by
  rw [Accepts, Accepts, run?_append, h, Option.bind_some]

theorem accepts_nil_iff : state.Accepts [] ↔ state.isFinal = true := by
  simp [Accepts]

theorem not_accepts_cons (h : state.next? kind = none) : ¬ state.Accepts (kind :: rest) := by
  simp [Accepts, h]

theorem Accepts.exists_run? (h : state.Accepts (kinds ++ rest)) :
    ∃ reached, state.run? kinds = some reached := by
  rcases h with ⟨final, hrun, -⟩
  rw [run?_append, Option.bind_eq_some_iff] at hrun
  rcases hrun with ⟨reached, hreached, -⟩
  exact ⟨reached, hreached⟩

@[simp]
theorem isFinal_ofLeft (operand : Operand) : (ofLeft operand).isFinal = false := by
  cases operand <;> rfl

/-- A field that no comparator follows goes on as an operand does. -/
theorem next?_ofLeft (operand : Operand) (h : kind.comparator? = none) :
    (ofLeft operand).next? kind = State.operand.next? kind := by
  cases operand with
  | text name => cases kind <;> first | rfl | cases h
  | integer n => rfl

theorem lexes_blank_key : Lexes " a".toList [.text "a"] := by
  have hkey : Lexes ("a".toList ++ []) [.text "a"] :=
    .symbol rfl .nil (by simp [Lexeme.Apart])
  exact .blank rfl hkey

theorem lexes_blank_bracket : Lexes " ]".toList [.rightBracket] :=
  .blank rfl (.single ']' .rightBracket rfl (fun _ => rfl) .nil)

theorem lexes_blank_position : Lexes " 0]".toList [.integer 0, .rightBracket] := by
  have hbracket : Lexes [']'] [.rightBracket] := .single ']' .rightBracket rfl (fun _ => rfl) .nil
  have hapart : Lexeme.Apart [']'] := by
    rintro c ⟨⟩
    rfl
  exact .blank rfl (.integer (n := 0) (by decide) hbracket hapart)

/-- A query that has led to `state` can be completed. -/
theorem lexes_completion (state : State) :
    ∃ kinds, Lexes state.completion.toList kinds ∧ state.Accepts kinds := by
  cases state with
  | start => exact ⟨_, lexes_blank_key, .key, rfl, rfl⟩
  | marked => exact ⟨_, lexes_blank_key, .key, rfl, rfl⟩
  | key => exact ⟨_, .nil, .key, rfl, rfl⟩
  | dot => exact ⟨_, lexes_blank_key, .key, rfl, rfl⟩
  | opening => exact ⟨_, lexes_blank_position, .closing, rfl, rfl⟩
  | field => exact ⟨_, lexes_blank_bracket, .closing, rfl, rfl⟩
  | comparator => exact ⟨_, lexes_blank_position, .closing, rfl, rfl⟩
  | operand => exact ⟨_, lexes_blank_bracket, .closing, rfl, rfl⟩
  | closing => exact ⟨_, .nil, .closing, rfl, rfl⟩

theorem completion_apart (state : State) :
    Lexeme.Apart state.completion.toList ∧ state.completion.toList.head? ≠ some '=' := by
  cases state <;> simp [completion, Lexeme.Apart] <;> decide

end State
end DotPath.Grammar
