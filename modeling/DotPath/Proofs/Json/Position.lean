import DotPath.Json.Basic

/-!
This module contains positions in JSON values. A position is a list of hops from a value to one of its
members or elements. One position stands before another if the two part at an array, where the one
goes to an earlier element than the other; so neither of them lies within the other.
-/

namespace DotPath

inductive Hop where
  | member (key : String)
  | element (index : Nat)

abbrev Position := List Hop

namespace Json

def child? (json : Json) (hop : Hop) : Option Json :=
  match json, hop with
  | .object members, .member key => Keyed.find? key members
  | .array elements, .element index => elements[index]?
  | _, _ => none

/-- The value at `position` of `json`, if there is one. -/
def at? (json : Json) (position : Position) : Option Json :=
  match position with
  | [] => some json
  | hop :: rest => (json.child? hop).bind (·.at? rest)

theorem at?_append (json : Json) (p q : Position) :
    json.at? (p ++ q) = (json.at? p).bind (·.at? q) := by
  induction p generalizing json with
  | nil => rfl
  | cons hop p ih =>
    rw [List.cons_append, at?, at?, Option.bind_assoc]
    congr 1
    funext child
    apply ih

theorem at?_of_at? {json value : Json} {p : Position} (h : json.at? p = some value) (q : Position) :
    json.at? (p ++ q) = value.at? q := by
  rw [at?_append, h, Option.bind_some]

theorem at?_singleton (json : Json) (hop : Hop) : json.at? [hop] = json.child? hop := by
  rw [at?]
  cases json.child? hop <;> rfl

end Json

namespace Position

/-- `p` and `q` first differ at an index, and that of `p` is the smaller one. -/
def Before (p q : Position) : Prop :=
  ∃ common i j p' q', p = common ++ .element i :: p' ∧ q = common ++ .element j :: q' ∧ i < j

namespace Before

variable {p q : Position}

theorem ne (h : Before p q) : p ≠ q := by
  rcases h with ⟨common, i, j, p', q', rfl, rfl, hlt⟩
  intro heq
  have hindex := List.append_cancel_left heq
  injection hindex with hindex
  injection hindex with hindex
  omega

theorem not_prefix (h : Before p q) : ¬ p <+: q ∧ ¬ q <+: p := by
  rcases h with ⟨common, i, j, p', q', rfl, rfl, hlt⟩
  simp only [List.prefix_append_right_inj, List.cons_prefix_cons, Hop.element.injEq]
  omega

theorem within (h : Before p q) {p' q' : Position} (hp : p <+: p') (hq : q <+: q') : Before p' q' := by
  rcases h with ⟨common, i, j, restp, restq, rfl, rfl, hlt⟩
  rcases hp with ⟨innerp, rfl⟩
  rcases hq with ⟨innerq, rfl⟩
  refine ⟨common, i, j, restp ++ innerp, restq ++ innerq, ?_, ?_, hlt⟩
  · rw [List.append_assoc, List.cons_append]
  · rw [List.append_assoc, List.cons_append]

theorem below (h : Before p q) (above : Position) : Before (above ++ p) (above ++ q) := by
  rcases h with ⟨common, i, j, p', q', rfl, rfl, hlt⟩
  exact ⟨above ++ common, i, j, p', q', by rw [List.append_assoc], by rw [List.append_assoc], hlt⟩

end Before

end Position

/-- The values stand at the positions in `root`, and every position is before all that follow it. -/
structure Placed (root : Json) (positions : List Position) (values : List Json) : Prop where
  at? : positions.map root.at? = values.map some
  before : positions.Pairwise Position.Before

namespace Placed

variable {root value : Json} {positions : List Position} {values : List Json}

theorem nil : Placed root [] [] :=
  ⟨rfl, .nil⟩

theorem single {p : Position} (h : root.at? p = some value) : Placed root [p] [value] := by
  constructor
  · rw [List.map_singleton, h]
    rfl
  · apply List.pairwise_singleton

theorem elements (values : List Json) :
    Placed (.array values) ((List.range values.length).map fun i => [.element i]) values := by
  constructor
  · apply List.ext_getElem
    · simp only [List.length_map, List.length_range]
    · intro i hi hi'
      simp only [List.getElem_map, List.getElem_range, Json.at?_singleton, Json.child?]
      apply List.getElem?_eq_getElem
  · rw [List.pairwise_map]
    apply List.pairwise_lt_range.imp
    intro i j hlt
    exact ⟨[], i, j, [], [], rfl, rfl, hlt⟩

theorem cons_iff {p : Position} :
    Placed root (p :: positions) (value :: values)
      ↔ root.at? p = some value ∧ (∀ q ∈ positions, p.Before q) ∧ Placed root positions values := by
  constructor
  · intro ⟨hat, hbefore⟩
    rw [List.map_cons, List.map_cons, List.cons.injEq] at hat
    rw [List.pairwise_cons] at hbefore
    exact ⟨hat.1, hbefore.1, hat.2, hbefore.2⟩
  · intro ⟨hhead, hbefore, htail⟩
    constructor
    · rw [List.map_cons, List.map_cons, hhead, htail.at?]
    · exact .cons hbefore htail.before

theorem append {others : List Position} {more : List Json} (h : Placed root positions values)
    (hmore : Placed root others more) (hbefore : ∀ p ∈ positions, ∀ q ∈ others, p.Before q) :
    Placed root (positions ++ others) (values ++ more) := by
  constructor
  · rw [List.map_append, List.map_append, h.at?, hmore.at?]
  · rw [List.pairwise_append]
    exact ⟨h.before, hmore.before, hbefore⟩

theorem below {p : Position} (hp : root.at? p = some value) (h : Placed value positions values) :
    Placed root (positions.map (p ++ ·)) values := by
  constructor
  · rw [List.map_map, ← h.at?]
    apply List.map_congr_left
    intro q _
    exact Json.at?_of_at? hp q
  · rw [List.pairwise_map]
    apply h.before.imp
    intro q r hbefore
    exact hbefore.below p

theorem sublist {fewer : List Json} (h : Placed root positions values) (hfewer : fewer.Sublist values) :
    ∃ kept, Placed root kept fewer := by
  have hmap : (fewer.map some).Sublist (positions.map root.at?) := by
    rw [h.at?]
    exact hfewer.map some
  rcases List.sublist_map_iff.mp hmap with ⟨kept, hkept, hat⟩
  exact ⟨kept, hat.symm, h.before.sublist hkept⟩

end Placed

end DotPath
