import DotPath.Proofs.Lookup.Element
import DotPath.Proofs.Path.FilterFault

/-!
This module contains the addresses of values. Keys that lead through objects to a value are spelled by a
text, quoted where they are no symbols, and a lookup by this text leads to the value. Only a key with a
quote in it has no such text, since quoted texts have no escapes.
-/

namespace DotPath

/-- The text of the keys, each one bare if it is a symbol and in double quotes if not. -/
def Text.address (keys : List String) : String :=
  ".".intercalate (keys.map fun key =>
    if isSymbol key.toList then key else "\"" ++ key ++ "\"")

namespace Path

open Grammar

variable {first : String} {others : List String} {path : Path} {n : Nat} {root value : Json}

theorem print_extend (path : Path) (others : List String) :
    (path.extend others).print = ".".intercalate (path.print :: others.map Text.spellKey) := by
  induction others generalizing path with
  | nil => rfl
  | cons key others ih =>
    have hchild : (child path ⟨key, false, []⟩).print = path.print ++ "." ++ Text.spellKey key := by
      simp [print, Step.print]
    rw [extend, List.foldl_cons, ← extend, ih, hchild]
    rfl

theorem print_ofKeys : (ofKeys false first others []).print = Text.address (first :: others) := by
  have hfirst : (Path.first ⟨first, false, []⟩).print = Text.spellKey first := by
    simp [print, Step.print]
  have hplain := withFilters_self ((Path.first ⟨first, false, []⟩).extend others)
  rw [filters_extend _ _ rfl] at hplain
  rw [ofKeys_eq_extend, hplain, print_extend, hfirst]
  rfl

theorem keys_ofKeys {marked : Bool} {filters : List Filter} :
    (ofKeys marked first others filters).keys = first :: others := by
  rw [ofKeys_eq_extend, keys_withFilters, keys_extend]
  rfl

theorem wellShaped_ofKeys (hquote : ∀ key ∈ first :: others, '"' ∉ key.toList) :
    (ofKeys false first others []).WellShaped := by
  constructor
  · rwa [keys_ofKeys]
  · rw [ofKeys_eq_extend]
    apply mark_withFilters
    rw [steps_extend]
    simp [steps]
  · rw [ofKeys_eq_extend, steps_withFilters, List.dropLast_concat, steps_extend]
    intro step hstep
    have hmem := List.dropLast_subset _ hstep
    simp only [steps, List.mem_append, List.mem_singleton, List.mem_map] at hmem
    rcases hmem with rfl | ⟨key, -, rfl⟩
    · rfl
    · rfl
  · rw [filters_ofKeys]
    simp

theorem parse_address (hquote : ∀ key ∈ first :: others, '"' ∉ key.toList) :
    parse (Text.address (first :: others)) = .ok (ofKeys false first others []) := by
  have hparse := parse_print (wellShaped_ofKeys hquote)
  rwa [print_ofKeys] at hparse

theorem eval_ofKeys (hat : root.at? ((first :: others).map Hop.member) = some value) :
    (ofKeys false first others []).eval root = .ok (.one value) := by
  have hresolve : (ofKeys false first others []).resolve false root = .ok value := by
    rwa [resolve_eq_ok_iff, keys_ofKeys]
  rw [eval_of_filters_nil filters_ofKeys, isOptional_ofKeys, hresolve]
  rfl

/-- A position behind a required path picks the item that stands there, or it is not found. -/
theorem evalOne_element (heval : path.eval root = .ok (.one value)) (hrequired : path.isOptional = false)
    (hn : n < 2 ^ 63) : (path.narrow (.element n)).evalOne root
      = match value.elements[n]? with
        | some item => .ok item
        | none => .error (.notFound (path.print ++ Text.bracketed n)) := by
  have hfound := eval_element path hn root
  rw [heval] at hfound
  cases hitem : value.elements[n]? with
  | some item =>
    refine evalOne_of_eval_singleton hfound ?_
    show value.elements[n]?.toList = [item]
    rw [hitem]
    rfl
  | none =>
    have hnothing : (path.narrow (.element n)).eval root = .ok (.many []) := by
      rw [hfound]
      show Except.ok (Matches.many value.elements[n]?.toList) = _
      rw [hitem]
      rfl
    rw [evalOne_of_eval_nil hnothing, narrow, isOptional_withFilters, hrequired, ← narrow, print_narrow,
      Filter.print_element hn]
    rfl

theorem filters_of_mem_steps (h : path.WellShaped) {step : Step} (hstep : step ∈ path.steps) :
    ∀ filter ∈ step.filters, filter.WellShaped := by
  rw [← withFilters_self path, steps_withFilters, List.mem_append, List.mem_singleton] at hstep
  rcases hstep with hstep | rfl
  · rw [h.filters step hstep]
    simp
  · exact h.last

end Path

namespace Json

/--
Keys without quotes that lead through objects to a value are spelled by a text that a lookup finds this
value by. A position behind the text picks an element of the value if it is an array, and of any other value
it picks the value itself by zero; otherwise nothing is found. No text spells a path that has a key or the
text of an operand with a quote in it.
-/
theorem lookup_address :
    (∀ (root value : Json) (keys : List String), keys ≠ [] → (∀ key ∈ keys, '"' ∉ key.toList) →
      root.at? (keys.map Hop.member) = some value →
      let query := Text.address keys
      (∃ path, Path.parse query = .ok path ∧ path.keys = keys)
        ∧ root.lookup query = .ok (.one value)
        ∧ ∀ n < 2 ^ 63,
          let found := root.lookupOne (query ++ Text.bracketed n)
          let nothing := Except.error (Failure.notFound (query ++ Text.bracketed n))
          (∀ elements, value = .array elements →
              (∀ h : n < elements.length, found = .ok elements[n])
                ∧ (elements.length ≤ n → found = nothing))
            ∧ ((∀ elements, value ≠ .array elements) → found = if n = 0 then .ok value else nothing))
      ∧ ∀ text path, Path.parse text = .ok path →
        (∀ key ∈ path.keys, '"' ∉ key.toList)
          ∧ ∀ step ∈ path.steps, ∀ filter ∈ step.filters, ∀ comparison ∈ filter.comparisons, ∀ s,
            comparison.left = .text s ∨ comparison.right = some (.text s) → '"' ∉ s.toList := by
  constructor
  · intro root value keys hkeys hquote hat query
    cases keys with
    | nil => exact absurd rfl hkeys
    | cons first others =>
      have hparse : Path.parse query = .ok _ := Path.parse_address hquote
      have heval := Path.eval_ofKeys hat
      refine ⟨⟨_, hparse, Path.keys_ofKeys⟩, ?_, ?_⟩
      · rw [lookup_of_parse hparse, heval]
      intro n hn found nothing
      have hfound : found = match value.elements[n]? with
          | some item => .ok item
          | none => nothing := by
        have hone := Path.evalOne_element heval Path.isOptional_ofKeys hn
        rw [Path.print_ofKeys] at hone
        rw [← hone]
        exact lookupOne_of_parse (Path.parse_bracketed hparse hn) root
      rw [hfound]
      constructor
      · rintro elements rfl
        constructor
        · intro h
          rw [Json.elements, List.getElem?_eq_getElem h]
        · intro h
          rw [Json.elements, List.getElem?_eq_none h]
      · intro harray
        have hitems : value.elements = [value] := by
          cases value with
          | array elements => exact absurd rfl (harray elements)
          | _ => rfl
        rw [hitems]
        cases n <;> rfl
  · intro text path hparse
    have hshaped := Path.wellShaped_of_parse hparse
    refine ⟨hshaped.keys, ?_⟩
    intro step hstep filter hfilter comparison hcomparison s hs
    have hcompared :=
      (Path.filters_of_mem_steps hshaped hstep filter hfilter).comparisons comparison hcomparison
    rcases hs with hleft | hright
    · have hspellable := hcompared.left
      rwa [hleft] at hspellable
    · exact hcompared.right _ hright

/-- A symbol, an empty key, a dotted one and one with a bracket, a blank and a backslash. -/
theorem lookup_address_of_odd_keys :
    let keys := ["k_1", "", "a.b", "] \\"]
    let value := Json.array [.null, .bool true]
    let root := Json.object [("k_1", .object [("", .object [("a.b", .object [("] \\", value)])])])]
    Text.address keys = "k_1.\"\".\"a.b\".\"] \\\""
      ∧ root.lookup (Text.address keys) = .ok (.one value)
      ∧ root.lookupOne (Text.address keys ++ Text.bracketed 1) = .ok (.bool true)
      ∧ ∀ text path, Path.parse text = .ok path → "\"" ∉ path.keys := by
  intro keys value root
  have haddress : Text.address keys = "k_1.\"\".\"a.b\".\"] \\\"" := by
    decide +kernel
  rcases lookup_address.1 root value keys (by decide) (by decide) rfl with ⟨-, hvalue, helements⟩
  refine ⟨haddress, hvalue, ?_, ?_⟩
  · exact ((helements 1 (by decide)).1 _ rfl).1 (by decide)
  · intro text path hparse hmem
    exact (lookup_address.2 text path hparse).1 "\"" hmem (by decide)

end Json

end DotPath
