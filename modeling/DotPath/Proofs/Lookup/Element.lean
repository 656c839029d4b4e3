import DotPath.Proofs.Lookup.Ending
import DotPath.Proofs.Path.Narrowing

/-!
This module contains lookups by position. A number in brackets picks one of the items that the path in
front of it leads to, as they are counted there, or none of them if there are not so many.
-/

namespace DotPath

namespace Filter

/-- The filter that accepts the item at the position `n`. -/
def element (n : Nat) : Filter :=
  .comparison (.position (.integer (Int64.ofNat n)))

variable {n : Nat}

theorem toInt_ofNat_nonneg (hn : n < 2 ^ 63) : 0 ≤ (Int64.ofNat n).toInt := by
  rw [Int64.toInt_ofNat_of_lt hn]
  omega

theorem wellShaped_element (hn : n < 2 ^ 63) : (element n).WellShaped := by
  constructor
  · exact toInt_ofNat_nonneg hn
  · simp [Comparison.position]
  · simp [Comparison.position]
  · simp [Comparison.position]

theorem print_element (hn : n < 2 ^ 63) : (element n).print = toString n := by
  show toString (Int64.ofNat n).toInt = toString n
  rw [Int64.toInt_ofNat_of_lt hn]
  rfl

theorem eval_element (hn : n < 2 ^ 63) (index : Nat) (item : Json) :
    (element n).eval index item = .ok (decide (index = n)) := by
  show Except.ok (decide ((index : Int) = (Int64.ofNat n).toInt)) = _
  rw [Int64.toInt_ofNat_of_lt hn]
  simp only [Int.natCast_inj]

theorem survivors_element_of_lt (hn : n < 2 ^ 63) {index : Nat} (h : n < index) (items : List Json) :
    (element n).survivors index items = .ok [] := by
  induction items generalizing index with
  | nil => rfl
  | cons item rest ih =>
    rw [survivors, eval_element hn, decide_eq_false (by omega), ih (by omega)]
    rfl

theorem survivors_element (index place : Nat) (hn : index + place < 2 ^ 63) (items : List Json) :
    (element (index + place)).survivors index items = .ok items[place]?.toList := by
  induction items generalizing index place with
  | nil => rfl
  | cons item rest ih =>
    rw [survivors, eval_element hn]
    cases place with
    | zero =>
      rw [decide_eq_true (by omega), survivors_element_of_lt hn (by omega)]
      rfl
    | succ place =>
      have hrest := ih (index + 1) place (by omega)
      rw [Nat.add_assoc, Nat.add_comm 1] at hrest
      rw [decide_eq_false (by omega), hrest]
      rfl

end Filter

/-- The text of a position in brackets. -/
def Text.bracketed (n : Nat) : String :=
  "[" ++ toString n ++ "]"

theorem Text.toList_bracketed (n : Nat) :
    (bracketed n).toList = '[' :: (Nat.toDigits 10 n ++ [']']) := by
  rw [bracketed, String.toList_append, String.toList_append]
  show '[' :: ((Nat.repr n).toList ++ [']']) = _
  rw [Nat.toList_repr]

namespace Path

variable {q : String} {path : Path} {n : Nat} {root : Json}

theorem parse_bracketed (hq : parse q = .ok path) (hn : n < 2 ^ 63) :
    parse (q ++ Text.bracketed n) = .ok (path.narrow (.element n)) := by
  have hnarrow := parse_narrow hq (Filter.wellShaped_element hn)
  rwa [Filter.print_element hn] at hnarrow

/-- Numbers that do not fit are no positions. -/
theorem lt_of_parse_bracketed {other : Path} (hq : parse q = .ok path)
    (h : parse (q ++ Text.bracketed n) = .ok other) : n < 2 ^ 63 := by
  rw [parse_eq_ok_iff_lexes] at hq h
  rcases hq with ⟨kinds, -, hlexes⟩
  rcases h with ⟨all, -, hall⟩
  rw [String.toList_append, Text.toList_bracketed] at hall
  rcases hlexes.exists_of_append (by rintro _ ⟨⟩; rfl) (by simp) hall with ⟨rest, -, hrest⟩
  rcases hrest.exists_of_cons rfl with ⟨cs, behind, kind, others, hbehind, hscan, -, hdigits⟩
  cases hscan
  rw [List.nil_append] at hbehind
  rw [← hbehind] at hdigits
  exact hdigits.lt_of_toDigits (by rintro _ ⟨⟩; rfl)

theorem eval_element (path : Path) (hn : n < 2 ^ 63) (root : Json) :
    (path.narrow (.element n)).eval root
      = (path.eval root).map fun found => .many found.items[n]?.toList := by
  have hsurvivors (items : List Json) :
      (Filter.element n).survivors 0 items = .ok items[n]?.toList := by
    have h := Filter.survivors_element 0 n (by omega) items
    rwa [Nat.zero_add] at h
  rw [eval_narrow]
  simp only [hsurvivors]
  rfl

theorem evalOne_element_ne_multipleResults (path : Path) (hn : n < 2 ^ 63) (root : Json)
    (shown : String) (count : Nat) :
    (path.narrow (.element n)).evalOne root ≠ .error (.multipleResults shown count) := by
  intro h
  rcases several_of_evalOne h with ⟨found, hfound, hlength⟩
  rw [eval_element path hn, map_eq_ok_iff] at hfound
  rcases hfound with ⟨before, -, rfl⟩
  have hle := Option.length_toList_le (o := before.items[n]?)
  simp only [Matches.values] at hlength
  omega

end Path

namespace Json

/-- The query leads to something: neither does it fail, nor do its filters leave nothing. -/
def Finds (root : Json) (query : String) : Prop :=
  ∃ found, root.lookup query = .ok found ∧ found.values ≠ []

variable {q : String} {path : Path} {n : Nat}

theorem lookup_of_parse (hparse : Path.parse q = .ok path) (root : Json) :
    root.lookup q = path.eval root := by
  rw [lookup, hparse]
  rfl

theorem lt_length_toList_iff {items : List Json} {place : Nat} :
    place < items[n]?.toList.length ↔ n < items.length ∧ place = 0 := by
  cases hitem : items[n]? with
  | none =>
    rw [List.getElem?_eq_none_iff] at hitem
    simp only [Option.toList_none, List.length_nil]
    omega
  | some item =>
    have hlength := (List.getElem?_eq_some_iff.mp hitem).1
    simp only [Option.toList_some, List.length_singleton]
    omega

theorem lookup_bracketed (hq : Path.parse q = .ok path) (hn : n < 2 ^ 63) (root : Json) :
    root.lookup (q ++ Text.bracketed n)
      = (root.lookup q).map fun found => .many found.items[n]?.toList := by
  rw [lookup_of_parse (Path.parse_bracketed hq hn), lookup_of_parse hq, Path.eval_element path hn]

theorem finds_bracketed_iff (hq : Path.parse q = .ok path) (hn : n < 2 ^ 63) (root : Json) :
    root.Finds (q ++ Text.bracketed n) ↔
      ∃ found, root.lookup q = .ok found ∧ n < found.items.length := by
  unfold Finds
  simp only [lookup_bracketed hq hn, map_eq_ok_iff]
  constructor
  · rintro ⟨_, ⟨found, hfound, rfl⟩, hvalues⟩
    refine ⟨found, hfound, ?_⟩
    simpa [Matches.values] using hvalues
  · rintro ⟨found, hfound, hlength⟩
    refine ⟨_, ⟨found, hfound, rfl⟩, ?_⟩
    simpa [Matches.values] using hlength

theorem exists_parse_of_finds (root : Json) (h : root.Finds q) : ∃ path, Path.parse q = .ok path := by
  rcases h with ⟨found, hfound, -⟩
  rw [lookup, bind_eq_ok_iff] at hfound
  rcases hfound with ⟨path, hparse, -⟩
  exact ⟨path, hparse⟩

theorem finds_bracketed_twice_iff (hq : Path.parse q = .ok path) (hn : n < 2 ^ 63) (root : Json)
    (m : Nat) : root.Finds (q ++ Text.bracketed n ++ Text.bracketed m) ↔
      root.Finds (q ++ Text.bracketed n) ∧ m = 0 := by
  have hparse := Path.parse_bracketed hq hn
  rcases Nat.lt_or_ge m (2 ^ 63) with hm | hm
  · -- What the first position leaves is a sequence of one item at most, counted from zero again.
    rw [finds_bracketed_iff hparse hm, finds_bracketed_iff hq hn, lookup_bracketed hq hn]
    simp only [map_eq_ok_iff]
    constructor
    · rintro ⟨_, ⟨found, hfound, rfl⟩, hlength⟩
      rcases lt_length_toList_iff.mp hlength with ⟨hplace, rfl⟩
      exact ⟨⟨found, hfound, hplace⟩, rfl⟩
    · rintro ⟨⟨found, hfound, hplace⟩, rfl⟩
      exact ⟨_, ⟨found, hfound, rfl⟩, lt_length_toList_iff.mpr ⟨hplace, rfl⟩⟩
  · constructor
    · intro hfinds
      rcases exists_parse_of_finds root hfinds with ⟨other, hother⟩
      have := Path.lt_of_parse_bracketed hparse hother
      omega
    · rintro ⟨-, rfl⟩
      omega

/--
A number in brackets picks one of the items that the query in front of it leads to, at this position among
them, or none if there are not so many; and the failure of that query stays what it is. So a lookup of one
value never finds too many there, and behind one number only zero picks anything.
-/
theorem lookup_element (hq : Path.parse q = .ok path) (hn : n < 2 ^ 63) (root : Json) :
    (∃ other, Path.parse (q ++ Text.bracketed n) = .ok other)
      ∧ (∀ found, root.lookup q = .ok found →
          ((∃ value, found = .one value) ↔ path.filters = [])
            ∧ (∀ h : n < found.items.length,
                root.lookup (q ++ Text.bracketed n) = .ok (.many [found.items[n]]))
            ∧ (found.items.length ≤ n → root.lookup (q ++ Text.bracketed n) = .ok (.many [])))
      ∧ (∀ failure, root.lookup q = .error failure →
          root.lookup (q ++ Text.bracketed n) = .error failure)
      ∧ (∀ shown count,
          root.lookupOne (q ++ Text.bracketed n) ≠ .error (.multipleResults shown count))
      ∧ ∀ m, root.Finds (q ++ Text.bracketed n ++ Text.bracketed m) ↔
          root.Finds (q ++ Text.bracketed n) ∧ m = 0 := by
  have hparse := Path.parse_bracketed hq hn
  have hlookup := lookup_bracketed hq hn root
  refine ⟨⟨_, hparse⟩, ?_, ?_, ?_, finds_bracketed_twice_iff hq hn root⟩
  · intro found hfound
    rw [hfound] at hlookup
    refine ⟨?_, ?_, ?_⟩
    · rw [lookup_of_parse hq] at hfound
      exact Path.exists_one_iff hfound
    · intro h
      rw [hlookup, Except.map, List.getElem?_eq_getElem h]
      rfl
    · intro h
      rw [hlookup, Except.map, List.getElem?_eq_none h]
      rfl
  · intro failure hfailure
    rw [hlookup, hfailure]
    rfl
  · intro shown count
    rw [lookupOne_of_parse hparse]
    exact path.evalOne_element_ne_multipleResults hn root shown count

/--
The third item is the second one that the filter leaves. Of this one item a second position leaves nothing.
A value that is no array stands at position zero.
-/
theorem lookup_element_behind_filter :
    let item (n : Int64) := Json.object [("k", .ofInt64 n)]
    let root := Json.object [("a", .array [item 1, item 2, item 3]), ("b", .bool true)]
    (∃ path, Path.parse "a[k>1]" = .ok path)
      ∧ root.lookup "a[k>1][1]" = .ok (.many [item 3])
      ∧ root.Finds "a[k>1][1][0]"
      ∧ ¬ root.Finds "a[k>1][1][1]"
      ∧ root.lookup "b[0]" = .ok (.many [.bool true])
      ∧ root.lookup "b[1]" = .ok (.many []) := by
  intro item root
  have hparse : Path.parse "a[k>1]"
      = .ok (.first ⟨"a", false, [.comparison ⟨some .gt, .text "k", some (.integer 1)⟩]⟩) := by
    decide +kernel
  have hplain : Path.parse "b" = .ok (.first ⟨"b", false, []⟩) := by
    decide +kernel
  have hfound : root.lookup "a[k>1]" = .ok (.many [item 2, item 3]) := by
    rw [lookup_of_parse hparse]
    rfl
  have hvalue : root.lookup "b" = .ok (.one (.bool true)) := by
    rw [lookup_of_parse hplain]
    rfl
  rcases lookup_element hparse (n := 1) (by decide) root with ⟨-, hitems, -, -, hagain⟩
  rcases hitems _ hfound with ⟨-, hpicked, -⟩
  have hthird : root.lookup "a[k>1][1]" = .ok (.many [item 3]) := hpicked (by decide)
  refine ⟨⟨_, hparse⟩, hthird, ?_, ?_, ?_, ?_⟩
  · apply (hagain 0).mpr
    exact ⟨⟨_, hthird, by simp [Matches.values]⟩, rfl⟩
  · intro hfinds
    have hnone := (hagain 1).mp hfinds
    cases hnone.2
  · rcases (lookup_element hplain (n := 0) (by decide) root).2.1 _ hvalue with ⟨-, hpicked, -⟩
    exact hpicked (by decide)
  · rcases (lookup_element hplain (n := 1) (by decide) root).2.1 _ hvalue with ⟨-, -, hbeyond⟩
    exact hbeyond (by decide)

end Json

end DotPath
