/-!
Sets of characters given by ascending lists of code point ranges, as the tables of the Unicode
character database are.
-/

namespace DotPath.Text

structure Range where
  first : Nat
  last : Nat
  deriving DecidableEq, Repr

namespace Range

/--
Whether `n` lies in one of `ranges`. The ranges ascend, so the search ends with the first one that
begins beyond `n`.
-/
def search (n : Nat) (ranges : List Range) : Bool :=
  match ranges with
  | [] => false
  | range :: rest => range.first ≤ n && (n ≤ range.last || search n rest)

theorem exists_mem_of_search {n : Nat} {ranges : List Range} (h : search n ranges = true) :
    ∃ range ∈ ranges, range.first ≤ n ∧ n ≤ range.last := by
  induction ranges with
  | nil => simp [search] at h
  | cons range rest ih =>
    simp only [search, Bool.and_eq_true, Bool.or_eq_true, decide_eq_true_eq] at h
    obtain ⟨hfirst, hlast | hrest⟩ := h
    · exact ⟨range, by simp, hfirst, hlast⟩
    · obtain ⟨other, hmem, hother⟩ := ih hrest
      exact ⟨other, by simp [hmem], hother⟩

end Range
end DotPath.Text
