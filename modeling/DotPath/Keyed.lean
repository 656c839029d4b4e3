/-!
This module contains lists of pairs that are looked up by a text key. There are two ways to give a
key its value: `insert` keeps ascending keys ascending, and `put` appends keys that are new.
-/

namespace DotPath.Keyed

variable {α : Type}

def find? (key : String) (pairs : List (String × α)) : Option α :=
  match pairs with
  | [] => none
  | (k, value) :: rest => if k = key then some value else find? key rest

/-- The pairs with one more at its place among ascending keys, or instead of the one with its key. -/
def insert (key : String) (value : α) (pairs : List (String × α)) : List (String × α) :=
  match pairs with
  | [] => [(key, value)]
  | (k, v) :: rest =>
    if key < k then
      (key, value) :: (k, v) :: rest
    else if k = key then
      (key, value) :: rest
    else
      (k, v) :: insert key value rest

/-- The pairs with one more at their end, or instead of the one with its key. -/
def put (key : String) (value : α) (pairs : List (String × α)) : List (String × α) :=
  match pairs with
  | [] => [(key, value)]
  | (k, v) :: rest => if k = key then (key, value) :: rest else (k, v) :: put key value rest

/-- The pairs in ascending order of their keys; of several with one key the last stays. -/
def ofList (pairs : List (String × α)) : List (String × α) :=
  pairs.foldl (fun sorted (key, value) => insert key value sorted) []

theorem find?_cons (key k : String) (value : α) (rest : List (String × α)) :
    find? key ((k, value) :: rest) = if k = key then some value else find? key rest := rfl

theorem find?_put (key other : String) (value : α) (pairs : List (String × α)) :
    find? other (put key value pairs) =
      if key = other then some value else find? other pairs := by
  induction pairs with
  | nil => simp [put, find?_cons]
  | cons head rest ih =>
    obtain ⟨k, v⟩ := head
    unfold put
    split
    · next heq =>
      subst heq
      simp only [find?_cons]
      split <;> rfl
    · next hne =>
      simp only [find?_cons, ih]
      split
      · next heq => rw [if_neg (fun h => hne (heq.trans h.symm))]
      · rfl

end DotPath.Keyed
