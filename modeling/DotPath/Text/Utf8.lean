/-!
Places in a text counted in the bytes of its UTF-8 form.
-/

namespace DotPath.Text

def byteLength (cs : List Char) : Nat :=
  match cs with
  | [] => 0
  | c :: cs => c.utf8Size + byteLength cs

@[simp]
theorem byteLength_nil : byteLength [] = 0 := rfl

@[simp]
theorem byteLength_cons (c : Char) (cs : List Char) :
    byteLength (c :: cs) = c.utf8Size + byteLength cs := rfl

@[simp]
theorem byteLength_append (xs ys : List Char) :
    byteLength (xs ++ ys) = byteLength xs + byteLength ys := by
  induction xs with
  | nil => simp
  | cons x xs ih => simp [ih, Nat.add_assoc]

@[simp]
theorem byteLength_reverse (cs : List Char) : byteLength cs.reverse = byteLength cs := by
  induction cs with
  | nil => rfl
  | cons c cs ih => simp [ih, Nat.add_comm]

theorem length_le_byteLength (cs : List Char) : cs.length ≤ byteLength cs := by
  induction cs with
  | nil => simp
  | cons c cs ih =>
    have := Char.utf8Size_pos c
    simp
    omega

/--
Cuts `cs` before its first character that begins at byte `offset` or later; the whole of `cs` stands
before an `offset` beyond its end.
-/
def splitAtByte (offset : Nat) (cs : List Char) : List Char × List Char :=
  match cs with
  | [] => ([], [])
  | c :: cs =>
    if offset = 0 then
      ([], c :: cs)
    else
      let (before, rest) := splitAtByte (offset - c.utf8Size) cs
      (c :: before, rest)

theorem splitAtByte_byteLength (xs ys : List Char) :
    splitAtByte (byteLength xs) (xs ++ ys) = (xs, ys) := by
  induction xs with
  | nil => cases ys <;> simp [splitAtByte]
  | cons x xs ih =>
    have := Char.utf8Size_pos x
    simp only [byteLength_cons, List.cons_append, splitAtByte, Nat.add_sub_cancel_left, ih]
    rw [if_neg (by omega)]

end DotPath.Text
