import DotPath.Json.Number

/-!
Numerals: the texts of JSON numbers.

A numeral without fraction and exponent is an integer wherever that fits 64 bits. Everything else,
minus zero included, is a double. Its significand is made of as many digits as fit 64 bits: each
digit of the whole part that no longer fits counts as a factor of ten, and the digits of the fraction
from the first that no longer fits on are left out. The double nearest to the significand is then
multiplied or divided by a power of ten, rounding once more.
-/

namespace DotPath

structure Numeral where
  negative : Bool
  whole : List Nat
  fraction : Option (List Nat)
  exponent : Option Int
  deriving DecidableEq, Repr

namespace Numeral

def digits? (cs : List Char) : Option (List Nat × List Char) :=
  match cs.takeWhile Char.isDigit with
  | [] => none
  | ds => some (ds.map fun c => c.toNat - '0'.toNat, cs.dropWhile Char.isDigit)

def minus (cs : List Char) : Bool × List Char :=
  match cs with
  | '-' :: rest => (true, rest)
  | cs => (false, cs)

def sign (cs : List Char) : Bool × List Char :=
  match cs with
  | '+' :: rest => (false, rest)
  | cs => minus cs

def whole? (cs : List Char) : Option (List Nat × List Char) :=
  match digits? cs with
  | some (0 :: _ :: _, _) => none
  | result => result

def fraction? (cs : List Char) : Option (Option (List Nat) × List Char) :=
  match cs with
  | '.' :: rest => (digits? rest).map fun (ds, rest) => (some ds, rest)
  | cs => some (none, cs)

def ofDigits (ds : List Nat) : Nat :=
  ds.foldl (fun n d => n * 10 + d) 0

def exponent? (cs : List Char) : Option (Option Int × List Char) :=
  match cs with
  | [] => some (none, [])
  | c :: rest =>
    if c = 'e' ∨ c = 'E' then
      (digits? (sign rest).2).map fun (ds, rest') =>
        (some (if (sign rest).1 then -ofDigits ds else ofDigits ds), rest')
    else
      some (none, c :: rest)

def scan? (cs : List Char) : Option (Numeral × List Char) := do
  let (negative, cs) := minus cs
  let (whole, cs) ← whole? cs
  let (fraction, cs) ← fraction? cs
  let (exponent, cs) ← exponent? cs
  return (⟨negative, whole, fraction, exponent⟩, cs)

theorem length_lt_of_digits? {cs rest : List Char} {ds : List Nat}
    (h : digits? cs = some (ds, rest)) : rest.length < cs.length := by
  unfold digits? at h
  split at h
  · contradiction
  · next run hrun =>
    have hpos := List.length_pos_iff.2 hrun
    have hsplit := congrArg List.length
      (List.takeWhile_append_dropWhile (p := Char.isDigit) (l := cs))
    simp only [Option.some.injEq, Prod.mk.injEq] at h
    rw [List.length_append, h.2] at hsplit
    omega

theorem length_minus_le (cs : List Char) : (minus cs).2.length ≤ cs.length := by
  unfold minus
  split <;> simp

theorem length_sign_le (cs : List Char) : (sign cs).2.length ≤ cs.length := by
  unfold sign
  split
  · simp
  · exact length_minus_le cs

theorem length_lt_of_whole? {cs rest : List Char} {ds : List Nat}
    (h : whole? cs = some (ds, rest)) : rest.length < cs.length := by
  unfold whole? at h
  split at h
  · contradiction
  · exact length_lt_of_digits? h

theorem length_le_of_fraction? {cs rest : List Char} {ds : Option (List Nat)}
    (h : fraction? cs = some (ds, rest)) : rest.length ≤ cs.length := by
  unfold fraction? at h
  split at h
  · next tail =>
    obtain ⟨_, hdigits, heq⟩ := Option.map_eq_some_iff.1 h
    cases heq
    have := length_lt_of_digits? hdigits
    rw [List.length_cons]
    omega
  · cases h
    exact Nat.le_refl _

theorem length_le_of_exponent? {cs rest : List Char} {e : Option Int}
    (h : exponent? cs = some (e, rest)) : rest.length ≤ cs.length := by
  unfold exponent? at h
  split at h
  · cases h
    exact Nat.le_refl _
  · next c tail =>
    split at h
    · obtain ⟨_, hdigits, heq⟩ := Option.map_eq_some_iff.1 h
      cases heq
      have := length_lt_of_digits? hdigits
      have := length_sign_le tail
      rw [List.length_cons]
      omega
    · cases h
      exact Nat.le_refl _

theorem length_lt_of_scan? {cs rest : List Char} {numeral : Numeral}
    (h : scan? cs = some (numeral, rest)) : rest.length < cs.length := by
  simp only [scan?, Option.bind_eq_bind, Option.bind_eq_some_iff] at h
  obtain ⟨⟨ds, cs₁⟩, hwhole, ⟨fraction, cs₂⟩, hfraction, ⟨e, cs₃⟩, hexponent, hresult⟩ := h
  cases hresult
  have := length_minus_le cs
  have := length_lt_of_whole? hwhole
  have := length_le_of_fraction? hfraction
  have := length_le_of_exponent? hexponent
  dsimp only at *
  omega

def absorb (n : Nat) (ds : List Nat) : Nat × List Nat :=
  match ds with
  | [] => (n, [])
  | d :: ds => if n * 10 + d < 0x10000000000000000 then absorb (n * 10 + d) ds else (n, d :: ds)

theorem absorb_lt {n : Nat} (h : n < 0x10000000000000000) (ds : List Nat) :
    (absorb n ds).1 < 0x10000000000000000 := by
  induction ds generalizing n with
  | nil => exact h
  | cons d ds ih =>
    simp only [absorb]
    split
    · next hd => exact ih hd
    · exact h

/--
Multiplies `x` by `10 ^ e`. There is no result beyond the greatest double. Powers of ten that are no
doubles are divided by in steps of `10 ^ 308`.
-/
def scaleByTen? (x : Binary64) (e : Int) : Option Binary64 :=
  if e.natAbs ≤ 308 then
    let power := Binary64.ofNat (Nat.pow 10 e.natAbs)
    let y := if 0 ≤ e then x.mul power else x.div power
    if y.isFinite then some y else none
  else if x.magnitude = 0 then
    some x
  else if 0 ≤ e then
    none
  else
    scaleByTen? (x.div (Binary64.ofNat (Nat.pow 10 308))) (e + 308)
termination_by e.natAbs

def float? (x : Binary64) : Option Number :=
  if finite : x.isFinite = true then some (.float x finite) else none

def toNumber? (numeral : Numeral) : Option Number :=
  let withSign (x : Binary64) := if numeral.negative then x.neg else x
  match h : absorb 0 numeral.whole, numeral.fraction, numeral.exponent with
  | (significand, []), none, none =>
    have lt : significand < 0x10000000000000000 := by
      have := absorb_lt (n := 0) (by decide) numeral.whole
      rwa [h] at this
    if numeral.negative then
      if fits : 0 < significand ∧ significand ≤ 0x8000000000000000 then
        some (.integer (-significand) (by omega))
      else
        float? (Binary64.ofNat significand).neg
    else
      some (.integer significand (by omega))
  | (significand, extra), fraction, exponent =>
    let places := fraction.getD []
    let (significand, unused) := absorb significand places
    let scale : Int := extra.length - (places.length - unused.length : Nat) + exponent.getD 0
    (scaleByTen? (Binary64.ofNat significand) scale).bind (float? ∘ withSign)

end Numeral
end DotPath
