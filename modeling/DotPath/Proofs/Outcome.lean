import DotPath.Failure
import Mathlib.Data.List.Forall2

/-!
This module contains the outcomes of computations that may fail, from the outcomes of their parts: of
two computations one after the other, of one for each element of a list, of a test by which some of
these are chosen, and of a fold. It also contains what it means that two computations end alike, and
that this too follows from their parts.
-/

namespace DotPath

variable {α β γ δ : Type}

theorem bind_eq_ok_iff {x : Except Failure α} {f : α → Except Failure β} {b : β} :
    x >>= f = .ok b ↔ ∃ a, x = .ok a ∧ f a = .ok b := by
  cases x <;> simp [bind, Except.bind]

theorem bind_eq_error_iff {x : Except Failure α} {f : α → Except Failure β} {failure : Failure} :
    x >>= f = .error failure ↔ x = .error failure ∨ ∃ a, x = .ok a ∧ f a = .error failure := by
  cases x <;> simp [bind, Except.bind]

theorem map_eq_ok_iff {x : Except Failure α} {f : α → β} {b : β} :
    x.map f = .ok b ↔ ∃ a, x = .ok a ∧ f a = b := by
  cases x <;> simp [Except.map]

theorem map_eq_error_iff {x : Except Failure α} {f : α → β} {failure : Failure} :
    x.map f = .error failure ↔ x = .error failure := by
  cases x <;> simp [Except.map]

/-- `failure` is that of the first of `as` for which `f` fails. -/
def FirstError (f : α → Except Failure β) (as : List α) (failure : Failure) : Prop :=
  ∃ before a behind, as = before ++ a :: behind ∧ (∀ b ∈ before, ∃ found, f b = .ok found)
    ∧ f a = .error failure

theorem mapM_eq_error {f : α → Except Failure β} {as : List α} {failure : Failure}
    (h : as.mapM f = .error failure) : FirstError f as failure := by
  induction as with
  | nil => cases h
  | cons a as ih =>
    rw [List.mapM_cons, bind_eq_error_iff] at h
    rcases h with hhead | ⟨found, hhead, h⟩
    · exact ⟨[], a, as, rfl, by simp, hhead⟩
    · rcases bind_eq_error_iff.mp h with htail | ⟨_, _, h⟩
      · rcases ih htail with ⟨before, b, behind, rfl, hbefore, hb⟩
        refine ⟨a :: before, b, behind, rfl, ?_, hb⟩
        rw [List.forall_mem_cons]
        exact ⟨⟨found, hhead⟩, hbefore⟩
      · cases h

theorem mapM_eq_error_iff {f : α → Except Failure β} {as : List α} {failure : Failure} :
    as.mapM f = .error failure ↔ FirstError f as failure := by
  constructor
  · exact mapM_eq_error
  · rintro ⟨before, a, behind, rfl, hbefore, ha⟩
    induction before with
    | nil =>
      rw [List.nil_append, List.mapM_cons, ha]
      rfl
    | cons b before ih =>
      rw [List.forall_mem_cons] at hbefore
      rcases hbefore with ⟨⟨found, hb⟩, hbefore⟩
      rw [List.cons_append, List.mapM_cons, hb, bind_eq_error_iff]
      exact .inr ⟨found, rfl, bind_eq_error_iff.mpr (.inl (ih hbefore))⟩

theorem mapM_eq_ok_iff {f : α → Except Failure β} {as : List α} {bs : List β} :
    as.mapM f = .ok bs ↔ List.Forall₂ (fun a b => f a = .ok b) as bs := by
  induction as generalizing bs with
  | nil => cases bs <;> simp [pure, Except.pure]
  | cons a as ih =>
    rw [List.mapM_cons, bind_eq_ok_iff]
    constructor
    · rintro ⟨b, hb, h⟩
      rcases bind_eq_ok_iff.mp h with ⟨rest, hrest, h⟩
      cases h
      exact .cons hb (ih.mp hrest)
    · intro h
      cases h with
      | cons hb hrest => exact ⟨_, hb, bind_eq_ok_iff.mpr ⟨_, ih.mpr hrest, rfl⟩⟩

theorem exists_mapM_eq_ok_iff {f : α → Except Failure β} {as : List α} :
    (∃ bs, as.mapM f = .ok bs) ↔ ∀ a ∈ as, ∃ b, f a = .ok b := by
  constructor
  · rintro ⟨bs, h⟩
    rw [mapM_eq_ok_iff] at h
    induction h with
    | nil => simp
    | cons hb _ ih =>
      rw [List.forall_mem_cons]
      exact ⟨⟨_, hb⟩, ih⟩
  · intro h
    cases hmap : as.mapM f with
    | ok bs => exact ⟨bs, rfl⟩
    | error failure =>
      rcases mapM_eq_error hmap with ⟨before, a, behind, rfl, -, ha⟩
      rcases h a (List.mem_append_right before List.mem_cons_self) with ⟨b, hb⟩
      rw [ha] at hb
      cases hb

theorem foldlM_eq_error {f : β → α → Except Failure β} {init : β} {as : List α} {failure : Failure}
    (h : as.foldlM f init = .error failure) :
    ∃ before a behind reached, as = before ++ a :: behind ∧ before.foldlM f init = .ok reached
      ∧ f reached a = .error failure := by
  induction as generalizing init with
  | nil => cases h
  | cons a as ih =>
    rw [List.foldlM_cons, bind_eq_error_iff] at h
    rcases h with hhead | ⟨next, hhead, h⟩
    · exact ⟨[], a, as, init, rfl, rfl, hhead⟩
    · rcases ih h with ⟨before, b, behind, reached, rfl, hbefore, hb⟩
      refine ⟨a :: before, b, behind, reached, rfl, ?_, hb⟩
      rw [List.foldlM_cons, bind_eq_ok_iff]
      exact ⟨next, hhead, hbefore⟩

theorem foldlM_preserves {f : β → α → Except Failure β} {P : β → Prop} {init final : β}
    {as : List α} (hstep : ∀ b a b', P b → f b a = .ok b' → P b') (h : as.foldlM f init = .ok final)
    (hinit : P init) : P final := by
  induction as generalizing init with
  | nil =>
    cases h
    exact hinit
  | cons a as ih =>
    rw [List.foldlM_cons, bind_eq_ok_iff] at h
    rcases h with ⟨next, hhead, h⟩
    exact ih h (hstep init a next hinit hhead)

/-- Both computations fail, with the same failure, or both succeed, with results that are related. -/
inductive Alike (R : α → β → Prop) : Except Failure α → Except Failure β → Prop where
  | ok {a : α} {b : β} (h : R a b) : Alike R (.ok a) (.ok b)
  | error (failure : Failure) : Alike R (.error failure) (.error failure)

namespace Alike

variable {R : α → β → Prop} {S : γ → δ → Prop}

theorem outcomes {x : Except Failure α} {y : Except Failure β} (h : Alike R x y) :
    (∃ a b, x = .ok a ∧ y = .ok b ∧ R a b)
      ∨ ∃ failure, x = .error failure ∧ y = .error failure := by
  cases h with
  | ok h => exact .inl ⟨_, _, rfl, rfl, h⟩
  | error failure => exact .inr ⟨failure, rfl, rfl⟩

theorem eq_error_iff {x : Except Failure α} {y : Except Failure β} {failure : Failure}
    (h : Alike R x y) : x = .error failure ↔ y = .error failure := by
  cases h <;> simp

theorem exists_eq_ok_iff {x : Except Failure α} {y : Except Failure β} (h : Alike R x y) :
    (∃ a, x = .ok a) ↔ ∃ b, y = .ok b := by
  cases h <;> simp

theorem bind {x : Except Failure α} {y : Except Failure β} {f : α → Except Failure γ}
    {g : β → Except Failure δ} (h : Alike R x y) (hnext : ∀ a b, R a b → Alike S (f a) (g b)) :
    Alike S (x >>= f) (y >>= g) := by
  cases h with
  | ok h => exact hnext _ _ h
  | error failure => exact .error failure

theorem mapM {f : α → Except Failure γ} {g : β → Except Failure δ} {as : List α} {bs : List β}
    (h : List.Forall₂ R as bs) (hnext : ∀ a b, R a b → Alike S (f a) (g b)) :
    Alike (List.Forall₂ S) (as.mapM f) (bs.mapM g) := by
  induction h with
  | nil => exact .ok .nil
  | cons hhead _ ih =>
    rw [List.mapM_cons, List.mapM_cons]
    apply (hnext _ _ hhead).bind
    intro c d hcd
    apply ih.bind
    intro cs ds htail
    exact .ok (.cons hcd htail)

theorem foldlM {f : α → γ → Except Failure α} {g : β → γ → Except Failure β} {cs : List γ}
    (hnext : ∀ c ∈ cs, ∀ a b, R a b → Alike R (f a c) (g b c)) {a : α} {b : β} (h : R a b) :
    Alike R (cs.foldlM f a) (cs.foldlM g b) := by
  induction cs generalizing a b with
  | nil => exact .ok h
  | cons c cs ih =>
    rw [List.forall_mem_cons] at hnext
    rw [List.foldlM_cons, List.foldlM_cons]
    apply (hnext.1 a b h).bind
    intro a' b' h'
    exact ih hnext.2 h'

end Alike

/-- Those of `as` that pass the test. The test is made of each of them, in order. -/
def sift (test : α → Except Failure Bool) (as : List α) : Except Failure (List α) :=
  match as with
  | [] => .ok []
  | a :: rest => do
    let passes ← test a
    let others ← sift test rest
    return if passes then a :: others else others

section Sift

variable {test : α → Except Failure Bool} {as : List α}

theorem sift_alike_mapM (test : α → Except Failure Bool) (as : List α) :
    Alike (fun _ _ => True) (sift test as) (as.mapM test) := by
  induction as with
  | nil => exact .ok trivial
  | cons a as ih =>
    rw [sift, List.mapM_cons]
    cases test a with
    | error failure => exact .error failure
    | ok passes =>
      apply ih.bind
      intro _ _ _
      exact .ok trivial

theorem sift_eq_ok_iff {kept : List α} : sift test as = .ok kept ↔
    (∀ a ∈ as, ∃ passes, test a = .ok passes) ∧ kept = as.filter (test · = .ok true) := by
  induction as generalizing kept with
  | nil => simp [sift, eq_comm]
  | cons a as ih =>
    rw [sift, bind_eq_ok_iff, List.forall_mem_cons, List.filter_cons]
    cases test a with
    | error failure => simp
    | ok passes =>
      simp only [bind_eq_ok_iff, ih]
      cases passes <;> simp [pure, Except.pure, eq_comm]

theorem sift_congr {other : α → Except Failure Bool} (h : ∀ a ∈ as, test a = other a) :
    sift test as = sift other as := by
  induction as with
  | nil => rfl
  | cons a as ih =>
    rw [List.forall_mem_cons] at h
    rw [sift, sift, h.1, ih h.2]

theorem sift_map (look : β → α) (bs : List β) :
    sift test (bs.map look) = (sift (test ∘ look) bs).map (List.map look) := by
  induction bs with
  | nil => rfl
  | cons b bs ih =>
    rw [List.map_cons, sift, sift, ih, Function.comp_apply]
    cases test (look b) with
    | error failure => rfl
    | ok passes =>
      cases sift (test ∘ look) bs with
      | error failure => rfl
      | ok others => cases passes <;> rfl

end Sift

end DotPath
