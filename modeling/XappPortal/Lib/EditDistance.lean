/-
# Edit distance

The distance between two strings over any alphabet is the least number of insertions, deletions
and substitutions of one letter that lead from one to the other.  It is computed by a recursion on
both strings, and since reading both strings backwards changes no distance, the recursion may as
well take the strings apart at their ends (`distance_concat_concat`), as a table filled from the
empty prefixes does.
-/
import Mathlib.Order.Bounds.Basic
import Mathlib.Order.MinMax
import Mathlib.Tactic.Common

namespace XappPortal.Lib.EditDistance

variable {α : Type*}

/-! ## Sequences of edits -/

/-- One edit: a letter is inserted, deleted or replaced. -/
inductive Edit : List α → List α → Prop
  | insert (l r : List α) (c : α) : Edit (l ++ r) (l ++ c :: r)
  | delete (l r : List α) (c : α) : Edit (l ++ c :: r) (l ++ r)
  | substitute (l r : List α) (c d : α) : Edit (l ++ c :: r) (l ++ d :: r)

/-- A number of edits lead from one string to another. -/
inductive Edits : ℕ → List α → List α → Prop
  | refl (xs : List α) : Edits 0 xs xs
  | step {n : ℕ} {xs ys zs : List α} : Edit xs ys → Edits n ys zs → Edits (n + 1) xs zs

/-- The Levenshtein distance of two strings. -/
def IsLevenshtein (d : ℕ) (xs ys : List α) : Prop :=
  IsLeast {n | Edits n xs ys} d

lemma Edit.cons {xs ys : List α} (h : Edit xs ys) (c : α) : Edit (c :: xs) (c :: ys) := by
  cases h with
  | insert l r d => exact Edit.insert (c :: l) r d
  | delete l r d => exact Edit.delete (c :: l) r d
  | substitute l r d e => exact Edit.substitute (c :: l) r d e

lemma Edit.reverse {xs ys : List α} (h : Edit xs ys) : Edit xs.reverse ys.reverse := by
  cases h with
  | insert l r d => simpa using Edit.insert r.reverse l.reverse d
  | delete l r d => simpa using Edit.delete r.reverse l.reverse d
  | substitute l r d e => simpa using Edit.substitute r.reverse l.reverse d e

namespace Edits

variable {n : ℕ} {xs ys : List α}

lemma cons (h : Edits n xs ys) (c : α) : Edits n (c :: xs) (c :: ys) := by
  induction h with
  | refl xs => exact Edits.refl _
  | step he _ ih => exact Edits.step (he.cons c) ih

lemma reverse (h : Edits n xs ys) : Edits n xs.reverse ys.reverse := by
  induction h with
  | refl xs => exact Edits.refl _
  | step he _ ih => exact Edits.step he.reverse ih

lemma reverse_iff : Edits n xs.reverse ys.reverse ↔ Edits n xs ys := by
  refine ⟨fun h => ?_, reverse⟩
  simpa using h.reverse

lemma insert (h : Edits n xs ys) (c : α) : Edits (n + 1) xs (c :: ys) :=
  Edits.step (Edit.insert [] xs c) (h.cons c)

lemma delete (h : Edits n xs ys) (c : α) : Edits (n + 1) (c :: xs) ys :=
  Edits.step (Edit.delete [] xs c) h

lemma substitute (h : Edits n xs ys) (c d : α) : Edits (n + 1) (c :: xs) (d :: ys) :=
  Edits.step (Edit.substitute [] xs c d) (h.cons d)

end Edits

/-! ## The recursion -/

variable [DecidableEq α]

/-- What replacing a letter by another costs. -/
def cost (x y : α) : ℕ := if x = y then 0 else 1

lemma cost_le_one (x y : α) : cost x y ≤ 1 := by
  rw [cost]
  split <;> decide

/-- The distances of `x :: xs` from the distances of `xs`. -/
def extend (x : α) (d : List α → ℕ) : List α → ℕ
  | [] => d [] + 1
  | y :: ys => min (extend x d ys + 1) (min (d (y :: ys) + 1) (d ys + cost x y))

/-- The distance of two strings, by recursion on both. -/
def distance : List α → List α → ℕ
  | [] => List.length
  | x :: xs => extend x (distance xs)

@[simp] lemma distance_nil_left (ys : List α) : distance [] ys = ys.length := rfl

@[simp] lemma distance_nil_right (xs : List α) : distance xs [] = xs.length := by
  induction xs with
  | nil => rfl
  | cons x xs ih => rw [List.length_cons, ← ih]; rfl

lemma distance_cons_cons (x y : α) (xs ys : List α) :
    distance (x :: xs) (y :: ys)
      = min (distance (x :: xs) ys + 1)
          (min (distance xs (y :: ys) + 1) (distance xs ys + cost x y)) := rfl

/-- The recursion is attained by a sequence of edits. -/
lemma edits_distance (xs ys : List α) : Edits (distance xs ys) xs ys := by
  induction xs generalizing ys with
  | nil =>
    induction ys with
    | nil => exact Edits.refl []
    | cons y ys ih => exact ih.insert y
  | cons x xs ih =>
    induction ys with
    | nil => simpa using (ih []).delete x
    | cons y ys ihy =>
      rw [distance_cons_cons]
      -- the least of the three is one of them
      rcases min_choice (distance (x :: xs) ys + 1)
        (min (distance xs (y :: ys) + 1) (distance xs ys + cost x y)) with h | h
      · rw [h]
        exact ihy.insert y
      rw [h]
      rcases min_choice (distance xs (y :: ys) + 1) (distance xs ys + cost x y) with h' | h'
      · rw [h']
        exact (ih (y :: ys)).delete x
      · rw [h', cost]
        split
        · rename_i hxy
          subst hxy
          exact (ih ys).cons x
        · exact (ih ys).substitute x y

/-! ## No shorter sequence of edits -/

lemma distance_cons_le_left (x : α) (xs ys : List α) :
    distance (x :: xs) ys ≤ distance xs ys + 1 := by
  cases ys with
  | nil => simp
  | cons y ys =>
    rw [distance_cons_cons]
    omega

lemma distance_cons_le_right (xs : List α) (y : α) (ys : List α) :
    distance xs (y :: ys) ≤ distance xs ys + 1 := by
  cases xs with
  | nil => simp
  | cons x xs =>
    rw [distance_cons_cons]
    omega

lemma distance_le_cons_left (x : α) (xs ys : List α) :
    distance xs ys ≤ distance (x :: xs) ys + 1 := by
  induction ys with
  | nil =>
    rw [distance_nil_right, distance_nil_right, List.length_cons]
    omega
  | cons y ys ih =>
    rw [distance_cons_cons]
    have := distance_cons_le_right xs y ys
    omega

lemma distance_substitute_le (c d : α) (xs ys : List α) :
    distance (c :: xs) ys ≤ distance (d :: xs) ys + 1 := by
  induction ys with
  | nil => simp
  | cons y ys ih =>
    rw [distance_cons_cons, distance_cons_cons]
    have := cost_le_one c y
    omega

/-- Distances of strings with a common first letter differ as those of the rests do. -/
lemma distance_cons_mono {xs xs' : List α} (h : ∀ ys, distance xs ys ≤ distance xs' ys + 1)
    (c : α) (ys : List α) : distance (c :: xs) ys ≤ distance (c :: xs') ys + 1 := by
  induction ys with
  | nil => simpa using h []
  | cons y ys ih =>
    rw [distance_cons_cons, distance_cons_cons]
    have h₁ := h (y :: ys)
    have h₂ := h ys
    omega

lemma distance_append_mono {xs xs' : List α} (h : ∀ ys, distance xs ys ≤ distance xs' ys + 1)
    (l ys : List α) : distance (l ++ xs) ys ≤ distance (l ++ xs') ys + 1 := by
  induction l generalizing ys with
  | nil => exact h ys
  | cons c l ih => exact distance_cons_mono ih c ys

/-- One edit changes a distance by at most one. -/
lemma distance_le_of_edit {xs xs' : List α} (h : Edit xs xs') (ys : List α) :
    distance xs ys ≤ distance xs' ys + 1 := by
  cases h with
  | insert l r c => exact distance_append_mono (distance_le_cons_left c r) l ys
  | delete l r c => exact distance_append_mono (distance_cons_le_left c r) l ys
  | substitute l r c d => exact distance_append_mono (distance_substitute_le c d r) l ys

lemma distance_self (xs : List α) : distance xs xs = 0 := by
  induction xs with
  | nil => rfl
  | cons x xs ih => simp [distance_cons_cons, ih, cost]

lemma distance_le_of_edits {n : ℕ} {xs ys : List α} (h : Edits n xs ys) :
    distance xs ys ≤ n := by
  induction h with
  | refl xs => exact Nat.le_of_eq (distance_self xs)
  | step he _ ih => exact Nat.le_trans (distance_le_of_edit he _) (Nat.succ_le_succ ih)

/-- **The recursion computes the least number of edits.** -/
theorem isLevenshtein_distance (xs ys : List α) : IsLevenshtein (distance xs ys) xs ys :=
  ⟨edits_distance xs ys, fun _ h => distance_le_of_edits h⟩

lemma isLevenshtein_iff {d : ℕ} {xs ys : List α} :
    IsLevenshtein d xs ys ↔ d = distance xs ys := by
  refine ⟨fun h => h.unique (isLevenshtein_distance xs ys), ?_⟩
  rintro rfl
  exact isLevenshtein_distance xs ys

/-- No distance is greater than both lengths. -/
lemma distance_le_max (xs ys : List α) : distance xs ys ≤ max xs.length ys.length := by
  induction xs generalizing ys with
  | nil => simp
  | cons x xs ih =>
    cases ys with
    | nil => simp
    | cons y ys =>
      have h := ih ys
      have := cost_le_one x y
      rw [distance_cons_cons, List.length_cons, List.length_cons]
      omega

/-! ## Reading the strings backwards -/

lemma distance_reverse (xs ys : List α) : distance xs.reverse ys.reverse = distance xs ys := by
  have h : IsLevenshtein (distance xs.reverse ys.reverse) xs ys :=
    ⟨Edits.reverse_iff.mp (edits_distance xs.reverse ys.reverse),
      fun _ h => distance_le_of_edits h.reverse⟩
  exact isLevenshtein_iff.mp h

/-- **The recursion at the ends of the strings.** -/
theorem distance_concat_concat (xs ys : List α) (x y : α) :
    distance (xs ++ [x]) (ys ++ [y])
      = min (distance (xs ++ [x]) ys + 1)
          (min (distance xs (ys ++ [y]) + 1) (distance xs ys + cost x y)) := by
  rw [← distance_reverse (xs ++ [x]) (ys ++ [y]), ← distance_reverse (xs ++ [x]) ys,
    ← distance_reverse xs (ys ++ [y]), ← distance_reverse xs ys]
  simp only [List.reverse_append, List.reverse_singleton, List.singleton_append]
  exact distance_cons_cons x y xs.reverse ys.reverse

end XappPortal.Lib.EditDistance
