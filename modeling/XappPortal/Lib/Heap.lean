/-
# A heap of objects

Objects live at addresses that are handed out in increasing order and never reused, so a
pointer that outlives its object stays distinguishable from every later object.  A heap carries
the proof that no address beyond the next one to be handed out is in use.
-/
import Mathlib.Data.List.Basic
import Mathlib.Tactic.Common

namespace XappPortal.Lib

/-- Finitely many live objects of type `α`, by address. -/
structure Heap (α : Type*) where
  /-- The object at an address, if it is alive. -/
  cell : ℕ → Option α
  /-- The next address to be handed out. -/
  next : ℕ
  cell_of_next_le : ∀ a, next ≤ a → cell a = none

namespace Heap

variable {α : Type*}

/-- The heap without objects. -/
def empty : Heap α := ⟨fun _ => none, 0, fun _ _ => rfl⟩

/-- Put a new object at the next address. -/
def alloc (h : Heap α) (x : α) : Heap α where
  cell b := if b = h.next then some x else h.cell b
  next := h.next + 1
  cell_of_next_le a ha := by
    rw [if_neg (by omega)]
    exact h.cell_of_next_le a (by omega)

/-- Update the object at an address, if it is alive. -/
def modify (h : Heap α) (a : ℕ) (f : α → α) : Heap α where
  cell b := if b = a then (h.cell b).map f else h.cell b
  next := h.next
  cell_of_next_le b hb := by
    simp [h.cell_of_next_le b hb]

/-- End the life of the object at an address. -/
def free (h : Heap α) (a : ℕ) : Heap α where
  cell b := if b = a then none else h.cell b
  next := h.next
  cell_of_next_le b hb := by
    simp [h.cell_of_next_le b hb]

@[ext] lemma ext {h₁ h₂ : Heap α} (hc : ∀ a, h₁.cell a = h₂.cell a) (hn : h₁.next = h₂.next) :
    h₁ = h₂ := by
  obtain ⟨c₁, n₁, _⟩ := h₁
  obtain ⟨c₂, n₂, _⟩ := h₂
  obtain rfl : c₁ = c₂ := funext hc
  obtain rfl : n₁ = n₂ := hn
  rfl

@[simp] lemma empty_cell (a : ℕ) : (empty : Heap α).cell a = none := rfl

@[simp] lemma alloc_cell (h : Heap α) (x : α) (a : ℕ) :
    (h.alloc x).cell a = if a = h.next then some x else h.cell a := rfl

@[simp] lemma alloc_next (h : Heap α) (x : α) : (h.alloc x).next = h.next + 1 := rfl

@[simp] lemma modify_cell (h : Heap α) (a b : ℕ) (f : α → α) :
    (h.modify a f).cell b = if b = a then (h.cell b).map f else h.cell b := rfl

@[simp] lemma modify_next (h : Heap α) (a : ℕ) (f : α → α) : (h.modify a f).next = h.next := rfl

@[simp] lemma free_cell (h : Heap α) (a b : ℕ) :
    (h.free a).cell b = if b = a then none else h.cell b := rfl

@[simp] lemma free_next (h : Heap α) (a : ℕ) : (h.free a).next = h.next := rfl

@[simp] lemma cell_next (h : Heap α) : h.cell h.next = none := h.cell_of_next_le _ (Nat.le_refl _)

@[simp] lemma modify_modify (h : Heap α) (a : ℕ) (f g : α → α) :
    (h.modify a f).modify a g = h.modify a (g ∘ f) := by
  ext b
  · by_cases hb : b = a <;> simp [hb]
  · rfl

@[simp] lemma free_modify (h : Heap α) (a : ℕ) (f : α → α) : (h.modify a f).free a = h.free a := by
  ext b
  · by_cases hb : b = a <;> simp [hb]
  · rfl

@[simp] lemma alloc_modify (h : Heap α) (x : α) (f : α → α) :
    (h.alloc x).modify h.next f = h.alloc (f x) := by
  ext b
  · by_cases hb : b = h.next <;> simp [hb]
  · rfl

/-- Update the objects at all the addresses of a list. -/
def modifyAll (h : Heap α) (l : List ℕ) (f : α → α) : Heap α :=
  l.foldl (fun h a => h.modify a f) h

lemma modifyAll_next (h : Heap α) (l : List ℕ) (f : α → α) : (h.modifyAll l f).next = h.next := by
  induction l generalizing h with
  | nil => rfl
  | cons a l ih => exact ih (h.modify a f)

/-- An update that changes nothing when repeated reaches each listed object once. -/
lemma modifyAll_cell {f : α → α} (hf : ∀ x, f (f x) = f x) (h : Heap α) (l : List ℕ) (b : ℕ) :
    (h.modifyAll l f).cell b = if b ∈ l then (h.cell b).map f else h.cell b := by
  induction l generalizing h with
  | nil => simp [modifyAll]
  | cons a l ih =>
    have hstep : h.modifyAll (a :: l) f = (h.modify a f).modifyAll l f := rfl
    rw [hstep, ih]
    by_cases hba : b = a
    · subst hba
      -- the address may be listed again, where the update changes nothing any more
      have hff : f ∘ f = f := funext hf
      by_cases hbl : b ∈ l <;> simp [hbl, hff]
    · by_cases hbl : b ∈ l <;> simp [hba, hbl]

end Heap

end XappPortal.Lib
