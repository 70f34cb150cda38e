/-
# Ensembles of objects

A growing list of objects that react to events one at a time, together with the log of what they
send, each entry tagged with the object it was sent for.  The objects do not touch each other, so
a property that relates one object with its own part of the log is proved for all of them by
looking at one reaction of one object (`Ensemble.Each.react`); the log as a whole is a
permutation of the parts (`Ensemble.perm_outputs`).
-/
import Mathlib.Data.List.Induction
import Mathlib.Data.List.Perm.Basic
import Mathlib.Tactic.Common

namespace XappPortal.Lib

/-- Objects of type `α`, numbered in the order of their creation, with the log of the messages
of type `ω` sent for them. -/
structure Ensemble (α ω : Type*) where
  objects : List α
  /-- The messages, each with the number of its object. -/
  log : List (ℕ × ω)
  tagged : ∀ m ∈ log, m.1 < objects.length

namespace Ensemble

variable {α β ω : Type*}

/-- No objects yet. -/
def empty : Ensemble α ω := ⟨[], [], by simp⟩

/-- A new object, with the messages sent while it was created. -/
def spawn (E : Ensemble α ω) (a : α) (out : List ω) : Ensemble α ω where
  objects := E.objects ++ [a]
  log := E.log ++ out.map fun m => (E.objects.length, m)
  tagged m hm := by
    rw [List.length_append, List.length_singleton]
    rcases List.mem_append.mp hm with hm | hm
    · exact Nat.lt_succ_of_lt (E.tagged m hm)
    · obtain ⟨m', -, rfl⟩ := List.mem_map.mp hm
      exact Nat.lt_succ_self _

/-- The reaction of the object with number `i`, if there is one. -/
def react (E : Ensemble α ω) (i : ℕ) (f : α → α × List ω) : Ensemble α ω :=
  match h : E.objects[i]? with
  | none => E
  | some a =>
    { objects := E.objects.set i (f a).1
      log := E.log ++ (f a).2.map fun m => (i, m)
      tagged := by
        intro m hm
        rw [List.length_set]
        rcases List.mem_append.mp hm with hm | hm
        · exact E.tagged m hm
        · obtain ⟨m', -, rfl⟩ := List.mem_map.mp hm
          exact (List.getElem?_eq_some_iff.mp h).1 }

/-- The messages sent for the object with number `i`. -/
def outputsOf (E : Ensemble α ω) (i : ℕ) : List ω :=
  E.log.filterMap fun m => if m.1 = i then some m.2 else none

/-! ## What the operations do to one object -/

lemma filterMap_tag (i j : ℕ) (out : List ω) :
    (out.map fun m => (j, m)).filterMap (fun m => if m.1 = i then some m.2 else none)
      = if j = i then out else [] := by
  rw [List.filterMap_map]
  by_cases h : j = i <;> simp [h]

@[simp] lemma objects_spawn (E : Ensemble α ω) (a : α) (out : List ω) :
    (E.spawn a out).objects = E.objects ++ [a] := rfl

/-- Nothing has been sent for objects that do not exist yet. -/
lemma outputsOf_of_length_le {E : Ensemble α ω} {i : ℕ} (h : E.objects.length ≤ i) :
    E.outputsOf i = [] := by
  rw [outputsOf, List.filterMap_eq_nil_iff]
  intro m hm
  rw [if_neg]
  exact Nat.ne_of_lt (Nat.lt_of_lt_of_le (E.tagged m hm) h)

lemma outputsOf_spawn (E : Ensemble α ω) (a : α) (out : List ω) (i : ℕ) :
    (E.spawn a out).outputsOf i = if i = E.objects.length then out else E.outputsOf i := by
  rw [outputsOf, spawn, List.filterMap_append, filterMap_tag]
  by_cases h : i = E.objects.length
  · subst h
    have hnil : E.outputsOf E.objects.length = [] := outputsOf_of_length_le (Nat.le_refl _)
    rw [outputsOf] at hnil
    simp [hnil]
  · rw [if_neg h, if_neg (Ne.symm h), List.append_nil]
    rfl

lemma react_of_none {E : Ensemble α ω} {i : ℕ} (h : E.objects[i]? = none)
    (f : α → α × List ω) : E.react i f = E := by
  rw [react]
  split
  · rfl
  · next a ha => simp [h] at ha

lemma objects_react {E : Ensemble α ω} {i : ℕ} {a : α} (h : E.objects[i]? = some a)
    (f : α → α × List ω) : (E.react i f).objects = E.objects.set i (f a).1 := by
  rw [react]
  split
  · next h' => simp [h] at h'
  · next b h' =>
    obtain rfl : a = b := Option.some.inj (h.symm.trans h')
    rfl

/-- An object after a reaction: the one that reacted, or the one it was before. -/
lemma getElem?_objects_react (E : Ensemble α ω) (i j : ℕ) (f : α → α × List ω) :
    (E.react i f).objects[j]? =
      if i = j then E.objects[j]?.map fun a => (f a).1 else E.objects[j]? := by
  cases ha : E.objects[i]? with
  | none =>
    rw [react_of_none ha]
    split
    · next hij =>
      subst hij
      rw [ha]
      rfl
    · rfl
  | some a =>
    rw [objects_react ha, List.getElem?_set]
    split
    · next hij =>
      subst hij
      rw [if_pos (List.getElem?_eq_some_iff.mp ha).1, ha]
      rfl
    · rfl

lemma log_react {E : Ensemble α ω} {i : ℕ} {a : α} (h : E.objects[i]? = some a)
    (f : α → α × List ω) : (E.react i f).log = E.log ++ (f a).2.map fun m => (i, m) := by
  rw [react]
  split
  · next h' => simp [h] at h'
  · next b h' =>
    obtain rfl : a = b := Option.some.inj (h.symm.trans h')
    rfl

/-- Messages of one object at the end of the log. -/
lemma outputsOf_of_log {E E' : Ensemble α ω} {i : ℕ} {added : List ω}
    (h : E'.log = E.log ++ added.map fun m => (i, m)) (j : ℕ) :
    E'.outputsOf j = E.outputsOf j ++ if i = j then added else [] := by
  rw [outputsOf, h, List.filterMap_append, filterMap_tag]
  rfl

lemma outputsOf_react {E : Ensemble α ω} {i : ℕ} {a : α} (h : E.objects[i]? = some a)
    (f : α → α × List ω) (j : ℕ) :
    (E.react i f).outputsOf j = E.outputsOf j ++ if i = j then (f a).2 else [] :=
  outputsOf_of_log (log_react h f) j

/-! ## Properties of every object -/

/-- Every object satisfies `P`, with its number, together with what was sent for it. -/
def EachAt (P : ℕ → α → List ω → Prop) (E : Ensemble α ω) : Prop :=
  ∀ i a, E.objects[i]? = some a → P i a (E.outputsOf i)

/-- Every object satisfies `P` together with what was sent for it. -/
def Each (P : α → List ω → Prop) (E : Ensemble α ω) : Prop :=
  ∀ i a, E.objects[i]? = some a → P a (E.outputsOf i)

section EachAt

variable {P : ℕ → α → List ω → Prop}

lemma EachAt.empty : EachAt P (Ensemble.empty : Ensemble α ω) := by
  intro i a h
  simp [Ensemble.empty] at h

lemma EachAt.spawn {E : Ensemble α ω} (h : EachAt P E) {a : α} {out : List ω}
    (ha : P E.objects.length a out) : EachAt P (E.spawn a out) := by
  intro i b hb
  rw [outputsOf_spawn]
  by_cases hi : i = E.objects.length
  · subst hi
    rw [if_pos rfl]
    have : a = b := by simpa using hb
    exact this ▸ ha
  · rw [if_neg hi]
    refine h i b ?_
    have hlt : i < E.objects.length := by
      have := (List.getElem?_eq_some_iff.mp hb).1
      rw [objects_spawn, List.length_append, List.length_singleton] at this
      omega
    rwa [objects_spawn, List.getElem?_append_left hlt] at hb

/-- A reaction of one object that keeps the property of that object keeps it of all. -/
lemma EachAt.react {E : Ensemble α ω} (h : EachAt P E) {i : ℕ} {f : α → α × List ω}
    (hf : ∀ a, E.objects[i]? = some a → P i a (E.outputsOf i) →
      P i (f a).1 (E.outputsOf i ++ (f a).2)) : EachAt P (E.react i f) := by
  cases ha : E.objects[i]? with
  | none =>
    rw [react_of_none ha]
    exact h
  | some a =>
    -- only the object with number `i` and its part of the log have changed
    intro j b hb
    rw [outputsOf_react ha]
    rw [getElem?_objects_react] at hb
    by_cases hij : i = j
    · subst hij
      rw [if_pos rfl, ha] at hb
      obtain rfl := Option.some.inj hb
      rw [if_pos rfl]
      exact hf a ha (h i a ha)
    · rw [if_neg hij] at hb
      rw [if_neg hij, List.append_nil]
      exact h j b hb

end EachAt

section Each

variable {P : α → List ω → Prop}

lemma Each.empty : Each P (Ensemble.empty : Ensemble α ω) := EachAt.empty

lemma Each.spawn {E : Ensemble α ω} (h : Each P E) {a : α} {out : List ω} (ha : P a out) :
    Each P (E.spawn a out) := EachAt.spawn h ha

lemma Each.react {E : Ensemble α ω} (h : Each P E) {i : ℕ} {f : α → α × List ω}
    (hf : ∀ a, E.objects[i]? = some a → P a (E.outputsOf i) →
      P (f a).1 (E.outputsOf i ++ (f a).2)) : Each P (E.react i f) := EachAt.react h hf

end Each

/-! ## The log as a whole -/

lemma flatMap_range_eq {l : List α} {f : ℕ → List β} {g : α → List β}
    (h : ∀ i a, l[i]? = some a → f i = g a) : (List.range l.length).flatMap f = l.flatMap g := by
  induction l using List.reverseRecOn with
  | nil => rfl
  | append_singleton l a ih =>
    have hfront : ∀ i b, l[i]? = some b → f i = g b := by
      intro i b hb
      refine h i b ?_
      rwa [List.getElem?_append_left (List.getElem?_eq_some_iff.mp hb).1]
    have hlast : f l.length = g a := h l.length a (by simp)
    rw [List.length_append, List.length_singleton, List.range_succ, List.flatMap_append,
      List.flatMap_append, ih hfront]
    simp [hlast]

lemma flatMap_range_single {j n : ℕ} (hj : j < n) (l : List β) :
    (List.range n).flatMap (fun i => if j = i then l else []) = l := by
  induction n with
  | zero => omega
  | succ n ih =>
    rw [List.range_succ, List.flatMap_append]
    rcases Nat.lt_succ_iff_lt_or_eq.mp hj with hlt | rfl
    · rw [ih hlt]
      simp [Nat.ne_of_lt hlt]
    · have hbefore : (List.range j).flatMap (fun i => if j = i then l else []) = [] := by
        rw [List.flatMap_eq_nil_iff]
        intro i hi
        rw [if_neg (Nat.ne_of_gt (List.mem_range.mp hi))]
      simp [hbefore]

lemma perm_filterMap_tag (n : ℕ) (l : List (ℕ × ω)) (hl : ∀ m ∈ l, m.1 < n) :
    (l.map Prod.snd).Perm
      ((List.range n).flatMap fun i =>
        l.filterMap fun m => if m.1 = i then some m.2 else none) := by
  induction l with
  | nil => simp
  | cons m l ih =>
    obtain ⟨j, m⟩ := m
    have hsplit : ∀ i, ((j, m) :: l).filterMap (fun m => if m.1 = i then some m.2 else none)
        = (if j = i then [m] else [])
          ++ l.filterMap fun m => if m.1 = i then some m.2 else none := by
      intro i
      by_cases hji : j = i <;> simp [hji]
    simp only [hsplit]
    -- the first message moves to the front of the part of its object
    refine List.Perm.trans ?_ (List.flatMap_append_perm _ _ _)
    rw [flatMap_range_single (hl (j, m) (by simp))]
    exact List.Perm.cons m (ih fun m hm => hl m (List.mem_cons_of_mem _ hm))

/-- The messages of the log are those sent for the objects one after the other, in some order. -/
theorem perm_outputs (E : Ensemble α ω) :
    (E.log.map Prod.snd).Perm ((List.range E.objects.length).flatMap E.outputsOf) :=
  perm_filterMap_tag _ _ E.tagged

/-- If what each object yields is a function of the object, then so is what the log yields. -/
theorem perm_of_each {E : Ensemble α ω} {f : ω → Option β} {g : α → List β}
    (h : Each (fun a out => out.filterMap f = g a) E) :
    ((E.log.map Prod.snd).filterMap f).Perm (E.objects.flatMap g) := by
  have hperm := E.perm_outputs.filterMap f
  rw [List.filterMap_flatMap, flatMap_range_eq h] at hperm
  exact hperm

end Ensemble

end XappPortal.Lib
