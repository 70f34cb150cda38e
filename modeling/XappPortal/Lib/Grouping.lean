/-
# Grouping in one pass

A pass over a list that gathers the items of equal keys: whenever the key changes, the group at work
is closed and a new one is begun, and the last one is closed at the end.  The pass looks back at the
key before and no further, so every key gets one group when equal keys stand together
(`Groups.gathers_foldl`).
-/
import Mathlib.Data.List.Induction
import Mathlib.Data.List.Nodup
import Mathlib.Tactic.Common

namespace XappPortal.Lib

/-! ## Equal entries that stand together -/

section Contiguous

variable {α : Type*} {l l' : List α}

/-- No entry comes back after a different one. -/
def Contiguous (l : List α) : Prop := ∀ a b, [a, b, a].Sublist l → b = a

instance [DecidableEq α] : Decidable (Contiguous l) :=
  decidable_of_iff (∀ a ∈ l, ∀ b ∈ l, [a, b, a].Sublist l → b = a)
    ⟨fun h a b hab => h a (hab.subset (by simp)) b (hab.subset (by simp)) hab,
      fun h a _ b _ => h a b⟩

lemma Contiguous.sublist (h : Contiguous l') (hl : l.Sublist l') : Contiguous l :=
  fun a b hab => h a b (hab.trans hl)

/-- An entry that is there already is the last one. -/
lemma Contiguous.getLast?_eq {a : α} (h : Contiguous (l ++ [a])) (ha : a ∈ l) :
    l.getLast? = some a := by
  cases l using List.reverseRecOn with
  | nil => exact absurd ha List.not_mem_nil
  | append_singleton l b =>
    rw [List.getLast?_concat]
    rcases List.mem_append.mp ha with ha | ha
    · have hsub : [a, b, a].Sublist (l ++ [b] ++ [a]) :=
        ((List.singleton_sublist.mpr ha).append_right [b]).append_right [a]
      rw [h a b hsub]
    · rw [List.mem_singleton.mp ha]

end Contiguous

/-! ## The pass -/

/-- The groups that are closed and the group at work, each with its key. -/
structure Groups (κ β : Type*) where
  closed : List (κ × β)
  current : Option (κ × β)
deriving DecidableEq, Repr

namespace Groups

variable {α κ β : Type*}

/-- Before the first item. -/
def start : Groups κ β := ⟨[], none⟩

/-- All the groups. -/
def all (G : Groups κ β) : List (κ × β) := G.closed ++ G.current.toList

variable [DecidableEq κ] (key : α → κ) (insert : β → α → β) (fresh : β)

/-- The next item: it is inserted into the group at work if that has its key, and otherwise into a
fresh one. -/
def add (G : Groups κ β) (a : α) : Groups κ β :=
  match G.current with
  | some (k, b) =>
      if k = key a then { G with current := some (k, insert b a) }
      else ⟨G.all, some (key a, insert fresh a)⟩
  | none => ⟨G.all, some (key a, insert fresh a)⟩

/-- There is one group for every key of the list, and it is made of the items with that key. -/
structure Gathers (l : List α) (G : Groups κ β) : Prop where
  nodup : (G.all.map Prod.fst).Nodup
  mem_iff : ∀ k, k ∈ G.all.map Prod.fst ↔ k ∈ l.map key
  content : ∀ p ∈ G.all, p.2 = (l.filter fun a => key a = p.1).foldl insert fresh
  current : G.current.map Prod.fst = (l.map key).getLast?

variable {key insert fresh} {l : List α} {G : Groups κ β} {a : α}

lemma gathers_start : Gathers key insert fresh [] (start : Groups κ β) :=
  ⟨List.nodup_nil, fun _ => Iff.rfl, fun _ hp => absurd hp List.not_mem_nil, rfl⟩

lemma filter_concat_of_ne {k : κ} (h : key a ≠ k) :
    (l ++ [a]).filter (fun a => key a = k) = l.filter fun a => key a = k := by
  simp [h]

lemma filter_concat_of_eq {k : κ} (h : key a = k) :
    (l ++ [a]).filter (fun a => key a = k) = (l.filter fun a => key a = k) ++ [a] := by
  simp [h]

/-- An item with the key of the group at work. -/
lemma Gathers.insert_current (h : Gathers key insert fresh l G) {b : β}
    (hG : G.current = some (key a, b)) :
    Gathers key insert fresh (l ++ [a]) { G with current := some (key a, insert b a) } := by
  have hall : G.all = G.closed ++ [(key a, b)] := by rw [all, hG, Option.toList_some]
  have hkeys : (G.closed ++ [(key a, insert b a)]).map Prod.fst = G.all.map Prod.fst := by
    simp [hall]
  have hmem : key a ∈ l.map key := (h.mem_iff _).mp (by simp [hall])
  refine ⟨?_, fun k => ?_, fun p hp => ?_, ?_⟩
  · show ((G.closed ++ [(key a, insert b a)]).map Prod.fst).Nodup
    rw [hkeys]
    exact h.nodup
  · show k ∈ (G.closed ++ [(key a, insert b a)]).map Prod.fst ↔ _
    rw [hkeys, h.mem_iff, List.map_append, List.mem_append]
    refine ⟨Or.inl, fun hk => hk.elim id fun hk => ?_⟩
    rw [List.mem_singleton.mp hk]
    exact hmem
  · rcases List.mem_append.mp hp with hp | hp
    · -- a closed group has another key
      have hnodup := h.nodup
      rw [hall, List.map_append, List.nodup_append] at hnodup
      have hne : key a ≠ p.1 :=
        (hnodup.2.2 p.1 (List.mem_map_of_mem hp) (key a) (List.mem_singleton_self _)).symm
      rw [filter_concat_of_ne hne]
      exact h.content p (by rw [hall]; exact List.mem_append_left _ hp)
    · obtain rfl := List.mem_singleton.mp hp
      have hb := h.content (key a, b) (by simp [hall])
      rw [filter_concat_of_eq rfl, List.foldl_concat, ← hb]
  · simp

/-- An item with a new key. -/
lemma Gathers.insert_fresh (h : Gathers key insert fresh l G) (ha : key a ∉ l.map key) :
    Gathers key insert fresh (l ++ [a]) ⟨G.all, some (key a, insert fresh a)⟩ := by
  have hnone : (l.filter fun b => key b = key a) = [] := by
    refine List.filter_eq_nil_iff.mpr fun b hb => ?_
    rw [decide_eq_true_iff]
    exact fun hkey => ha (hkey ▸ List.mem_map_of_mem hb)
  have hkeys : (G.all ++ [(key a, insert fresh a)]).map Prod.fst = G.all.map Prod.fst ++ [key a] :=
    List.map_append
  refine ⟨?_, fun k => ?_, fun p hp => ?_, ?_⟩
  · show ((G.all ++ [(key a, insert fresh a)]).map Prod.fst).Nodup
    rw [hkeys]
    refine h.nodup.append (List.nodup_singleton _) ?_
    rw [List.disjoint_singleton]
    exact fun hmem => ha ((h.mem_iff _).mp hmem)
  · show k ∈ (G.all ++ [(key a, insert fresh a)]).map Prod.fst ↔ _
    rw [hkeys, List.map_append, List.mem_append, List.mem_append, h.mem_iff]
    rfl
  · rcases List.mem_append.mp hp with hp | hp
    · have hne : key a ≠ p.1 := fun hkey =>
        ha (hkey ▸ (h.mem_iff _).mp (List.mem_map_of_mem hp))
      rw [filter_concat_of_ne hne]
      exact h.content p hp
    · obtain rfl := List.mem_singleton.mp hp
      rw [filter_concat_of_eq rfl, hnone]
      rfl
  · simp

/-- What one item preserves, when its key has not been left before. -/
lemma Gathers.add (h : Gathers key insert fresh l G) (hc : Contiguous ((l ++ [a]).map key)) :
    Gathers key insert fresh (l ++ [a]) (G.add key insert fresh a) := by
  rw [List.map_append] at hc
  have hnew : G.current.map Prod.fst ≠ some (key a) → key a ∉ l.map key := by
    intro hcurrent hmem
    rw [h.current] at hcurrent
    exact hcurrent (hc.getLast?_eq hmem)
  rw [Groups.add]
  split
  · next k b hG =>
    split
    · next hk =>
      subst hk
      exact h.insert_current hG
    · next hk => exact h.insert_fresh (hnew (by simpa [hG] using hk))
  · next hG => exact h.insert_fresh (hnew (by simp [hG]))

/-- **The pass gathers a list whose equal keys stand together.** -/
theorem gathers_foldl (hc : Contiguous (l.map key)) :
    Gathers key insert fresh l (l.foldl (Groups.add key insert fresh) start) := by
  induction l using List.reverseRecOn with
  | nil => exact gathers_start
  | append_singleton l a ih =>
    rw [List.foldl_concat]
    exact (ih (hc.sublist ((List.sublist_append_left l [a]).map key))).add hc

end Groups

end XappPortal.Lib
