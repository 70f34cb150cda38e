/-
# Bindings

A binding ties a property of an object to a key of a settings store.  Changes that others make of
the key are notified some time later, and the property then takes the value that the key has; a new
value of the property is written to the key at once, unless the key is locked.

A property shows what its key holds, or a notification for the key is in flight, throughout a run
exactly if no property of a locked key is set to another value without such a notification
(`Bindings.inSync_iff`).  A property without a binding only changes when it is set
(`Bindings.run_props_of_unbound`).
-/
import Mathlib.Data.List.Nodup
import Mathlib.Logic.Function.Basic
import XappPortal.Lib.Machine

namespace XappPortal.Lib

/-- A binding of a property `π` to a key `κ`, with the mappings between the values `α` of keys and
the values `β` of properties. -/
structure Binding (κ π α β : Type*) where
  key : κ
  property : π
  get : α → β
  set : β → α
  /-- What has been written is shown as it was. -/
  get_set : ∀ v, get (set v) = v

/-- Bindings of different properties to different keys. -/
structure Bindings (κ π α β : Type*) where
  list : List (Binding κ π α β)
  keys : (list.map Binding.key).Nodup
  properties : (list.map Binding.property).Nodup

namespace Bindings

variable {κ π α β : Type*}

/-- The settings, the properties, and the notifications in flight, oldest first. -/
structure State (κ π α β : Type*) where
  store : κ → α
  props : π → β
  changed : List κ

/-- What happens to the settings and the properties. -/
inductive Event (κ π α β : Type*) where
  /-- Somebody else writes a key. -/
  | write (key : κ) (value : α)
  /-- The oldest notification is dispatched. -/
  | notify
  /-- A property is set, whose key can be written or not. -/
  | setProperty (property : π) (value : β) (writable : Bool)

variable [DecidableEq κ] [DecidableEq π] [DecidableEq β] (B : Bindings κ π α β)

/-- A property after the change of a key has been notified. -/
def shown (s : State κ π α β) (key : κ) (property : π) : β :=
  match B.list.find? (·.key = key) with
  | none => s.props property
  | some b => if b.property = property then b.get (s.store key) else s.props property

/-- The handling of an event; to set a property to the value it has is no change. -/
def step (s : State κ π α β) : Event κ π α β → State κ π α β
  | .write key value =>
      { s with store := Function.update s.store key value, changed := s.changed ++ [key] }
  | .notify =>
      match s.changed with
      | [] => s
      | key :: changed => { s with props := B.shown s key, changed := changed }
  | .setProperty property value writable =>
      if value = s.props property then s
      else
        let s := { s with props := Function.update s.props property value }
        match B.list.find? (·.property = property) with
        | none => s
        | some b =>
            if writable then { s with store := Function.update s.store b.key (b.set value) }
            else s

/-- The state in which the bindings have been made: the properties show what their keys hold. -/
def initial (store : κ → α) (props : π → β) : State κ π α β where
  store := store
  props property :=
    match B.list.find? (·.property = property) with
    | none => props property
    | some b => b.get (store b.key)
  changed := []

/-- The bindings as a machine. -/
def machine (store : κ → α) (props : π → β) : Machine (State κ π α β) (Event κ π α β) where
  init := B.initial store props
  step := B.step

/-- The properties show what their keys hold, or are about to. -/
def InSync (s : State κ π α β) : Prop :=
  ∀ b ∈ B.list, s.props b.property = b.get (s.store b.key) ∨ b.key ∈ s.changed

/-- A property is only set to a value that its key can take, has already, or is about to show. -/
def Honoured (s : State κ π α β) : Event κ π α β → Prop
  | .setProperty property value writable =>
      writable = true ∨ value = s.props property ∨
        ∀ b ∈ B.list, b.property = property → value = b.get (s.store b.key) ∨ b.key ∈ s.changed
  | .write _ _ | .notify => True

/-! ## Looking bindings up -/

lemma find?_eq_of_nodup {γ δ : Type*} [DecidableEq δ] {f : γ → δ} {l : List γ}
    (hnodup : (l.map f).Nodup) {a : γ} (ha : a ∈ l) : l.find? (fun x => f x = f a) = some a := by
  cases hfind : l.find? (fun x => f x = f a) with
  | none => simpa using List.find?_eq_none.mp hfind a ha
  | some x =>
    have hx : f x = f a := by simpa using List.find?_some hfind
    rw [List.inj_on_of_nodup_map hnodup (List.mem_of_find?_eq_some hfind) ha hx]

variable {B} {s : State κ π α β} {b c : Binding κ π α β}

omit [DecidableEq β] in
/-- The notification of a key shows what it holds. -/
lemma shown_of_key (hb : b ∈ B.list) :
    B.shown s b.key b.property = b.get (s.store b.key) := by
  simp only [shown, find?_eq_of_nodup B.keys hb, if_true]

omit [DecidableEq β] in
/-- The notification of a key leaves the properties of other keys alone. -/
lemma shown_of_ne {key : κ} (hb : b ∈ B.list) (hne : b.key ≠ key) :
    B.shown s key b.property = s.props b.property := by
  cases hfind : B.list.find? (·.key = key) with
  | none => simp only [shown, hfind]
  | some c =>
    have hckey : c.key = key := by simpa using List.find?_some hfind
    have hproperty : c.property ≠ b.property := by
      intro heq
      rw [List.inj_on_of_nodup_map B.properties (List.mem_of_find?_eq_some hfind) hb heq] at hckey
      exact hne hckey
    simp only [shown, hfind, if_neg hproperty]

/-! ## One event -/

lemma inSync_write (h : B.InSync s) (key : κ) (value : α) :
    B.InSync (B.step s (.write key value)) := by
  intro b hb
  rcases eq_or_ne b.key key with heq | hne
  · exact Or.inr (List.mem_append_right _ (List.mem_singleton.mpr heq))
  · rcases h b hb with hsame | hmem
    · left
      show s.props b.property = b.get (Function.update s.store key value b.key)
      rw [Function.update_of_ne hne]
      exact hsame
    · exact Or.inr (List.mem_append_left _ hmem)

lemma inSync_notify (h : B.InSync s) : B.InSync (B.step s .notify) := by
  rw [step]
  split
  · exact h
  · next key changed hchanged =>
    intro b hb
    rcases eq_or_ne b.key key with rfl | hne
    · exact Or.inl (shown_of_key hb)
    · rcases h b hb with hsame | hmem
      · exact Or.inl ((shown_of_ne hb hne).trans hsame)
      · rw [hchanged] at hmem
        exact Or.inr ((List.mem_cons.mp hmem).resolve_left hne)

/-- Setting a property of a binding to another value than it has. -/
lemma step_setProperty (hb : b ∈ B.list) {value : β} (hne : value ≠ s.props b.property)
    (writable : Bool) :
    B.step s (.setProperty b.property value writable) =
      if writable then
        { s with
          store := Function.update s.store b.key (b.set value)
          props := Function.update s.props b.property value }
      else { s with props := Function.update s.props b.property value } := by
  simp only [step, if_neg hne, find?_eq_of_nodup B.properties hb]

lemma inSync_setProperty (h : B.InSync s) {property : π} {value : β} {writable : Bool}
    (hhonoured : B.Honoured s (.setProperty property value writable)) :
    B.InSync (B.step s (.setProperty property value writable)) := by
  by_cases hvalue : value = s.props property
  · rw [step, if_pos hvalue]
    exact h
  · -- the other properties stay, and so do their keys
    have hother : ∀ c ∈ B.list, c.property ≠ property →
        Function.update s.props property value c.property = c.get (s.store c.key) ∨
          c.key ∈ s.changed := by
      intro c hc hne
      rw [Function.update_of_ne hne]
      exact h c hc
    cases hfind : B.list.find? (·.property = property) with
    | none =>
      intro c hc
      have hne : c.property ≠ property := by
        simpa using List.find?_eq_none.mp hfind c hc
      simp only [step, if_neg hvalue, hfind]
      exact hother c hc hne
    | some b =>
      have hb : b ∈ B.list := List.mem_of_find?_eq_some hfind
      obtain rfl : b.property = property := by simpa using List.find?_some hfind
      rw [step_setProperty hb hvalue]
      intro c hc
      by_cases hcb : c.property = b.property
      · obtain rfl := List.inj_on_of_nodup_map B.properties hc hb hcb
        cases writable with
        | true =>
          left
          show Function.update s.props c.property value c.property
            = c.get (Function.update s.store c.key (c.set value) c.key)
          rw [Function.update_self, Function.update_self, c.get_set]
        | false =>
          have hset : value = c.get (s.store c.key) ∨ c.key ∈ s.changed := by
            rcases hhonoured with hw | hsame | hall
            · exact absurd hw (by simp)
            · exact absurd hsame hvalue
            · exact hall c hc rfl
          rcases hset with hset | hmem
          · exact Or.inl ((Function.update_self ..).trans hset)
          · exact Or.inr hmem
      · have hkey : c.key ≠ b.key := by
          intro heq
          exact hcb (congrArg _ (List.inj_on_of_nodup_map B.keys hc hb heq))
        cases writable with
        | true =>
          rcases hother c hc hcb with hsame | hmem
          · left
            show _ = c.get (Function.update s.store b.key (b.set value) c.key)
            rw [Function.update_of_ne hkey]
            exact hsame
          · exact Or.inr hmem
        | false => exact hother c hc hcb

/-- A value that is not written stays as something that the key does not hold. -/
lemma not_inSync_setProperty {property : π} {value : β} {writable : Bool}
    (h : ¬ B.Honoured s (.setProperty property value writable)) :
    ¬ B.InSync (B.step s (.setProperty property value writable)) := by
  simp only [Honoured, not_or, not_forall, exists_prop] at h
  obtain ⟨hwritable, hvalue, b, hb, rfl, hget, hmem⟩ := h
  intro hsync
  rw [step_setProperty hb hvalue, if_neg hwritable] at hsync
  rcases hsync b hb with hsame | hchanged
  · exact hget ((Function.update_self ..).symm.trans hsame)
  · exact hmem hchanged

/-! ## All events -/

omit [DecidableEq κ] [DecidableEq β] in
lemma inSync_initial (store : κ → α) (props : π → β) : B.InSync (B.initial store props) := by
  intro b hb
  left
  simp only [initial, find?_eq_of_nodup B.properties hb]

/-- **When bindings stay in sync.** -/
theorem inSync_iff (store : κ → α) (props : π → β) (evs : List (Event κ π α β)) :
    (∀ pre, pre <+: evs → B.InSync ((B.machine store props).run pre)) ↔
      (B.machine store props).Along B.Honoured (B.machine store props).init evs := by
  refine Machine.forall_prefix_iff_along B.InSync B.InSync (fun _ => True)
    (inSync_initial store props) (fun _ h => h) (fun s e _ h he => ?_) (fun s e _ _ he => ?_)
    fun _ _ => trivial
  · cases e with
    | write key value => exact inSync_write h key value
    | notify => exact inSync_notify h
    | setProperty property value writable => exact inSync_setProperty h he
  · cases e with
    | write key value => exact absurd trivial he
    | notify => exact absurd trivial he
    | setProperty property value writable => exact not_inSync_setProperty he

/-! ## Properties without a binding -/

lemma step_props_of_unbound {property : π} (hunbound : property ∉ B.list.map Binding.property)
    {e : Event κ π α β} (he : ∀ value writable, e ≠ .setProperty property value writable) :
    (B.step s e).props property = s.props property := by
  cases e with
  | write key value => rfl
  | notify =>
    rw [step]
    split
    · rfl
    · next key changed hchanged =>
      show B.shown s key property = s.props property
      rw [shown]
      split
      · rfl
      · next b hfind =>
        refine if_neg ?_
        rintro rfl
        exact hunbound (List.mem_map_of_mem (List.mem_of_find?_eq_some hfind))
  | setProperty other value writable =>
    have hne : property ≠ other := by
      rintro rfl
      exact he value writable rfl
    have hprops : Function.update s.props other value property = s.props property :=
      Function.update_of_ne hne ..
    rw [step]
    split
    · rfl
    · dsimp only
      split
      · exact hprops
      · split <;> exact hprops

/-- A property without a binding keeps its value until it is set. -/
theorem run_props_of_unbound {property : π} (hunbound : property ∉ B.list.map Binding.property)
    (store : κ → α) (props : π → β) {evs : List (Event κ π α β)}
    (hevs : ∀ e ∈ evs, ∀ value writable, e ≠ .setProperty property value writable) :
    ((B.machine store props).run evs).props property = props property := by
  induction evs using List.reverseRecOn with
  | nil =>
    show (B.initial store props).props property = props property
    have hfind : B.list.find? (·.property = property) = none := by
      refine List.find?_eq_none.mpr fun b hb => ?_
      have hne : b.property ≠ property := fun heq => hunbound (heq ▸ List.mem_map_of_mem hb)
      simpa using hne
    simp only [initial, hfind]
  | append_singleton evs e ih =>
    rw [Machine.run_concat]
    have he := hevs e (List.mem_append_right _ (List.mem_singleton_self e))
    exact (step_props_of_unbound hunbound he).trans
      (ih fun e' he' => hevs e' (List.mem_append_left _ he'))

end Bindings

end XappPortal.Lib
