/-
# Machines that react to events

A machine has an initial state and answers every event with a new state; a run is a finite
sequence of events.  This file has what is needed to reason about all the runs of a machine:

* the runs whose steps all meet a condition (`Machine.Along`), and the rule that an invariant
  kept by such steps holds in every state of such a run (`Machine.inv_run`);
* the rule that a property of the states fails exactly when a step breaks the condition
  (`Machine.forall_prefix_iff_along`);
* machines observed by a history variable (`Machine.observe`), which records facts about the
  past without taking part in the run.
-/
import Mathlib.Data.List.Induction
import Mathlib.Tactic.Common

namespace XappPortal.Lib

/-- A machine with states `σ` that reacts to events `ε`. -/
structure Machine (σ ε : Type*) where
  /-- The state before any event. -/
  init : σ
  /-- The reaction to an event. -/
  step : σ → ε → σ

namespace Machine

variable {σ ε γ : Type*} (M : Machine σ ε)

/-- The state reached from `s` by a sequence of events. -/
def runFrom (s : σ) (evs : List ε) : σ := evs.foldl M.step s

/-- The state reached from the initial state. -/
def run (evs : List ε) : σ := M.runFrom M.init evs

@[simp] lemma runFrom_nil (s : σ) : M.runFrom s [] = s := rfl

@[simp] lemma runFrom_cons (s : σ) (e : ε) (evs : List ε) :
    M.runFrom s (e :: evs) = M.runFrom (M.step s e) evs := rfl

lemma runFrom_append (s : σ) (l₁ l₂ : List ε) :
    M.runFrom s (l₁ ++ l₂) = M.runFrom (M.runFrom s l₁) l₂ := List.foldl_append

@[simp] lemma run_nil : M.run [] = M.init := rfl

lemma run_concat (evs : List ε) (e : ε) : M.run (evs ++ [e]) = M.step (M.run evs) e := by
  rw [run, runFrom_append]
  rfl

/-! ## Runs whose steps meet a condition -/

/-- Every step of the run of `evs` from `s` meets the condition `P` on the event and the state
before it. -/
def Along (P : σ → ε → Prop) : σ → List ε → Prop
  | _, [] => True
  | s, e :: evs => P s e ∧ Along P (M.step s e) evs

instance decidableAlong (P : σ → ε → Prop) [∀ s e, Decidable (P s e)] :
    ∀ (s : σ) (evs : List ε), Decidable (M.Along P s evs)
  | _, [] => inferInstanceAs (Decidable True)
  | s, e :: evs => @instDecidableAnd _ _ _ (decidableAlong P (M.step s e) evs)

variable {M} {P : σ → ε → Prop} {s : σ}

lemma along_append {l₁ l₂ : List ε} :
    M.Along P s (l₁ ++ l₂) ↔ M.Along P s l₁ ∧ M.Along P (M.runFrom s l₁) l₂ := by
  induction l₁ generalizing s with
  | nil => simp [Along]
  | cons e l₁ ih => simp [Along, ih, and_assoc]

lemma along_concat {evs : List ε} {e : ε} :
    M.Along P s (evs ++ [e]) ↔ M.Along P s evs ∧ P (M.runFrom s evs) e := by
  simp [along_append, Along]

lemma Along.of_prefix {pre evs : List ε} (h : M.Along P s evs) (hpre : pre <+: evs) :
    M.Along P s pre := by
  obtain ⟨suf, rfl⟩ := hpre
  exact (along_append.mp h).1

lemma along_of_mem {evs : List ε} (h : ∀ e ∈ evs, ∀ s, P s e) : M.Along P s evs := by
  induction evs generalizing s with
  | nil => trivial
  | cons e evs ih =>
      exact ⟨h e (List.mem_cons_self ..) s, ih fun e' he' => h e' (List.mem_cons_of_mem _ he')⟩

/-! ## Invariants -/

/-- An invariant that holds initially and is kept by the steps that meet the condition holds
after every run of such steps. -/
theorem inv_run {I : σ → Prop} (h0 : I M.init) (hstep : ∀ s e, I s → P s e → I (M.step s e))
    {evs : List ε} (h : M.Along P M.init evs) : I (M.run evs) := by
  induction evs using List.reverseRecOn with
  | nil => exact h0
  | append_singleton evs e ih =>
    rw [along_concat] at h
    rw [run_concat]
    exact hstep _ e (ih h.1) h.2

/-- A property of states that follows from an invariant of the steps meeting a condition, and
that any other step breaks, holds throughout a run exactly when all its steps meet the
condition.  The steps of the run may be restricted to those satisfying `A`. -/
theorem forall_prefix_iff_along_of (I Good : σ → Prop) {A : σ → ε → Prop} (h0 : I M.init)
    (hgood : ∀ s, I s → Good s) (hstep : ∀ s e, A s e → I s → P s e → I (M.step s e))
    (hbad : ∀ s e, A s e → I s → ¬ P s e → ¬ Good (M.step s e)) {evs : List ε}
    (hA : M.Along A M.init evs) :
    (∀ pre, pre <+: evs → Good (M.run pre)) ↔ M.Along P M.init evs := by
  have hinv : ∀ pre : List ε, M.Along A M.init pre → M.Along P M.init pre → I (M.run pre) := by
    intro pre
    induction pre using List.reverseRecOn with
    | nil => exact fun _ _ => h0
    | append_singleton pre e ih =>
      intro hA' h
      rw [along_concat] at hA' h
      rw [run_concat]
      exact hstep _ e hA'.2 (ih hA'.1 h.1) h.2
  constructor
  · intro h
    induction evs using List.reverseRecOn with
    | nil => trivial
    | append_singleton evs e ih =>
      have hA' := along_concat.mp hA
      have hevs : M.Along P M.init evs :=
        ih hA'.1 fun pre hpre => h pre (hpre.trans (List.prefix_append evs [e]))
      refine along_concat.mpr ⟨hevs, ?_⟩
      -- the last step would be the first one to break the condition
      by_contra hP
      have hbroken := hbad _ e hA'.2 (hinv evs hA'.1 hevs) hP
      have hrun : M.step (M.runFrom M.init evs) e = M.run (evs ++ [e]) := (run_concat M evs e).symm
      rw [hrun] at hbroken
      exact hbroken (h _ List.prefix_rfl)
  · intro h pre hpre
    exact hgood _ (hinv pre (hA.of_prefix hpre) (h.of_prefix hpre))

/-- The rule for runs of which only the events are restricted. -/
theorem forall_prefix_iff_along (I Good : σ → Prop) (A : ε → Prop) (h0 : I M.init)
    (hgood : ∀ s, I s → Good s) (hstep : ∀ s e, A e → I s → P s e → I (M.step s e))
    (hbad : ∀ s e, A e → I s → ¬ P s e → ¬ Good (M.step s e)) {evs : List ε}
    (hA : ∀ e ∈ evs, A e) :
    (∀ pre, pre <+: evs → Good (M.run pre)) ↔ M.Along P M.init evs :=
  forall_prefix_iff_along_of I Good (A := fun _ e => A e) h0 hgood hstep hbad
    (along_of_mem fun e he _ => hA e he)

/-! ## History variables -/

/-- The machine together with a history variable, updated at each step from the state before,
the event and the state after. -/
def observe (M : Machine σ ε) (g : γ) (upd : γ → σ → ε → σ → γ) : Machine (σ × γ) ε where
  init := (M.init, g)
  step p e := (M.step p.1 e, upd p.2 p.1 e (M.step p.1 e))

variable {g : γ} {upd : γ → σ → ε → σ → γ}

@[simp] lemma observe_init : (M.observe g upd).init = (M.init, g) := rfl

@[simp] lemma observe_step (p : σ × γ) (e : ε) :
    (M.observe g upd).step p e = (M.step p.1 e, upd p.2 p.1 e (M.step p.1 e)) := rfl

/-- Observing a machine does not change its runs. -/
lemma observe_run_fst (evs : List ε) : ((M.observe g upd).run evs).1 = M.run evs := by
  induction evs using List.reverseRecOn with
  | nil => rfl
  | append_singleton evs e ih => rw [run_concat, run_concat, observe_step, ih]

lemma along_observe {evs : List ε} :
    (M.observe g upd).Along (fun p e => P p.1 e) (M.observe g upd).init evs
      ↔ M.Along P M.init evs := by
  induction evs using List.reverseRecOn with
  | nil => exact Iff.rfl
  | append_singleton evs e ih =>
    have hfst : ((M.observe g upd).runFrom (M.observe g upd).init evs).1 = M.runFrom M.init evs :=
      observe_run_fst evs
    rw [along_concat, along_concat, ih, hfst]

end Machine

end XappPortal.Lib
