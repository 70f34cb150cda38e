/-
# Refinement of machines

A machine refines another one when a relation between their states holds initially and is kept by
every step that both make on the same event (`Machine.Refines`).  The steps may be restricted to
those that meet a condition on the state of the refining machine.  Along such a run the states stay
related (`Refines.run`), and two outputs that agree on related states agree event by event
(`Refines.trace_eq`).
-/
import XappPortal.Lib.Machine

namespace XappPortal.Lib.Machine

variable {σ τ ε ω : Type*}

/-! ## Traces -/

/-- The output of the state after each event of a run. -/
def traceFrom (M : Machine σ ε) (out : σ → ω) : σ → List ε → List ω
  | _, [] => []
  | s, e :: evs => out (M.step s e) :: traceFrom M out (M.step s e) evs

/-- The outputs along a run from the initial state. -/
def trace (M : Machine σ ε) (out : σ → ω) (evs : List ε) : List ω := M.traceFrom out M.init evs

@[simp] lemma traceFrom_nil (M : Machine σ ε) (out : σ → ω) (s : σ) :
    M.traceFrom out s [] = [] := rfl

@[simp] lemma traceFrom_cons (M : Machine σ ε) (out : σ → ω) (s : σ) (e : ε) (evs : List ε) :
    M.traceFrom out s (e :: evs) = out (M.step s e) :: M.traceFrom out (M.step s e) evs := rfl

/-! ## Refinement -/

/-- The machine `C` refines the machine `A`: the relation `R` holds initially and is kept by the
steps that meet the condition `P`. -/
structure Refines (C : Machine σ ε) (A : Machine τ ε) (P : σ → ε → Prop) (R : σ → τ → Prop) :
    Prop where
  init : R C.init A.init
  step : ∀ s t e, R s t → P s e → R (C.step s e) (A.step t e)

namespace Refines

variable {C : Machine σ ε} {A : Machine τ ε} {P : σ → ε → Prop} {R : σ → τ → Prop}

/-- Related states stay related. -/
lemma runFrom (h : C.Refines A P R) {s : σ} {t : τ} (hst : R s t) {evs : List ε}
    (hevs : C.Along P s evs) : R (C.runFrom s evs) (A.runFrom t evs) := by
  induction evs generalizing s t with
  | nil => exact hst
  | cons e evs ih => exact ih (h.step s t e hst hevs.1) hevs.2

/-- The states reached by a run are related. -/
theorem run (h : C.Refines A P R) {evs : List ε} (hevs : C.Along P C.init evs) :
    R (C.run evs) (A.run evs) :=
  h.runFrom h.init hevs

lemma traceFrom_eq (h : C.Refines A P R) {out : σ → ω} {out' : τ → ω}
    (hout : ∀ s t, R s t → out s = out' t) {s : σ} {t : τ} (hst : R s t) {evs : List ε}
    (hevs : C.Along P s evs) : C.traceFrom out s evs = A.traceFrom out' t evs := by
  induction evs generalizing s t with
  | nil => rfl
  | cons e evs ih =>
    have hnext := h.step s t e hst hevs.1
    rw [traceFrom_cons, traceFrom_cons, hout _ _ hnext, ih hnext hevs.2]

/-- Outputs that agree on related states agree after every event of a run. -/
theorem trace_eq (h : C.Refines A P R) {out : σ → ω} {out' : τ → ω}
    (hout : ∀ s t, R s t → out s = out' t) {evs : List ε} (hevs : C.Along P C.init evs) :
    C.trace out evs = A.trace out' evs :=
  h.traceFrom_eq hout h.init hevs

end Refines

end XappPortal.Lib.Machine
