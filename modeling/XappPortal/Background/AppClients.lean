/-
# Clients of the application states

A client asks for the application states, and asks again when it is told that the running
applications have changed.  The portal tells it so once for each `RunningAppsChanged` of Cinnamon,
and whatever happens in the meantime, a client that has asked after it was last told has Cinnamon's
current states unless it is about to be told again (`appClient_view`).
-/
import Mathlib.Algebra.Group.Nat.Defs
import XappPortal.Background.AppState

namespace XappPortal.Background

open XappPortal.Lib

/-- What a client of `GetAppState` and `RunningApplicationsChanged` knows. -/
structure AppClient (α : Type*) where
  /-- The states it was last given. -/
  view : Option α
  /-- It has been told that they have changed. -/
  outdated : Bool
  /-- How often it has been told so. -/
  told : ℕ
deriving DecidableEq, Repr

variable {α : Type*}

/-- The client receives a message of the portal. -/
def AppClient.receive (c : AppClient α) : Message α → AppClient α
  | .completeGetAppState states => { c with view := some states, outdated := false }
  | .error _ => c
  | .runningApplicationsChanged => { c with outdated := true, told := c.told + 1 }

/-- The application states together with a client. -/
def appClient (mode : String) (states : α) : Machine (AppStates α × AppClient α) (AppEvent α) :=
  (appStates mode states).observe ⟨none, false, 0⟩ fun c _ _ s => s.sent.foldl AppClient.receive c

/-- Cinnamon emits a `RunningAppsChanged`. -/
def AppEvent.announces : AppEvent α → Bool
  | .change _ => true
  | .emit signalName => signalName = runningAppsChanged
  | _ => false

/-- The invalidations in flight. -/
def AppStates.invalidations (s : AppStates α) : ℕ := s.signals.count runningAppsChanged

/-! ## One event -/

/-- What an event does to the signals, and what the client is told: that the states have changed,
for an invalidation that leaves the queue; or else nothing of that kind, and what was fresh is. -/
inductive Tells (s s' : AppStates α) (announced : Bool) : Prop
  | changed (hsent : s'.sent = [.runningApplicationsChanged])
      (hcount : s'.invalidations + 1 = s.invalidations) (hannounced : announced = false)
  | other (hsent : s'.sent = [] ∨ (∃ text, s'.sent = [.error text]) ∨
        ∃ states, s'.sent = [.completeGetAppState states])
      (hcount : s'.invalidations = s.invalidations + if announced then 1 else 0)
      (hfresh : ∀ v, Fresh s v → Fresh s' v)

section Step

variable {mode : String} {s : AppStates α}

lemma tells_complete (s : AppStates α) : Tells s (completeGetAppState s) false := by
  rw [completeGetAppState]
  split
  · exact .other (Or.inr (Or.inl ⟨_, rfl⟩)) rfl fun _ h => h
  · exact .other (Or.inr (Or.inr ⟨_, rfl⟩)) rfl fun _ h => h

lemma tells_enqueue (hsent : s.sent = []) {states : α} {signalName : String}
    (hsignal : states = s.current ∨ signalName = runningAppsChanged) :
    Tells s { s with current := states, signals := s.signals ++ [signalName] }
      (signalName = runningAppsChanged) := by
  refine .other (Or.inl hsent) ?_ fun v hv => ?_
  · show (s.signals ++ [signalName]).count runningAppsChanged = _
    rw [List.count_append, List.count_singleton]
    simp [AppStates.invalidations]
  · rcases hv with rfl | hmem
    · rcases hsignal with rfl | rfl
      · exact Or.inl rfl
      · exact Or.inr (List.mem_append_right _ (List.mem_singleton_self _))
    · exact Or.inr (List.mem_append_left _ hmem)

/-- The client is told of each invalidation that leaves the queue. -/
lemma tells_deliver (hmode : cinnamonMode mode = true) (hsent : s.sent = []) :
    Tells s (appStep mode s .deliver) false := by
  rw [appStep]
  split
  · next signalName signals hfetch hsignals =>
    rw [if_pos hmode, onCinnamonSignal]
    split
    · next hname =>
      refine .changed rfl ?_ rfl
      rw [AppStates.invalidations, AppStates.invalidations, hsignals, hname, List.count_cons_self]
    · next hname =>
      refine .other (Or.inl hsent) ?_ fun v hv => ?_
      · rw [AppStates.invalidations, AppStates.invalidations, hsignals, List.count_cons_of_ne hname]
        rfl
      · rcases hv with hcurrent | hmem
        · exact Or.inl hcurrent
        · rw [hsignals] at hmem
          exact Or.inr ((List.mem_cons.mp hmem).resolve_left (Ne.symm hname))
  · exact .other (Or.inl hsent) rfl fun _ h => h

lemma tells_appStep (hmode : cinnamonMode mode = true) (hsent : s.sent = []) (e : AppEvent α) :
    Tells s (appStep mode s e) e.announces := by
  have hstay : Tells s s false := .other (Or.inl hsent) rfl fun _ h => h
  cases e with
  | change states => exact tells_enqueue hsent (Or.inr rfl)
  | emit signalName => exact tells_enqueue hsent (Or.inl rfl)
  | deliver => exact tells_deliver hmode hsent
  | getAppState =>
    rw [appStep]
    split
    · rw [handleGetAppState, if_neg (by simp [hmode])]
      split
      · exact .other (Or.inl hsent) rfl fun _ h => h
      · exact tells_complete s
    · exact hstay
  | answer ok =>
    rw [appStep]
    split
    · exact .other (Or.inl hsent) rfl fun _ h => h
    · exact hstay
  | returned =>
    rw [appStep]
    split
    · next states _ =>
      have htells := tells_complete { s with appState := states, fetch := .none }
      cases htells with
      | changed hsent' hcount hannounced => exact .changed hsent' hcount hannounced
      | other hsent' hcount hfresh => exact .other hsent' hcount hfresh
    · exact hstay

end Step

lemma appInv_init (mode : String) (states : α) : AppInv mode (appStates mode states).init :=
  ⟨⟨fun _ hs => (by cases hs), fun _ => rfl, fun _ hs => (by cases hs),
    fun _ hmem => absurd hmem List.not_mem_nil⟩, fun _ => ⟨rfl, rfl⟩⟩

/-- Outside Cinnamon mode no states are given. -/
lemma not_completeGetAppState {mode : String} {s : AppStates α} (hmode : cinnamonMode mode = false)
    (h : AppInv mode s) (hsent : s.sent = []) (e : AppEvent α) (states : α) :
    .completeGetAppState states ∉ (appStep mode s e).sent := by
  obtain ⟨-, hfetch⟩ := h.unused hmode
  cases e with
  | change _ => simp [appStep, hsent]
  | emit _ => simp [appStep, hsent]
  | deliver =>
    cases hsignals : s.signals <;> simp [appStep, hfetch, hsignals, hmode, hsent]
  | getAppState => simp [appStep, hfetch, handleGetAppState, hmode]
  | answer _ => simp [appStep, hfetch, hsent]
  | returned => simp [appStep, hfetch, hsent]

/-! ## All events -/

/-- What holds of the portal and the client after any events. -/
structure InView (mode : String) (p : AppStates α × AppClient α) (announced : ℕ) : Prop where
  inv : AppInv mode p.1
  view : ∀ v, p.2.view = some v → p.2.outdated = false → Fresh p.1 v
  told : cinnamonMode mode = true → p.2.told + p.1.invalidations = announced
  unused : cinnamonMode mode = false → p.2.view = none

section Step

variable {mode : String} {p : AppStates α × AppClient α} {announced : ℕ}

lemma inView_cinnamon (hmode : cinnamonMode mode = true) (h : InView mode p announced)
    (e : AppEvent α) :
    let s := appStep mode { p.1 with sent := [] } e
    InView mode (s, s.sent.foldl AppClient.receive p.2)
      (announced + if e.announces then 1 else 0) := by
  intro s
  have hinv : AppInv mode s := appInv_step p.1 e h.inv
  have hunused : ∀ c : AppClient α, cinnamonMode mode = false → c.view = none :=
    fun _ hm => absurd (hmode.symm.trans hm) (by simp)
  have htells : Tells { p.1 with sent := [] } s e.announces := tells_appStep hmode rfl e
  have htold := h.told hmode
  cases htells with
  | changed hsent hcount hannounced =>
    rw [hsent]
    refine ⟨hinv, fun v _ hcurrent => absurd hcurrent (by simp [AppClient.receive]), fun _ => ?_,
      hunused _⟩
    have hcount' : s.invalidations + 1 = p.1.invalidations := hcount
    rw [hannounced]
    simp only [List.foldl_cons, List.foldl_nil, AppClient.receive, Bool.false_eq_true, if_false]
    omega
  | other hsent hcount hfresh =>
    have hcount' : s.invalidations = p.1.invalidations + if e.announces then 1 else 0 := hcount
    -- nothing that is told here makes an outdated view of a current one
    have hview : ∀ c : AppClient α, c.told = p.2.told →
        (∀ v, c.view = some v → c.outdated = false → Fresh s v) →
        InView mode (s, c) (announced + if e.announces then 1 else 0) := by
      intro c hc hv
      refine ⟨hinv, hv, fun _ => ?_, hunused _⟩
      show c.told + s.invalidations = _
      omega
    rcases hsent with hsent | ⟨text, hsent⟩ | ⟨states, hsent⟩
    · rw [hsent]
      exact hview p.2 rfl fun v hv hcurrent => hfresh v (h.view v hv hcurrent)
    · rw [hsent]
      exact hview p.2 rfl fun v hv hcurrent => hfresh v (h.view v hv hcurrent)
    · have hreplied := hinv.coherent.replied states (by rw [hsent]; exact List.mem_singleton_self _)
      rw [hsent]
      refine hview _ rfl fun v hv _ => ?_
      obtain rfl := Option.some.inj hv
      exact hreplied

lemma inView_other (hmode : cinnamonMode mode = false) (h : InView mode p announced)
    (e : AppEvent α) :
    let s := appStep mode { p.1 with sent := [] } e
    InView mode (s, s.sent.foldl AppClient.receive p.2)
      (announced + if e.announces then 1 else 0) := by
  intro s
  have hclear : AppInv mode { p.1 with sent := [] } := ⟨h.inv.coherent.clearSent, h.inv.unused⟩
  have hnone : ∀ (out : List (Message α)) (c : AppClient α), c.view = none →
      (∀ states, .completeGetAppState states ∉ out) →
      (out.foldl AppClient.receive c).view = none := by
    intro out
    induction out with
    | nil => exact fun _ hc _ => hc
    | cons m out ih =>
      intro c hc hm
      refine ih _ ?_ fun states hmem => hm states (List.mem_cons_of_mem _ hmem)
      cases m with
      | completeGetAppState states => exact absurd (List.mem_cons_self ..) (hm states)
      | error text => exact hc
      | runningApplicationsChanged => exact hc
  have hview : (s.sent.foldl AppClient.receive p.2).view = none :=
    hnone _ _ (h.unused hmode) fun states => not_completeGetAppState hmode hclear rfl e states
  refine ⟨appInv_step p.1 e h.inv, fun v hv _ => ?_,
    fun hm => absurd (hmode.symm.trans hm) (by simp), fun _ => hview⟩
  rw [hview] at hv
  cases hv

end Step

lemma inView_run (mode : String) (states : α) (evs : List (AppEvent α)) :
    InView mode ((appClient mode states).run evs) (evs.countP AppEvent.announces) := by
  induction evs using List.reverseRecOn with
  | nil =>
    refine ⟨appInv_init mode states, fun v hv => ?_, fun _ => rfl, fun _ => rfl⟩
    cases hv
  | append_singleton evs e ih =>
    rw [Machine.run_concat, List.countP_append, List.countP_singleton]
    cases hmode : cinnamonMode mode with
    | true => exact inView_cinnamon hmode ih e
    | false => exact inView_other hmode ih e

/-- **A client that has asked since it was last told is up to date**, unless it is about to be told
again; and it is told once for each change, so after as many tellings as there were changes it has
what Cinnamon has. -/
theorem appClient_view (mode : String) (states : α) (evs : List (AppEvent α)) :
    let p := (appClient mode states).run evs
    (∀ v, p.2.view = some v → p.2.outdated = false →
      v = p.1.current ∨ runningAppsChanged ∈ p.1.signals) ∧
    (cinnamonMode mode = true →
      p.2.told + p.1.signals.count runningAppsChanged = evs.countP AppEvent.announces) ∧
    (p.2.told = evs.countP AppEvent.announces → ∀ v, p.2.view = some v → p.2.outdated = false →
      v = p.1.current) := by
  intro p
  have hrun : InView mode p (evs.countP AppEvent.announces) := inView_run mode states evs
  refine ⟨hrun.view, hrun.told, fun hall v hv hcurrent => ?_⟩
  rcases hrun.view v hv hcurrent with hnow | hmem
  · exact hnow
  · cases hmode : cinnamonMode mode with
    | false =>
      rw [hrun.unused hmode] at hv
      cases hv
    | true =>
      -- all the invalidations have been delivered
      have htold := hrun.told hmode
      have hpos : 0 < p.1.invalidations := List.count_pos_iff.mpr hmem
      omega

end XappPortal.Background
