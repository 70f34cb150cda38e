/-
# The cache of application states

The half of `background.c` that serves `GetAppState`.  The states of the running applications are
fetched from Cinnamon by a synchronous call and kept until Cinnamon's `RunningAppsChanged` arrives.
Cinnamon changes its states at any time, emitting the signal with each change; the signals are
dispatched in order, but by the main loop, which stands still while a call is waited for.

Whatever the order, a cached state that is not Cinnamon's current one has an invalidation on its
way (`appState_coherent`).
-/
import XappPortal.Lib.Machine
import XappPortal.Utils

namespace XappPortal.Background

open XappPortal.Lib

/-! ## The portal and Cinnamon -/

/-- What the portal sends. -/
inductive Message (α : Type*) where
  /-- `xdp_impl_background_complete_get_app_state`. -/
  | completeGetAppState (states : α)
  /-- `g_dbus_method_invocation_return_error`. -/
  | error (text : String)
  /-- `xdp_impl_background_emit_running_applications_changed`. -/
  | runningApplicationsChanged
deriving DecidableEq, Repr

/-- The synchronous `GetAppStates` call to Cinnamon. -/
inductive Fetch (α : Type*) where
  | none
  | asked
  /-- Cinnamon has answered, with its states or an error, and the answer is on its way. -/
  | answered (states : Option α)
deriving DecidableEq, Repr

/-- Cinnamon, the bus and the portal. -/
structure AppStates (α : Type*) where
  /-- Cinnamon's application states. -/
  current : α
  /-- The signals of Cinnamon in flight, oldest first. -/
  signals : List String
  /-- The global `app_state`. -/
  appState : Option α
  fetch : Fetch α
  /-- What the portal sent at the last event. -/
  sent : List (Message α)
deriving DecidableEq, Repr

variable {α : Type*}

/-- The signal that invalidates the cache. -/
def runningAppsChanged : String := "RunningAppsChanged"

/-- `on_cinnamon_signal`. -/
def onCinnamonSignal (signalName : String) (s : AppStates α) : AppStates α :=
  if signalName = runningAppsChanged then
    { s with appState := none, sent := [.runningApplicationsChanged] }
  else s

/-- The end of `handle_get_app_state`, after `get_app_state` where that was called. -/
def completeGetAppState (s : AppStates α) : AppStates α :=
  match s.appState with
  | none => { s with sent := [.error "Could not get window list"] }
  | some states => { s with sent := [.completeGetAppState states] }

/-- `handle_get_app_state`, up to the call in `get_app_state` if it gets there. -/
def handleGetAppState (mode : String) (s : AppStates α) : AppStates α :=
  if !cinnamonMode mode then
    { s with sent := [.error "GetAppState currently only supported in Cinnamon"] }
  else if s.appState.isNone then { s with fetch := .asked }
  else completeGetAppState s

/-- `handle_get_app_state` from the return of `get_app_state` on. -/
def returnGetAppState (states : Option α) (s : AppStates α) : AppStates α :=
  completeGetAppState { s with appState := states, fetch := .none }

/-- What happens in Cinnamon, on the bus and in the main loop. -/
inductive AppEvent (α : Type*) where
  /-- Cinnamon changes its states and emits `RunningAppsChanged`. -/
  | change (states : α)
  /-- Cinnamon emits some other signal. -/
  | emit (signalName : String)
  /-- The main loop dispatches the oldest signal. -/
  | deliver
  /-- The main loop dispatches a `GetAppState` call. -/
  | getAppState
  /-- Cinnamon answers the `GetAppStates` call, or the call fails. -/
  | answer (ok : Bool)
  /-- The synchronous call returns. -/
  | returned
deriving DecidableEq, Repr

/-- The reaction to an event.  The main loop dispatches nothing while a call is waited for; and
signals of Cinnamon are only listened to in Cinnamon mode. -/
def appStep (mode : String) (s : AppStates α) : AppEvent α → AppStates α
  | .change states => { s with current := states, signals := s.signals ++ [runningAppsChanged] }
  | .emit signalName => { s with signals := s.signals ++ [signalName] }
  | .deliver =>
      match s.fetch, s.signals with
      | .none, signalName :: signals =>
          let s := { s with signals := signals }
          if cinnamonMode mode then onCinnamonSignal signalName s else s
      | _, _ => s
  | .getAppState =>
      match s.fetch with
      | .none => handleGetAppState mode s
      | _ => s
  | .answer ok =>
      match s.fetch with
      | .asked => { s with fetch := .answered (if ok then some s.current else none) }
      | _ => s
  | .returned =>
      match s.fetch with
      | .answered states => returnGetAppState states s
      | _ => s

/-- The application states as a machine. -/
def appStates (mode : String) (states : α) : Machine (AppStates α) (AppEvent α) where
  init := ⟨states, [], none, .none, []⟩
  step s e := appStep mode { s with sent := [] } e

/-! ## Coherence -/

/-- A value is what Cinnamon has now, or an invalidation is on its way. -/
def Fresh (s : AppStates α) (states : α) : Prop :=
  states = s.current ∨ runningAppsChanged ∈ s.signals

/-- What is cached or on its way from Cinnamon is fresh; nothing is cached while a call is waited
for; and what was replied at the last event is fresh. -/
structure Coherent (s : AppStates α) : Prop where
  cached : ∀ states, s.appState = some states → Fresh s states
  fetching : s.fetch ≠ .none → s.appState = none
  answered : ∀ states, s.fetch = .answered (some states) → Fresh s states
  replied : ∀ states, .completeGetAppState states ∈ s.sent → Fresh s states

namespace Coherent

variable {mode : String} {s s' : AppStates α}

lemma clearSent (h : Coherent s) : Coherent { s with sent := [] } :=
  ⟨h.cached, h.fetching, h.answered, fun _ hmem => absurd hmem List.not_mem_nil⟩

/-- A reply with what is cached. -/
lemma complete (hcached : ∀ states, s.appState = some states → Fresh s states)
    (hfetch : s.fetch = .none) : Coherent (completeGetAppState s) := by
  rw [completeGetAppState]
  split
  · next hnone =>
    refine ⟨fun states hs => ?_, fun hf => absurd hfetch hf, fun states hs => ?_,
      fun states hmem => absurd (List.mem_singleton.mp hmem) (by simp)⟩
    · exact hcached states hs
    · rw [hfetch] at hs
      exact absurd hs (by simp)
  · next cached hsome =>
    refine ⟨fun states hs => hcached states hs, fun hf => absurd hfetch hf, fun states hs => ?_,
      fun states hmem => ?_⟩
    · rw [hfetch] at hs
      exact absurd hs (by simp)
    · obtain rfl := Message.completeGetAppState.inj (List.mem_singleton.mp hmem)
      exact hcached states hsome

/-- Cinnamon changes its states or emits a signal: what was fresh still is. -/
lemma enqueue (h : Coherent s) {states : α} {signalName : String}
    (hsignal : states = s.current ∨ signalName = runningAppsChanged) :
    Coherent { s with current := states, signals := s.signals ++ [signalName] } := by
  have hfresh : ∀ v, Fresh s v →
      Fresh { s with current := states, signals := s.signals ++ [signalName] } v := by
    rintro v (rfl | hmem)
    · rcases hsignal with rfl | rfl
      · exact Or.inl rfl
      · exact Or.inr (List.mem_append_right _ (List.mem_singleton_self _))
    · exact Or.inr (List.mem_append_left _ hmem)
  exact ⟨fun v hv => hfresh v (h.cached v hv), h.fetching, fun v hv => hfresh v (h.answered v hv),
    fun v hv => hfresh v (h.replied v hv)⟩

/-- Dispatching the oldest signal: an invalidation that leaves the queue clears the cache. -/
lemma deliver (h : Coherent s) (hsent : s.sent = []) (hfetch : s.fetch = .none)
    {signalName : String} {signals : List String} (hsignals : s.signals = signalName :: signals) :
    Coherent (onCinnamonSignal signalName { s with signals := signals }) := by
  have hanswered : ∀ states, s.fetch ≠ .answered (some states) := by
    intro states hs
    rw [hfetch] at hs
    exact absurd hs (by simp)
  rw [onCinnamonSignal]
  split
  · exact ⟨fun _ hs => absurd hs (by simp), fun _ => rfl, fun v hv => absurd hv (hanswered v),
      fun _ hmem => absurd (List.mem_singleton.mp hmem) (by simp)⟩
  · next hother =>
    refine ⟨fun v hv => ?_, h.fetching, fun v hv => absurd hv (hanswered v), fun v hv => ?_⟩
    · rcases h.cached v hv with hcurrent | hmem
      · exact Or.inl hcurrent
      · rw [hsignals] at hmem
        exact Or.inr ((List.mem_cons.mp hmem).resolve_left (Ne.symm hother))
    · have hv' : .completeGetAppState v ∈ s.sent := hv
      rw [hsent] at hv'
      exact absurd hv' List.not_mem_nil

/-- Cinnamon answers with what it has at that moment. -/
lemma answer (h : Coherent s) (hfetch : s.fetch = .asked) (ok : Bool) :
    Coherent { s with fetch := .answered (if ok then some s.current else none) } := by
  refine ⟨h.cached, fun _ => h.fetching (by rw [hfetch]; simp), fun v hv => ?_, h.replied⟩
  cases ok with
  | true => exact Or.inl (Option.some.inj (Fetch.answered.inj hv)).symm
  | false => exact absurd (Fetch.answered.inj hv) (by simp)

/-- The call returns: what has been on its way is cached and replied. -/
lemma returned (h : Coherent s) {states : Option α} (hfetch : s.fetch = .answered states) :
    Coherent (returnGetAppState states s) := by
  refine complete (fun v hv => ?_) rfl
  have hv' : states = some v := hv
  exact h.answered v (by rw [hfetch, hv'])

end Coherent

/-- The invariant of the runs: outside Cinnamon mode nothing is ever cached. -/
structure AppInv (mode : String) (s : AppStates α) : Prop where
  coherent : Coherent s
  unused : cinnamonMode mode = false → s.appState = none ∧ s.fetch = .none

section Step

variable {mode : String} {s : AppStates α}

lemma completeGetAppState_eq (s : AppStates α) :
    (completeGetAppState s).appState = s.appState ∧ (completeGetAppState s).fetch = s.fetch := by
  rw [completeGetAppState]
  split <;> exact ⟨rfl, rfl⟩

lemma appInv_deliver (h : AppInv mode s) (hsent : s.sent = []) :
    AppInv mode (appStep mode s .deliver) := by
  rw [appStep]
  split
  · next signalName signals hfetch hsignals =>
    cases hmode : cinnamonMode mode with
    | true =>
      simp only [if_true]
      exact ⟨h.coherent.deliver hsent hfetch hsignals,
        fun hm => absurd (hmode.symm.trans hm) (by simp)⟩
    | false =>
      -- nothing is cached, so that nothing needs to be invalidated
      obtain ⟨hnone, -⟩ := h.unused hmode
      simp only [Bool.false_eq_true, if_false]
      refine ⟨⟨fun v hv => ?_, fun _ => hnone, fun v hv => ?_, fun v hv => ?_⟩,
        fun _ => ⟨hnone, hfetch⟩⟩
      · exact absurd (hnone.symm.trans hv) (by simp)
      · exact absurd (hfetch.symm.trans hv) (by simp)
      · have hv' : .completeGetAppState v ∈ s.sent := hv
        rw [hsent] at hv'
        exact absurd hv' List.not_mem_nil
  · exact h

lemma appInv_getAppState (h : AppInv mode s) : AppInv mode (appStep mode s .getAppState) := by
  rw [appStep]
  split
  · next hfetch =>
    rw [handleGetAppState]
    cases hmode : cinnamonMode mode with
    | false =>
      exact ⟨⟨h.coherent.cached, h.coherent.fetching, h.coherent.answered,
        fun _ hmem => absurd (List.mem_singleton.mp hmem) (by simp)⟩, h.unused⟩
    | true =>
      have hunused : ∀ s' : AppStates α, cinnamonMode mode = false →
          s'.appState = none ∧ s'.fetch = .none :=
        fun _ hm => absurd (hmode.symm.trans hm) (by simp)
      simp only [Bool.not_true, Bool.false_eq_true, if_false]
      split
      · next hnone =>
        refine ⟨⟨h.coherent.cached, fun _ => by simpa using hnone, fun v hv => absurd hv (by simp),
          h.coherent.replied⟩, hunused _⟩
      · exact ⟨Coherent.complete h.coherent.cached hfetch, hunused _⟩
  · exact h

lemma appInv_step (s : AppStates α) (e : AppEvent α) (h : AppInv mode s) :
    AppInv mode (appStep mode { s with sent := [] } e) := by
  have hclear : AppInv mode { s with sent := [] } := ⟨h.coherent.clearSent, h.unused⟩
  cases e with
  | change states => exact ⟨hclear.coherent.enqueue (Or.inr rfl), h.unused⟩
  | emit signalName => exact ⟨hclear.coherent.enqueue (Or.inl rfl), h.unused⟩
  | deliver => exact appInv_deliver hclear rfl
  | getAppState => exact appInv_getAppState hclear
  | answer ok =>
    rw [appStep]
    split
    · next hfetch =>
      have hmode : cinnamonMode mode = false → s.appState = none ∧ s.fetch = .none := h.unused
      exact ⟨hclear.coherent.answer hfetch ok,
        fun hm => absurd (hfetch.symm.trans (hmode hm).2) (by simp)⟩
    · exact hclear
  | returned =>
    rw [appStep]
    split
    · next states hfetch =>
      have hmode : cinnamonMode mode = false → s.appState = none ∧ s.fetch = .none := h.unused
      exact ⟨hclear.coherent.returned hfetch,
        fun hm => absurd (hfetch.symm.trans (hmode hm).2) (by simp)⟩
    · exact hclear

end Step

/-- A call that fails leaves nothing in the cache. -/
lemma appStep_failed (mode : String) {s : AppStates α} (hfetch : s.fetch = .answered none) :
    (appStep mode s .returned).appState = none := by
  rw [appStep, hfetch]
  exact (completeGetAppState_eq _).1

/-- **The cache is coherent** in every reachable state: what is cached, and what was replied at the
last event, is what Cinnamon has, unless an invalidation is in flight; so with no signal in flight
only Cinnamon's current states are replied, and a call to Cinnamon that fails caches nothing. -/
theorem appState_coherent (mode : String) (states : α) (evs : List (AppEvent α)) :
    let s := (appStates mode states).run evs
    (∀ v, s.appState = some v → v = s.current ∨ runningAppsChanged ∈ s.signals) ∧
    (∀ v, .completeGetAppState v ∈ s.sent → v = s.current ∨ runningAppsChanged ∈ s.signals) ∧
    (s.signals = [] → ∀ v, .completeGetAppState v ∈ s.sent → v = s.current) ∧
    (s.fetch = .answered none → ((appStates mode states).step s .returned).appState = none) := by
  have hinit : AppInv mode (appStates mode states).init :=
    ⟨⟨fun _ hs => absurd hs (by simp [appStates]), fun _ => rfl,
      fun _ hs => absurd hs (by simp [appStates]), fun _ hmem => absurd hmem List.not_mem_nil⟩,
      fun _ => ⟨rfl, rfl⟩⟩
  have hrun : AppInv mode ((appStates mode states).run evs) :=
    Machine.inv_run (P := fun _ _ => True) hinit (fun s e h _ => appInv_step s e h)
      (Machine.along_of_mem fun _ _ _ => trivial)
  refine ⟨hrun.coherent.cached, hrun.coherent.replied, fun hquiet v hv => ?_,
    fun hfailed => appStep_failed mode hfailed⟩
  rcases hrun.coherent.replied v hv with hcurrent | hmem
  · exact hcurrent
  · rw [hquiet] at hmem
    exact absurd hmem List.not_mem_nil

/-- Cinnamon changes its states after it has answered: the outdated reply is cached, and the signal
that is still in flight clears it. -/
example :
    let evs : List (AppEvent ℕ) := [.getAppState, .answer true, .change 1, .returned]
    let s := (appStates "cinnamon" 0).run evs
    let s' := (appStates "cinnamon" 0).run (evs ++ [.deliver])
    s.appState = some 0 ∧ s.current = 1 ∧ s'.appState = none := by
  decide

end XappPortal.Background
