/-
# Start-up and the reported screensaver state

`inhibit_init` chooses the backend, asks the screensaver whether it is active, and connects the
handlers.  The answer is kept as object data of the proxy, which nothing reads; the signals report
the global `screensaver_active`, which only `ActiveChanged` sets, and the interface that is declared
for the screensaver of MATE has no such signal.  So the reported state is the real one in the runs
in which nobody is told about the screensaver while it is active and no `ActiveChanged` has been
handled, and in no others (`reportsActive_iff`).

Nothing is assumed about the exports.  What is shown holds in every state of the model; after
`useAfterFree` the model does not say any more what the program does, and neither do the results.
-/
import XappPortal.Utils
import XappPortal.Monitor.Sessions

namespace XappPortal.Monitor

open XappPortal XappPortal.Lib

/-! ## `inhibit_init` -/

/-- What `inhibit_init` finds on the bus. -/
structure Bus where
  /-- `org.gnome.SessionManager` has an owner. -/
  sessionManagerOwned : Bool
  /-- The screensaver of the desktop has an owner. -/
  screensaverOwned : Bool
  /-- The answer of the screensaver that is used to `GetActive`. -/
  getActive : Bool
  /-- `RegisterClient` succeeds. -/
  clientRegistered : Bool
  /-- The proxy of the session manager's client has an owner. -/
  clientOwned : Bool
deriving DecidableEq, Repr

/-- The screensaver whose `ActiveChanged` signals are handled. -/
inductive Screensaver where
  | cinnamon
  | mate
  | gnome
  | fdo
deriving DecidableEq, Repr

/-- Whether the interface that is declared for a screensaver has the signal `ActiveChanged`.  The
proxy has no signal `active-changed` otherwise, and `g_signal_connect` connects nothing. -/
def Screensaver.hasActiveChanged : Screensaver → Bool
  | .mate => false
  | .cinnamon | .gnome | .fdo => true

/-- What `inhibit_init` leaves behind. -/
structure Portal where
  screensaver : Screensaver
  /-- The object data `active` of the screensaver's proxy. -/
  active : Bool
  /-- Whether `handle-query-end-response` is connected. -/
  queryEndResponseConnected : Bool
  /-- Whether `g-signal` of the proxy `client` is connected. -/
  clientConnected : Bool
  /-- The globals, as they are when the main loop starts. -/
  state : State

/-- The screensaver proxy that `inhibit_init` makes when there is a session manager. -/
def desktopScreensaver (mode : String) : Option Screensaver :=
  if cinnamonMode mode then some .cinnamon
  else if mateMode mode then some .mate
  else if xfceMode mode then some .gnome
  else none

/-- `inhibit_init`, as far as monitors are concerned. -/
def inhibitInit (mode : String) (bus : Bus) : Portal :=
  let screensaver :=
    if bus.sessionManagerOwned then
      -- a proxy without an owner is cleared again
      (desktopScreensaver mode).filter fun _ => bus.screensaverOwned
    else none
  match screensaver with
  | some screensaver =>
      { screensaver := screensaver
        active := bus.getActive
        queryEndResponseConnected := true
        clientConnected := bus.clientRegistered && bus.clientOwned
        state := initial bus.clientRegistered }
  | none =>
      { screensaver := .fdo
        active := bus.getActive
        queryEndResponseConnected := false
        clientConnected := false
        state := initial false }

/-- Both branches keep the answer to `GetActive`. -/
@[simp] lemma inhibitInit_active (mode : String) (bus : Bus) :
    (inhibitInit mode bus).active = bus.getActive := by
  rw [inhibitInit]
  split <;> rfl

lemma inhibitInit_state (mode : String) (bus : Bus) :
    ∃ client, (inhibitInit mode bus).state = initial client := by
  rw [inhibitInit]
  split
  · exact ⟨bus.clientRegistered, rfl⟩
  · exact ⟨false, rfl⟩

/-- Whether `inhibit_init` has connected the handler of an event. -/
def Portal.connected (u : Portal) : Event → Bool
  | .queryEndResponse _ => u.queryEndResponseConnected
  | .clientSignal _ => u.clientConnected
  | .activeChanged _ => u.screensaver.hasActiveChanged
  | .createMonitor .. | .close _ | .timeout _ => true

/-- The session monitors after start-up, as a machine. -/
def portal (mode : String) (bus : Bus) : Machine State Event where
  init := (inhibitInit mode bus).state
  step s e :=
    if (inhibitInit mode bus).connected e then handle e { s with sent := [] }
    else { s with sent := [] }

/-! ## What the handlers report -/

/-- From `s` to `s'` nobody is told a state, and that of the screensaver stays. -/
structure Silent (s s' : State) : Prop where
  screensaverActive : s'.screensaverActive = s.screensaverActive
  told : ∀ id active state, .stateChanged id active state ∈ s'.sent ↔
    .stateChanged id active state ∈ s.sent

namespace Silent

variable {s s' s'' : State} {a : ℕ}

lemma refl (s : State) : Silent s s := ⟨rfl, fun _ _ _ => Iff.rfl⟩

lemma trans (h₁ : Silent s s') (h₂ : Silent s' s'') : Silent s s'' where
  screensaverActive := h₂.screensaverActive.trans h₁.screensaverActive
  told id active state := (h₂.told id active state).trans (h₁.told id active state)

lemma of_eq (hactive : s'.screensaverActive = s.screensaverActive) (hsent : s'.sent = s.sent) :
    Silent s s' :=
  ⟨hactive, fun _ _ _ => by rw [hsent]⟩

/-- Reading through a pointer, dangling or not. -/
lemma access {k : InhibitSession → State} (hk : ∀ x, s.heap.cell a = some x → Silent s (k x)) :
    Silent s (s.access a k) := by
  rw [State.access]
  cases hx : s.heap.cell a with
  | none => exact of_eq rfl rfl
  | some x => exact hk x hx

lemma update (s : State) (a : ℕ) (f : InhibitSession → InhibitSession) :
    Silent s (s.update a f) := access fun _ _ => of_eq rfl rfl

/-- Sending anything but a `StateChanged`. -/
lemma send {m : Message} (hm : ∀ id active state, m ≠ .stateChanged id active state) :
    Silent s (s.send m) := by
  refine ⟨rfl, fun id active state => ?_⟩
  rw [State.send, List.mem_append, List.mem_singleton]
  exact or_iff_left fun heq => hm id active state heq.symm

/-! ### `session.c` -/

lemma objectUnref (a : ℕ) (s : State) : Silent s (objectUnref a s) := by
  refine access fun x _ => ?_
  split
  · exact of_eq rfl rfl
  · exact update s a _

lemma sessionUnexport (a : ℕ) (s : State) : Silent s (sessionUnexport a s) := by
  have hskeleton : ∀ s : State, Silent s (skeletonUnexport a s) := fun _ => of_eq rfl rfl
  exact ((update s a _).trans (hskeleton _)).trans (objectUnref a _)

lemma sessionClose (a : ℕ) (s : State) :
    Silent s (sessionClose Monitor.inhibitSessionClose a s) := by
  have hclose : ∀ s : State, Silent s (Monitor.inhibitSessionClose a s) :=
    fun _ => access fun _ _ => of_eq rfl rfl
  refine access fun x _ => ?_
  have hunexport : Silent s (if x.exported then Monitor.sessionUnexport a s else s) := by
    split
    · exact sessionUnexport a s
    · exact refl s
  exact ((hunexport.trans (update _ a _)).trans (hclose _)).trans (objectUnref a _)

lemma handleClose (a : ℕ) (s : State) :
    Silent s (handleClose Monitor.inhibitSessionClose a s) := by
  refine access fun x _ => ?_
  have hclose : Silent s (if !x.closed then Monitor.sessionClose Monitor.inhibitSessionClose a s
      else s) := by
    split
    · exact sessionClose a s
    · exact refl s
  exact hclose.trans (send (by simp))

lemma dispatchClose (path : String) (s : State) :
    Silent s (dispatchClose Monitor.inhibitSessionClose path s) := by
  rw [Monitor.dispatchClose]
  split
  · exact refl s
  · next a _ => exact ((update s a _).trans (handleClose a _)).trans (objectUnref a _)

end Silent

/-- From `s` to `s'` nobody is told a state, and the active sessions and what is alive stay. -/
structure Unheard (s s' : State) : Prop extends Silent s s' where
  activeSessions : s'.activeSessions = s.activeSessions
  alive : ∀ a, (s'.heap.cell a).isSome = (s.heap.cell a).isSome

namespace Unheard

variable {s s' s'' : State} {a : ℕ}

lemma refl (s : State) : Unheard s s := ⟨Silent.refl s, rfl, fun _ => rfl⟩

lemma trans (h₁ : Unheard s s') (h₂ : Unheard s' s'') : Unheard s s'' :=
  ⟨h₁.toSilent.trans h₂.toSilent, h₂.activeSessions.trans h₁.activeSessions,
    fun a => (h₂.alive a).trans (h₁.alive a)⟩

/-- A change of the timer or of the flag. -/
lemma of_eq (hactive : s'.screensaverActive = s.screensaverActive) (hsent : s'.sent = s.sent)
    (hsessions : s'.activeSessions = s.activeSessions) (hheap : s'.heap = s.heap) :
    Unheard s s' :=
  ⟨Silent.of_eq hactive hsent, hsessions, fun _ => by rw [hheap]⟩

/-- Writing through a pointer, dangling or not. -/
lemma update (s : State) (a : ℕ) (f : InhibitSession → InhibitSession) :
    Unheard s (s.update a f) := by
  refine ⟨Silent.update s a f, ?_, fun b => ?_⟩
  · rw [State.update, State.access]
    split <;> rfl
  · rw [State.update, State.access]
    split
    · show ((s.heap.modify a f).cell b).isSome = _
      rw [Heap.modify_cell]
      split
      · exact Option.isSome_map
      · rfl
    · rfl

lemma send {m : Message} (hm : ∀ id active state, m ≠ .stateChanged id active state) :
    Unheard s (s.send m) := ⟨Silent.send hm, rfl, fun _ => rfl⟩

/-! ### `inhibit.c` -/

lemma globalSetPending (pending : Bool) (s : State) :
    Unheard s (globalSetPendingQueryEndResponse pending s) := by
  have hfold : ∀ (l : List ℕ) (s : State),
      Unheard s (l.foldl (fun s a => s.update a (setPending pending)) s) := by
    intro l
    induction l with
    | nil => exact refl
    | cons a l ih => exact fun s => (update s a _).trans (ih _)
  exact hfold s.activeSessions s

lemma getPending (l : List ℕ) (s : State) : Unheard s (getPending l s).2 := by
  induction l generalizing s with
  | nil => exact refl s
  | cons a l ih =>
    rw [Monitor.getPending]
    split
    · have hflag : Unheard s { s with useAfterFree := true } := of_eq rfl rfl rfl rfl
      exact hflag.trans (ih _)
    · split
      · exact refl s
      · exact ih s

lemma sendQuitResponse (willQuit : Bool) (reason : Option String) (s : State) :
    Unheard s (sendQuitResponse willQuit reason s) := send (by simp)

lemma stopWaiting (sendResponse : Bool) (s : State) :
    Unheard s (stopWaitingForQueryEndResponse sendResponse s) := by
  have htimer : Unheard s (if s.queryEndTimeout ≠ 0 then
      { s with timers := s.timers.erase s.queryEndTimeout, queryEndTimeout := 0 } else s) := by
    split
    · exact of_eq rfl rfl rfl rfl
    · exact refl s
  have hsend : ∀ s', Unheard s s' →
      Unheard s (if sendResponse && s'.client then Monitor.sendQuitResponse true none s'
        else s') := by
    intro s' hs'
    split
    · exact hs'.trans (sendQuitResponse true none s')
    · exact hs'
  exact hsend _ (htimer.trans (globalSetPending false _))

lemma waitForQueryEndResponse (s : State) : Unheard s (waitForQueryEndResponse s) := by
  rw [Monitor.waitForQueryEndResponse]
  split
  · exact refl s
  · have htimer : Unheard s { s with
        timers := s.nextSource :: s.timers, nextSource := s.nextSource + 1,
        queryEndTimeout := s.nextSource } := of_eq rfl rfl rfl rfl
    exact htimer.trans (globalSetPending true _)

lemma maybeSendQuitResponse (s : State) : Unheard s (maybeSendQuitResponse s) := by
  rw [Monitor.maybeSendQuitResponse, globalGetPendingQueryEndResponse]
  have hget := getPending s.activeSessions s
  split
  · exact refl s
  · split
    · exact refl s
    · split
      · next heq =>
        rw [heq] at hget
        exact hget
      · next heq =>
        rw [heq] at hget
        exact hget.trans (stopWaiting true _)

lemma handleQueryEndResponse (sessionHandle : String) (s : State) :
    Unheard s (handleQueryEndResponse sessionHandle s) := by
  rw [Monitor.handleQueryEndResponse]
  cases lookupSession s sessionHandle with
  | none => exact send (by simp)
  | some a => exact ((update s a _).trans (maybeSendQuitResponse _)).trans (send (by simp))

lemma dispatchTimeout (source : ℕ) (s : State) : Unheard s (dispatchTimeout source s) := by
  rw [Monitor.dispatchTimeout]
  split
  · exact (stopWaiting true s).trans (of_eq rfl rfl rfl rfl)
  · exact refl s

end Unheard

/-- From `s` to `s'` the active sessions that are alive are told the state of the screensaver that
is kept in the global, which stays. -/
structure Broadcast (s s' : State) : Prop where
  screensaverActive : s'.screensaverActive = s.screensaverActive
  told : ∀ id active state, .stateChanged id active state ∈ s'.sent →
    .stateChanged id active state ∈ s.sent ∨
      active = s.screensaverActive ∧ ∃ a ∈ s.activeSessions, (s.heap.cell a).isSome = true
  heard : ∀ a ∈ s.activeSessions, (s.heap.cell a).isSome = true →
    ∃ id state, .stateChanged id s.screensaverActive state ∈ s'.sent

namespace Broadcast

variable {s s' s'' : State}

/-- The loop over the sessions, some of which may be dangling. -/
lemma foldl_emitStateChanged (l : List ℕ) (s : State) :
    l.foldl (fun s a => emitStateChanged a s) s = { s with
      sent := s.sent ++ l.filterMap fun a => (s.heap.cell a).map fun x =>
        .stateChanged x.id s.screensaverActive s.sessionState.toUInt32
      useAfterFree := s.useAfterFree || l.any fun a => (s.heap.cell a).isNone } := by
  induction l generalizing s with
  | nil => simp
  | cons a l ih =>
    rw [List.foldl_cons, ih, emitStateChanged, State.access]
    cases hx : s.heap.cell a with
    | none => simp [hx]
    | some x => simp [hx, State.send]

lemma globalEmitStateChanged (s : State) : Broadcast s (globalEmitStateChanged s) := by
  rw [Monitor.globalEmitStateChanged, foldl_emitStateChanged]
  refine ⟨rfl, fun id active state hmem => ?_, fun a ha halive => ?_⟩
  · rcases List.mem_append.mp hmem with hmem | hmem
    · exact Or.inl hmem
    · obtain ⟨a, ha, hmap⟩ := List.mem_filterMap.mp hmem
      obtain ⟨x, hx, heq⟩ := Option.map_eq_some_iff.mp hmap
      obtain ⟨-, rfl, -⟩ := Message.stateChanged.inj heq
      exact Or.inr ⟨rfl, a, ha, by rw [hx]; rfl⟩
  · obtain ⟨x, hx⟩ := Option.isSome_iff_exists.mp halive
    exact ⟨x.id, s.sessionState.toUInt32, List.mem_append_right _
      (List.mem_filterMap.mpr ⟨a, ha, by rw [hx]; rfl⟩)⟩

lemma setSessionState (state : SessionState) (s : State) :
    Broadcast s (setSessionState state s) := by
  have h := globalEmitStateChanged { s with sessionState := state }
  exact ⟨h.screensaverActive, h.told, h.heard⟩

/-- Something that nobody hears comes before. -/
lemma after (h₁ : Unheard s s') (h₂ : Broadcast s' s'') : Broadcast s s'' where
  screensaverActive := h₂.screensaverActive.trans h₁.screensaverActive
  told id active state hmem := by
    rcases h₂.told id active state hmem with hmem | ⟨rfl, a, ha, halive⟩
    · exact Or.inl ((h₁.told id active state).mp hmem)
    · rw [h₁.activeSessions] at ha
      rw [h₁.alive a] at halive
      exact Or.inr ⟨h₁.screensaverActive, a, ha, halive⟩
  heard a ha halive := by
    rw [← h₁.activeSessions] at ha
    rw [← h₁.alive a] at halive
    rw [← h₁.screensaverActive]
    exact h₂.heard a ha halive

/-- Something that nobody hears comes afterwards. -/
lemma before (h₁ : Broadcast s s') (h₂ : Unheard s' s'') : Broadcast s s'' where
  screensaverActive := h₂.screensaverActive.trans h₁.screensaverActive
  told id active state hmem := h₁.told id active state ((h₂.told id active state).mp hmem)
  heard a ha halive := by
    obtain ⟨id, state, hmem⟩ := h₁.heard a ha halive
    exact ⟨id, state, (h₂.told _ _ _).mpr hmem⟩

/-- The signals of the session manager that are reported to the sessions. -/
lemma clientProxySignal {signalName : String}
    (h : signalName ∈ ["QueryEndSession", "CancelEndSession", "EndSession"]) (s : State) :
    Broadcast s (clientProxySignal signalName s) := by
  rw [Monitor.clientProxySignal]
  split
  · exact ((setSessionState .queryEnd _).after (Unheard.waitForQueryEndResponse s)).before
      (Unheard.maybeSendQuitResponse _)
  · split
    · exact (setSessionState .running _).after (Unheard.stopWaiting false s)
    · split
      · exact ((setSessionState .ending _).after (Unheard.stopWaiting false s)).before
          (Unheard.sendQuitResponse true none _)
      · next hquery hcancel hend => simp [hquery, hcancel, hend] at h

end Broadcast

/-- The other signals are ignored. -/
lemma clientProxySignal_of_notMem {signalName : String}
    (h : signalName ∉ ["QueryEndSession", "CancelEndSession", "EndSession"]) (s : State) :
    clientProxySignal signalName s = s := by
  simp only [List.mem_cons, List.not_mem_nil, or_false, not_or] at h
  rw [clientProxySignal, if_neg h.1, if_neg h.2.1, if_neg h.2.2]

/-! ## The real state of the screensaver -/

/-- The value of the last `ActiveChanged` received. -/
def recordActive (last : Option Bool) (_ : State) (e : Event) (_ : State) : Option Bool :=
  match e with
  | .activeChanged active => some active
  | _ => last

/-- The session monitors after start-up together with the last `ActiveChanged`. -/
def activePortal (mode : String) (bus : Bus) : Machine (State × Option Bool) Event :=
  (portal mode bus).observe none recordActive

/-- Whatever was told about the screensaver while handling the last event is the value of the last
`ActiveChanged`, or else the answer to `GetActive`. -/
def ReportsActive (getActive : Bool) (p : State × Option Bool) : Prop :=
  ∀ id active state, .stateChanged id active state ∈ p.1.sent → active = p.2.getD getActive

/-- The screensaver is active, and no `ActiveChanged` has been handled: none has come, or the
handler is not connected. -/
def Unnoticed (u : Portal) (getActive : Bool) (last : Option Bool) : Prop :=
  last.getD getActive = true ∧ (u.screensaver.hasActiveChanged = true → last = none)

/-- An event has somebody told about the screensaver: a session is opened, or a signal of the
session manager is reported to a session. -/
def TellsSomebody (u : Portal) (s : State) : Event → Prop
  | .createMonitor sessionHandle busOk => ExportSucceeds s (.createMonitor sessionHandle busOk)
  | .clientSignal signalName => u.clientConnected = true ∧ s.client = true ∧
      signalName ∈ ["QueryEndSession", "CancelEndSession", "EndSession"] ∧
      ∃ a ∈ s.activeSessions, (s.heap.cell a).isSome = true
  | _ => False

/-- Somebody is told about the screensaver while it is active unnoticed. -/
def TellsUnnoticed (u : Portal) (getActive : Bool) (p : State × Option Bool) (e : Event) : Prop :=
  Unnoticed u getActive p.2 ∧ TellsSomebody u p.1 e

/-- The global is the last `ActiveChanged` that was handled, and what is told is right. -/
structure ActiveInv (u : Portal) (getActive : Bool) (p : State × Option Bool) : Prop where
  global : p.1.screensaverActive =
    if u.screensaver.hasActiveChanged then p.2.getD false else false
  reports : ReportsActive getActive p

namespace ActiveInv

variable {u : Portal} {getActive : Bool} {s s' : State} {last : Option Bool}

/-- What is true of the state stays so when the messages are dropped. -/
lemma clearSent (h : ActiveInv u getActive (s, last)) :
    ActiveInv u getActive ({ s with sent := [] }, last) :=
  ⟨h.global, fun _ _ _ hmem => absurd hmem List.not_mem_nil⟩

/-- The global is what it should be unless the screensaver is active unnoticed. -/
lemma global_eq (h : ActiveInv u getActive (s, last)) (hnotice : ¬ Unnoticed u getActive last) :
    s.screensaverActive = last.getD getActive := by
  have hglobal : s.screensaverActive =
      if u.screensaver.hasActiveChanged then last.getD false else false := h.global
  rw [hglobal]
  cases hchanged : u.screensaver.hasActiveChanged with
  | true =>
    cases last with
    | some active => rfl
    | none =>
      cases getActive with
      | false => rfl
      | true => exact absurd ⟨rfl, fun _ => rfl⟩ hnotice
  | false =>
    cases hreal : last.getD getActive with
    | false => rfl
    | true => exact absurd ⟨hreal, fun htrue => by simp [hchanged] at htrue⟩ hnotice

/-- And it is not if it is. -/
lemma global_of_unnoticed (h : ActiveInv u getActive (s, last))
    (hnotice : Unnoticed u getActive last) : s.screensaverActive = false := by
  have hglobal : s.screensaverActive =
      if u.screensaver.hasActiveChanged then last.getD false else false := h.global
  rw [hglobal]
  split
  · next hchanged =>
    rw [hnotice.2 hchanged]
    rfl
  · rfl

/-- As long as nobody is told anything, the reports are right. -/
lemma silent (h : ActiveInv u getActive (s, last)) (hs : Silent s s') :
    ActiveInv u getActive (s', last) :=
  ⟨hs.screensaverActive.trans h.global,
    fun id active state hmem => h.reports id active state ((hs.told id active state).mp hmem)⟩

lemma broadcast (h : ActiveInv u getActive (s, last)) (hs : Broadcast s s')
    (hright : (∃ a ∈ s.activeSessions, (s.heap.cell a).isSome = true) →
      ¬ Unnoticed u getActive last) : ActiveInv u getActive (s', last) := by
  refine ⟨hs.screensaverActive.trans h.global, fun id active state hmem => ?_⟩
  rcases hs.told id active state hmem with hmem | ⟨rfl, halive⟩
  · exact h.reports id active state hmem
  · exact h.global_eq (hright halive)

/-- The handler of `ActiveChanged` sets the global before it reports it. -/
lemma activeChanged (hsent : s.sent = []) (hchanged : u.screensaver.hasActiveChanged = true)
    (active : Bool) : ActiveInv u getActive (globalActiveChangedCb active s, some active) := by
  have hs : Broadcast { s with screensaverActive := active } (globalActiveChangedCb active s) :=
    Broadcast.globalEmitStateChanged _
  refine ⟨?_, fun id active' state hmem => ?_⟩
  · rw [hchanged]
    exact hs.screensaverActive
  · rcases hs.told id active' state hmem with hmem | ⟨rfl, -⟩
    · rw [show ({ s with screensaverActive := active } : State).sent = [] from hsent] at hmem
      exact absurd hmem List.not_mem_nil
    · rfl

lemma createMonitor (h : ActiveInv u getActive (s, last)) (hsent : s.sent = []) {id : String}
    {busOk : Bool} (hright : ExportSucceeds s (.createMonitor id busOk) →
      ¬ Unnoticed u getActive last) :
    ActiveInv u getActive (handleCreateMonitor id busOk s, last) := by
  by_cases he : ExportSucceeds s (.createMonitor id busOk)
  · have hglobal := h.global_eq (hright he)
    obtain ⟨rfl, hfree⟩ := he
    rw [handleCreateMonitor_eq hfree]
    refine ⟨h.global, fun id' active state hmem => ?_⟩
    have hactive : active = s.screensaverActive := by
      simp only [hsent, List.nil_append, List.mem_cons, reduceCtorEq, List.not_mem_nil, or_false,
        false_or] at hmem
      exact (Message.stateChanged.inj hmem).2.1
    exact hactive.trans hglobal
  · have hfail : (busOk && (s.registered id).isNone) = false := exportSucceeds_createMonitor.mp he
    rw [handleCreateMonitor_fail_eq hfail]
    refine ⟨h.global, fun id' active state hmem => ?_⟩
    simp [hsent] at hmem

lemma clientSignal (h : ActiveInv u getActive (s, last)) {signalName : String}
    (hright : s.client = true →
      signalName ∈ ["QueryEndSession", "CancelEndSession", "EndSession"] →
      (∃ a ∈ s.activeSessions, (s.heap.cell a).isSome = true) → ¬ Unnoticed u getActive last) :
    ActiveInv u getActive (handle (.clientSignal signalName) s, last) := by
  rw [handle]
  split
  · next hclient =>
    by_cases hsignal : signalName ∈ ["QueryEndSession", "CancelEndSession", "EndSession"]
    · exact h.broadcast (Broadcast.clientProxySignal hsignal s) (hright hclient hsignal)
    · rw [clientProxySignal_of_notMem hsignal]
      exact h
  · exact h

end ActiveInv

/-! ## Whole runs -/

section Runs

variable {mode : String} {bus : Bus}

lemma activeInv_init :
    ActiveInv (inhibitInit mode bus) bus.getActive (activePortal mode bus).init := by
  obtain ⟨client, hinit⟩ := inhibitInit_state mode bus
  have hstate : (activePortal mode bus).init = (initial client, none) := by
    rw [activePortal, Machine.observe_init, portal, hinit]
  rw [hstate]
  refine ⟨?_, fun _ _ _ hmem => absurd hmem List.not_mem_nil⟩
  show false = if (inhibitInit mode bus).screensaver.hasActiveChanged then false else false
  rw [ite_self]

/-- A handler that is connected handles the event. -/
lemma step_of_connected {s : State} {last : Option Bool} {e : Event}
    (h : (inhibitInit mode bus).connected e = true) :
    (activePortal mode bus).step (s, last) e
      = (handle e { s with sent := [] }, recordActive last s e s) := by
  simp [activePortal, portal, recordActive, h]

/-- An event without a handler is only noticed by the observer. -/
lemma step_of_not_connected {s : State} {last : Option Bool} {e : Event}
    (h : (inhibitInit mode bus).connected e = false) :
    (activePortal mode bus).step (s, last) e
      = ({ s with sent := [] }, recordActive last s e s) := by
  simp [activePortal, portal, recordActive, h]

lemma activeInv_step (p : State × Option Bool) (e : Event)
    (h : ActiveInv (inhibitInit mode bus) bus.getActive p)
    (htell : ¬ TellsUnnoticed (inhibitInit mode bus) bus.getActive p e) :
    ActiveInv (inhibitInit mode bus) bus.getActive ((activePortal mode bus).step p e) := by
  obtain ⟨s, last⟩ := p
  have hclear := h.clearSent
  cases hconnected : (inhibitInit mode bus).connected e with
  | true =>
    rw [step_of_connected hconnected]
    cases e with
    | createMonitor sessionHandle busOk =>
      exact hclear.createMonitor rfl fun he hnotice => htell ⟨hnotice, he⟩
    | activeChanged active => exact ActiveInv.activeChanged rfl hconnected active
    | close path => exact hclear.silent (Silent.dispatchClose path _)
    | queryEndResponse sessionHandle =>
      exact hclear.silent (Unheard.handleQueryEndResponse sessionHandle _).toSilent
    | clientSignal signalName =>
      exact hclear.clientSignal fun hclient hsignal halive hnotice =>
        htell ⟨hnotice, hconnected, hclient, hsignal, halive⟩
    | timeout source => exact hclear.silent (Unheard.dispatchTimeout source _).toSilent
  | false =>
    rw [step_of_not_connected hconnected]
    cases e with
    | activeChanged active =>
      -- the screensaver has no such signal, and the global stays as it is
      have hchanged : (inhibitInit mode bus).screensaver.hasActiveChanged = false := hconnected
      refine ⟨?_, fun _ _ _ hmem => absurd hmem List.not_mem_nil⟩
      have hglobal : s.screensaverActive = _ := h.global
      rw [hchanged] at hglobal ⊢
      exact hglobal
    | _ => exact hclear

/-- Whoever is told about the screensaver while it is active unnoticed is told that it is not. -/
lemma not_reportsActive_of_tellsUnnoticed (p : State × Option Bool) (e : Event)
    (h : ActiveInv (inhibitInit mode bus) bus.getActive p)
    (htell : TellsUnnoticed (inhibitInit mode bus) bus.getActive p e) :
    ¬ ReportsActive bus.getActive ((activePortal mode bus).step p e) := by
  obtain ⟨s, last⟩ := p
  obtain ⟨hnotice, htell⟩ := htell
  have hglobal : s.screensaverActive = false := h.global_of_unnoticed hnotice
  have hreal : last.getD bus.getActive = true := hnotice.1
  intro hreports
  cases e with
  | createMonitor sessionHandle busOk =>
    obtain ⟨rfl, hfree⟩ := htell
    have hfree' : ({ s with sent := [] } : State).registered sessionHandle = none := hfree
    rw [step_of_connected rfl, handle, handleCreateMonitor_eq hfree'] at hreports
    have htold : false = last.getD bus.getActive :=
      hreports sessionHandle false s.sessionState.toUInt32 (by simp [hglobal])
    rw [hreal] at htold
    exact absurd htold (by simp)
  | clientSignal signalName =>
    obtain ⟨hconnected, hclient, hsignal, a, ha, halive⟩ := htell
    have hclient' : ({ s with sent := [] } : State).client = true := hclient
    have hconnected' : (inhibitInit mode bus).connected (.clientSignal signalName) = true :=
      hconnected
    rw [step_of_connected hconnected', handle, if_pos hclient'] at hreports
    obtain ⟨id, state, hmem⟩ :=
      (Broadcast.clientProxySignal hsignal { s with sent := [] }).heard a ha halive
    have htold : s.screensaverActive = last.getD bus.getActive := hreports id _ state hmem
    rw [hglobal, hreal] at htold
    exact absurd htold (by simp)
  | _ => exact htell.elim

end Runs

/-- **The reported screensaver state is the real one throughout a run exactly when nobody is told
about the screensaver while it is active and no `ActiveChanged` has been handled.** -/
theorem reportsActive_iff (mode : String) (bus : Bus) (evs : List Event) :
    (∀ pre, pre <+: evs → ReportsActive bus.getActive ((activePortal mode bus).run pre)) ↔
      (activePortal mode bus).Along
        (fun p e => ¬ TellsUnnoticed (inhibitInit mode bus) bus.getActive p e)
        (activePortal mode bus).init evs :=
  Machine.forall_prefix_iff_along (ActiveInv (inhibitInit mode bus) bus.getActive)
    (ReportsActive bus.getActive) (fun _ => True) activeInv_init (fun _ h => h.reports)
    (fun p e _ h htell => activeInv_step p e h htell)
    (fun p e _ h htell => not_reportsActive_of_tellsUnnoticed p e h (not_not.mp htell))
    (fun _ _ => trivial)

/-- The portal is started while the screensaver is active, and the first monitor is told that it
is not. -/
theorem not_reportsActive : ¬ ∀ (mode : String) (bus : Bus) (evs : List Event),
    ReportsActive bus.getActive ((activePortal mode bus).run evs) := by
  intro h
  have htold := h "cinnamon" ⟨true, true, true, true, true⟩ [.createMonitor "/a" true]
    "/a" false 1 (by decide)
  exact absurd htold (by decide)

end XappPortal.Monitor
