/-
# What the handlers do to the sessions

Most handlers leave the table of sessions alone (the objects but for their pending flags, the
list `active_sessions`, the hash table and the registrations); `SameTable` says so once.  The two
handlers that do change it, `CreateMonitor` and `Close`, are computed in closed form
(`handleCreateMonitor_eq`, `handleCreateMonitor_fail_eq`, `dispatchClose_eq`).

All of this is for states where no pointer of `active_sessions` is dangling.
-/
import XappPortal.Monitor.Inhibit

namespace XappPortal.Monitor

open XappPortal.Lib

namespace State

/-- The `Session` part of the object at an address. -/
def session (s : State) (a : ℕ) : Option Session := (s.heap.cell a).map (·.toSession)

/-- Whether the session at an address is marked pending. -/
def pending (s : State) (a : ℕ) : Bool :=
  match s.heap.cell a with
  | some x => x.pendingQueryEndResponse
  | none => false

/-- No pointer of `active_sessions` is dangling. -/
def NoDangling (s : State) : Prop := ∀ a ∈ s.activeSessions, ∃ x, s.heap.cell a = some x

end State

/-! ## The loops over `active_sessions` -/

lemma foldl_update_eq (f : InhibitSession → InhibitSession) {l : List ℕ} {s : State}
    (hl : ∀ a ∈ l, ∃ x, s.heap.cell a = some x) :
    l.foldl (fun s a => s.update a f) s = { s with heap := s.heap.modifyAll l f } := by
  induction l generalizing s with
  | nil => rfl
  | cons a l ih =>
    obtain ⟨x, hx⟩ := hl a (by simp)
    rw [List.foldl_cons, State.update_of_alive hx, ih]
    · rfl
    · intro b hb
      obtain ⟨y, hy⟩ := hl b (List.mem_cons_of_mem a hb)
      by_cases hba : b = a <;> simp [hba, hx, hy]

lemma foldl_emitStateChanged_eq {l : List ℕ} {s : State}
    (hl : ∀ a ∈ l, ∃ x, s.heap.cell a = some x) :
    l.foldl (fun s a => emitStateChanged a s) s
      = { s with sent := s.sent ++ l.filterMap fun a => (s.heap.cell a).map fun x =>
            .stateChanged x.id s.screensaverActive s.sessionState.toUInt32 } := by
  induction l generalizing s with
  | nil => simp
  | cons a l ih =>
    obtain ⟨x, hx⟩ := hl a (by simp)
    have hstep : emitStateChanged a s
        = s.send (.stateChanged x.id s.screensaverActive s.sessionState.toUInt32) := by
      rw [emitStateChanged, State.access_of_alive hx]
    have htail : ∀ b ∈ l, ∃ x, (emitStateChanged a s).heap.cell b = some x := by
      rw [hstep]
      exact fun b hb => hl b (List.mem_cons_of_mem a hb)
    rw [List.foldl_cons, ih htail, hstep]
    simp [State.send, hx]

lemma getPending_eq {l : List ℕ} {s : State} (hl : ∀ a ∈ l, ∃ x, s.heap.cell a = some x) :
    getPending l s = (l.any s.pending, s) := by
  induction l with
  | nil => rfl
  | cons a l ih =>
    obtain ⟨x, hx⟩ := hl a (by simp)
    have hpend : s.pending a = x.pendingQueryEndResponse := by simp [State.pending, hx]
    rw [getPending, hx, List.any_cons, hpend]
    simp only [ih fun b hb => hl b (List.mem_cons_of_mem a hb)]
    cases x.pendingQueryEndResponse <;> simp

section NoDangling

variable {s : State} (h : s.NoDangling)
include h

lemma globalSetPending_eq (p : Bool) :
    globalSetPendingQueryEndResponse p s
      = { s with heap := s.heap.modifyAll s.activeSessions (setPending p) } :=
  foldl_update_eq _ h

lemma globalEmitStateChanged_eq :
    globalEmitStateChanged s
      = { s with sent := s.sent ++ s.activeSessions.filterMap fun a => (s.heap.cell a).map fun x =>
            .stateChanged x.id s.screensaverActive s.sessionState.toUInt32 } :=
  foldl_emitStateChanged_eq h

lemma globalGetPending_eq :
    globalGetPendingQueryEndResponse s = (s.activeSessions.any s.pending, s) :=
  getPending_eq h

end NoDangling

/-- The cells after marking all the active sessions. -/
lemma modifyAll_setPending_cell (h : Heap InhibitSession) (l : List ℕ) (p : Bool) (a : ℕ) :
    (h.modifyAll l (setPending p)).cell a
      = if a ∈ l then (h.cell a).map (setPending p) else h.cell a := by
  have hidem : ∀ x, setPending p (setPending p x) = setPending p x := fun _ => rfl
  exact Heap.modifyAll_cell hidem h l a

/-! ## Handlers that leave the table alone -/

/-- Two states with the same sessions, differing at most in the pending flags, the timer, the
globals and the messages. -/
structure SameTable (s s' : State) : Prop where
  session : ∀ a, s'.session a = s.session a
  next : s'.heap.next = s.heap.next
  activeSessions : s'.activeSessions = s.activeSessions
  sessions : s'.sessions = s.sessions
  registered : s'.registered = s.registered
  useAfterFree : s'.useAfterFree = s.useAfterFree

namespace SameTable

variable {s s' s'' : State}

lemma refl (s : State) : SameTable s s := ⟨fun _ => rfl, rfl, rfl, rfl, rfl, rfl⟩

lemma trans (h₁ : SameTable s s') (h₂ : SameTable s' s'') : SameTable s s'' where
  session a := (h₂.session a).trans (h₁.session a)
  next := h₂.next.trans h₁.next
  activeSessions := h₂.activeSessions.trans h₁.activeSessions
  sessions := h₂.sessions.trans h₁.sessions
  registered := h₂.registered.trans h₁.registered
  useAfterFree := h₂.useAfterFree.trans h₁.useAfterFree

lemma isSome_cell (h : SameTable s s') (a : ℕ) :
    (s'.heap.cell a).isSome = (s.heap.cell a).isSome := by
  have := congrArg Option.isSome (h.session a)
  simpa [State.session] using this

lemma noDangling (h : SameTable s s') (hs : s.NoDangling) : s'.NoDangling := by
  intro a ha
  rw [h.activeSessions] at ha
  obtain ⟨x, hx⟩ := hs a ha
  have := h.isSome_cell a
  rw [hx] at this
  exact Option.isSome_iff_exists.mp this

end SameTable

section SameTable

variable {s : State}

lemma sameTable_modify (a : ℕ) (p : Bool) :
    SameTable s { s with heap := s.heap.modify a (setPending p) } := by
  refine ⟨fun b => ?_, rfl, rfl, rfl, rfl, rfl⟩
  by_cases hb : b = a
  · simp [State.session, hb, setPending, Function.comp_def]
  · simp [State.session, hb]

lemma sameTable_globalSetPending (h : s.NoDangling) (p : Bool) :
    SameTable s (globalSetPendingQueryEndResponse p s) := by
  rw [globalSetPending_eq h]
  refine ⟨fun a => ?_, Heap.modifyAll_next _ _ _, rfl, rfl, rfl, rfl⟩
  rw [State.session, modifyAll_setPending_cell]
  by_cases ha : a ∈ s.activeSessions
  · simp [State.session, ha, setPending, Function.comp_def]
  · simp [State.session, ha]

lemma sameTable_globalEmitStateChanged (h : s.NoDangling) :
    SameTable s (globalEmitStateChanged s) := by
  rw [globalEmitStateChanged_eq h]
  exact ⟨fun _ => rfl, rfl, rfl, rfl, rfl, rfl⟩

lemma sameTable_setSessionState (h : s.NoDangling) (state : SessionState) :
    SameTable s (setSessionState state s) := by
  have hglobal : SameTable s { s with sessionState := state } :=
    ⟨fun _ => rfl, rfl, rfl, rfl, rfl, rfl⟩
  exact hglobal.trans (sameTable_globalEmitStateChanged (hglobal.noDangling h))

lemma sameTable_globalActiveChangedCb (h : s.NoDangling) (active : Bool) :
    SameTable s (globalActiveChangedCb active s) := by
  have hglobal : SameTable s { s with screensaverActive := active } :=
    ⟨fun _ => rfl, rfl, rfl, rfl, rfl, rfl⟩
  exact hglobal.trans (sameTable_globalEmitStateChanged (hglobal.noDangling h))

lemma sameTable_stopWaiting (h : s.NoDangling) (sendResponse : Bool) :
    SameTable s (stopWaitingForQueryEndResponse sendResponse s) := by
  have htimer : SameTable s (if s.queryEndTimeout ≠ 0 then
      { s with timers := s.timers.erase s.queryEndTimeout, queryEndTimeout := 0 } else s) := by
    split
    · exact ⟨fun _ => rfl, rfl, rfl, rfl, rfl, rfl⟩
    · exact SameTable.refl s
  have hsend : ∀ s', SameTable s s' →
      SameTable s (if sendResponse && s'.client then sendQuitResponse true none s' else s') := by
    intro s' hs'
    split
    · exact hs'.trans ⟨fun _ => rfl, rfl, rfl, rfl, rfl, rfl⟩
    · exact hs'
  exact hsend _ (htimer.trans (sameTable_globalSetPending (htimer.noDangling h) false))

lemma sameTable_waitForQueryEndResponse (h : s.NoDangling) :
    SameTable s (waitForQueryEndResponse s) := by
  rw [waitForQueryEndResponse]
  split
  · exact SameTable.refl s
  · have htimer : SameTable s { s with
        timers := s.nextSource :: s.timers, nextSource := s.nextSource + 1,
        queryEndTimeout := s.nextSource } := ⟨fun _ => rfl, rfl, rfl, rfl, rfl, rfl⟩
    exact htimer.trans (sameTable_globalSetPending (htimer.noDangling h) true)

lemma sameTable_maybeSendQuitResponse (h : s.NoDangling) :
    SameTable s (maybeSendQuitResponse s) := by
  rw [maybeSendQuitResponse, globalGetPending_eq h]
  split
  · exact SameTable.refl s
  · split
    · exact SameTable.refl s
    · cases s.activeSessions.any s.pending with
      | true => exact SameTable.refl s
      | false => exact sameTable_stopWaiting h true

lemma sameTable_clientProxySignal (h : s.NoDangling) (signalName : String) :
    SameTable s (clientProxySignal signalName s) := by
  rw [clientProxySignal]
  split
  · have hwait := sameTable_waitForQueryEndResponse h
    have hstate := hwait.trans (sameTable_setSessionState (hwait.noDangling h) .queryEnd)
    exact hstate.trans (sameTable_maybeSendQuitResponse (hstate.noDangling h))
  · have hstop := sameTable_stopWaiting h false
    split
    · exact hstop.trans (sameTable_setSessionState (hstop.noDangling h) .running)
    · split
      · have hstate := hstop.trans (sameTable_setSessionState (hstop.noDangling h) .ending)
        exact hstate.trans ⟨fun _ => rfl, rfl, rfl, rfl, rfl, rfl⟩
      · exact SameTable.refl s

lemma sameTable_dispatchTimeout (h : s.NoDangling) (source : ℕ) :
    SameTable s (dispatchTimeout source s) := by
  rw [dispatchTimeout]
  split
  · exact (sameTable_stopWaiting h true).trans ⟨fun _ => rfl, rfl, rfl, rfl, rfl, rfl⟩
  · exact SameTable.refl s

/-- `QueryEndResponse` leaves the table alone as long as the table has no dangling pointers. -/
lemma sameTable_handleQueryEndResponse (h : s.NoDangling)
    (hlook : ∀ id a, s.sessions id = some a → ∃ x, s.heap.cell a = some x)
    (sessionHandle : String) : SameTable s (handleQueryEndResponse sessionHandle s) := by
  have hreply : ∀ s', SameTable s s' → SameTable s (s'.send .queryEndResponseReply) :=
    fun s' hs' => hs'.trans ⟨fun _ => rfl, rfl, rfl, rfl, rfl, rfl⟩
  rw [handleQueryEndResponse]
  apply hreply
  cases hfound : lookupSession s sessionHandle with
  | none => exact SameTable.refl s
  | some a =>
    obtain ⟨x, hx⟩ := hlook sessionHandle a hfound
    have hupd : SameTable s (s.update a (setPending false)) := by
      rw [State.update_of_alive hx]
      exact sameTable_modify a false
    exact hupd.trans (sameTable_maybeSendQuitResponse (hupd.noDangling h))

end SameTable

/-! ## Handlers that change the table -/

/-- A session after a successful `CreateMonitor`. -/
def openSession (id : String) : InhibitSession :=
  { exported := true, closed := false, id := id, refCount := 2, pendingQueryEndResponse := false }

section Create

variable {s : State} {h : String}

/-- A successful `CreateMonitor`: the new session is alive, listed, and both tables know it. -/
lemma handleCreateMonitor_eq (hfree : s.registered h = none) :
    handleCreateMonitor h true s
      = { s with
          heap := s.heap.alloc (openSession h)
          sessions := Function.update s.sessions h (some s.heap.next)
          registered := Function.update s.registered h (some s.heap.next)
          activeSessions := s.heap.next :: s.activeSessions
          sent := s.sent ++ [.createMonitorReply 0,
            .stateChanged h s.screensaverActive s.sessionState.toUInt32] } := by
  simp [handleCreateMonitor, inhibitSessionNew, sessionConstructed, sessionExport, objectRef,
    emitStateChanged, State.access, State.update, State.send, hfree, openSession]

/-- A failed `CreateMonitor`: the object is finalized again, and with it goes the hash table's
entry for its id, but `active_sessions` keeps the pointer. -/
lemma handleCreateMonitor_fail_eq {busOk : Bool}
    (hfail : (busOk && (s.registered h).isNone) = false) :
    handleCreateMonitor h busOk s
      = { skeletonUnexport s.heap.next s with
          heap := (s.heap.alloc
            { openSession h with exported := false, refCount := 1 }).free s.heap.next
          sessions := Function.update s.sessions h none
          activeSessions := s.heap.next :: s.activeSessions
          sent := s.sent ++ [.createMonitorReply 2] } := by
  simp [handleCreateMonitor, inhibitSessionNew, sessionConstructed, sessionExport, objectUnref,
    sessionFinalize, skeletonUnexport, State.access, State.send, hfail, openSession]

end Create

/-- A `Close` of an open session: it leaves the list and both tables and is finalized. -/
lemma dispatchClose_eq {s : State} {path : String} {a : ℕ} {x : InhibitSession}
    (hreg : s.registered path = some a) (hx : s.heap.cell a = some x)
    (hexp : x.exported = true) (hopen : x.closed = false) (href : x.refCount = 2) :
    dispatchClose inhibitSessionClose path s
      = { skeletonUnexport a s with
          heap := s.heap.free a
          sessions := Function.update s.sessions x.id none
          activeSessions := s.activeSessions.erase a
          sent := s.sent ++ [.closeReply] } := by
  simp [dispatchClose, hreg, objectRef, objectUnref, handleClose, sessionClose, sessionUnexport,
    sessionFinalize, skeletonUnexport, inhibitSessionClose, State.access, State.update, State.send,
    hx, hexp, hopen, href]

end XappPortal.Monitor
