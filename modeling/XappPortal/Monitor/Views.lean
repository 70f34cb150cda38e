/-
# What the monitors know

A session monitor learns about the screensaver and the user's session from the `StateChanged`
signals it gets, and from nothing else.  The log of a run records what the clients notice: the
replies that open and close their sessions, and the signals.  In a run in which the exports
succeed, every open session has been told the current state and none that is not open is told
anything (`views_current`).
-/
import XappPortal.Monitor.Waiting

namespace XappPortal.Monitor

open XappPortal.Lib

/-! ## The log -/

/-- What the client of a session can notice. -/
inductive Notice where
  /-- Its `CreateMonitor` call is answered with success. -/
  | opened (sessionHandle : String)
  /-- A `StateChanged` signal for the session arrives. -/
  | changed (sessionHandle : String) (screensaverActive : Bool) (sessionState : UInt32)
  /-- Its `Close` call is answered. -/
  | closed (sessionHandle : String)
deriving DecidableEq, Repr

/-- What a message sent while handling the event `e` means to the clients. -/
def Message.notice (e : Event) : Message → Option Notice
  | .createMonitorReply response =>
      match e with
      | .createMonitor sessionHandle _ =>
          if response = 0 then some (.opened sessionHandle) else none
      | _ => none
  | .closeReply =>
      match e with
      | .close path => some (.closed path)
      | _ => none
  | .stateChanged id screensaverActive sessionState =>
      some (.changed id screensaverActive sessionState)
  | .queryEndResponseReply | .endSessionResponse _ _ => none

namespace Notice

/-- Whether the session with a handle is open, after a log whose latest notice comes first. -/
def isOpen (id : String) : List Notice → Bool
  | [] => false
  | .opened sessionHandle :: log => sessionHandle = id || isOpen id log
  | .closed sessionHandle :: log => sessionHandle ≠ id && isOpen id log
  | .changed _ _ _ :: log => isOpen id log

/-- The last state told to the session with a handle since it was opened. -/
def lastTold (id : String) : List Notice → Option (Bool × UInt32)
  | [] => none
  | .opened sessionHandle :: log => if sessionHandle = id then none else lastTold id log
  | .closed _ :: log => lastTold id log
  | .changed sessionHandle screensaverActive sessionState :: log =>
      if sessionHandle = id then some (screensaverActive, sessionState) else lastTold id log

/-- Signals went to open sessions only. -/
def Orderly : List Notice → Prop
  | [] => True
  | .changed sessionHandle _ _ :: log => isOpen sessionHandle log = true ∧ Orderly log
  | .opened _ :: log | .closed _ :: log => Orderly log

/-! ## Telling the same state to several sessions -/

section Broadcast

variable {ids : List String} {active : Bool} {state : UInt32} {log : List Notice}

lemma isOpen_broadcast (id : String) :
    isOpen id (ids.map (.changed · active state) ++ log) = isOpen id log := by
  induction ids with
  | nil => rfl
  | cons id' ids ih => exact ih

lemma lastTold_broadcast (id : String) :
    lastTold id (ids.map (.changed · active state) ++ log)
      = if id ∈ ids then some (active, state) else lastTold id log := by
  induction ids with
  | nil => rfl
  | cons id' ids ih =>
    rw [List.map_cons, List.cons_append, lastTold, ih]
    by_cases hid : id' = id
    · simp [hid]
    · simp [hid, Ne.symm hid]

lemma orderly_broadcast (hopen : ∀ id ∈ ids, isOpen id log = true) (h : Orderly log) :
    Orderly (ids.map (.changed · active state) ++ log) := by
  induction ids with
  | nil => exact h
  | cons id ids ih =>
    exact ⟨(isOpen_broadcast id).trans (hopen id (List.mem_cons_self ..)),
      ih fun id' hid' => hopen id' (List.mem_cons_of_mem id hid')⟩

end Broadcast

end Notice

/-- The history of a run: the log of the clients, latest notice first, and the state named by the
last signal about the user's session. -/
structure History where
  log : List Notice
  named : SessionState
deriving DecidableEq, Repr

/-- The state a signal of the session manager names. -/
def stateNamed (signalName : String) : Option SessionState :=
  if signalName = "QueryEndSession" then some .queryEnd
  else if signalName = "CancelEndSession" then some .running
  else if signalName = "EndSession" then some .ending
  else none

/-- The state named by the last signal, after an event received in state `s`. -/
def History.hear (h : History) (s : State) : Event → History
  | .clientSignal signalName =>
      if s.client then { h with named := (stateNamed signalName).getD h.named } else h
  | _ => h

/-- What the clients notice of the messages sent so far. -/
def State.notices (s : State) (e : Event) : List Notice := s.sent.filterMap (Message.notice e)

/-- Log the messages sent while handling the event `e`. -/
def History.tell (h : History) (s' : State) (e : Event) : History :=
  { h with log := (s'.notices e).reverse ++ h.log }

/-- The history after the event `e` led from state `s` to state `s'`. -/
def recordHistory (h : History) (s : State) (e : Event) (s' : State) : History :=
  (h.hear s e).tell s' e

/-- The session monitors together with the history. -/
def viewMonitor (client : Bool) : Machine (State × History) Event :=
  (monitor client).observe ⟨[], .running⟩ recordHistory

/-- The handles of the sessions in `active_sessions`. -/
def State.handles (s : State) : List String :=
  s.activeSessions.filterMap fun a => (s.session a).map (·.id)

/-- The sessions in `active_sessions` are those that are open for the clients, each has been told
the current state last, `session_state` is the state named last, and no session was told anything
while it was not open. -/
structure ViewsCurrent (s : State) (h : History) : Prop where
  open_iff : ∀ id, Notice.isOpen id h.log = true ↔ id ∈ s.handles
  current : ∀ id, Notice.isOpen id h.log = true →
    Notice.lastTold id h.log = some (s.screensaverActive, s.sessionState.toUInt32)
  named : s.sessionState = h.named
  orderly : Notice.Orderly h.log

/-- A handle is that of an active session when a session is registered at it. -/
lemma mem_handles {s : State} (h : TableInv s) {id : String} :
    id ∈ s.handles ↔ (s.registered id).isSome = true := by
  rw [Option.isSome_iff_exists, State.handles, List.mem_filterMap]
  constructor
  · rintro ⟨a, -, ha⟩
    obtain ⟨x, hx, rfl⟩ := Option.map_eq_some_iff.mp ha
    exact ⟨a, (h.registered x.id a).mpr ⟨x, hx, rfl⟩⟩
  · rintro ⟨a, ha⟩
    obtain ⟨x, hx, rfl⟩ := (h.registered id a).mp ha
    exact ⟨a, (h.mem_active a).mpr ⟨x, hx⟩, by rw [hx]; rfl⟩

/-! ## Steps that nobody notices -/

lemma SameTable.handles {s s' : State} (h : SameTable s s') : s'.handles = s.handles := by
  rw [State.handles, State.handles, h.activeSessions]
  simp only [h.session]

/-- A part of the handling of an event that tells the clients nothing and changes nothing they
should be told. -/
structure Quiet (e : Event) (s s' : State) : Prop where
  sameTable : SameTable s s'
  notices : s'.notices e = s.notices e
  screensaverActive : s'.screensaverActive = s.screensaverActive
  sessionState : s'.sessionState = s.sessionState

namespace Quiet

variable {e : Event} {s s' s'' : State}

lemma refl (e : Event) (s : State) : Quiet e s s := ⟨SameTable.refl s, rfl, rfl, rfl⟩

lemma trans (h₁ : Quiet e s s') (h₂ : Quiet e s' s'') : Quiet e s s'' :=
  ⟨h₁.sameTable.trans h₂.sameTable, h₂.notices.trans h₁.notices,
    h₂.screensaverActive.trans h₁.screensaverActive, h₂.sessionState.trans h₁.sessionState⟩

lemma send {m : Message} (hm : m.notice e = none) : Quiet e s (s.send m) := by
  refine ⟨⟨fun _ => rfl, rfl, rfl, rfl, rfl, rfl⟩, ?_, rfl, rfl⟩
  simp [State.notices, State.send, hm]

lemma stopWaiting (h : Consistent s) (sendResponse : Bool) :
    Quiet e s (stopWaitingForQueryEndResponse sendResponse s) := by
  have hsame := sameTable_stopWaiting h.table.noDangling sendResponse
  rw [stopWaiting_eq h.timer h.table.noDangling] at hsame ⊢
  refine ⟨hsame, ?_, rfl, rfl⟩
  rw [State.notices, List.filterMap_append]
  split <;> simp [State.notices, Message.notice]

lemma waitForQueryEndResponse (h : Consistent s) :
    Quiet e s (waitForQueryEndResponse s) := by
  by_cases h0 : s.queryEndTimeout = 0
  · have hsame := sameTable_waitForQueryEndResponse h.table.noDangling
    rw [waitForQueryEndResponse_eq h.timer h.table.noDangling h0] at hsame ⊢
    exact ⟨hsame, rfl, rfl, rfl⟩
  · rw [waitForQueryEndResponse_of_waiting h0]
    exact refl e s

lemma maybeSend (h : Consistent s) : Quiet e s (maybeSendQuitResponse s) := by
  rw [maybeSendQuitResponse_eq h.timer h.table.noDangling]
  split
  · exact refl e s
  · exact stopWaiting h true

lemma queryEndResponse (h : Consistent s) (sessionHandle : String) :
    Quiet e s (handleQueryEndResponse sessionHandle s) := by
  rw [handleQueryEndResponse]
  cases hlook : lookupSession s sessionHandle with
  | none => exact send rfl
  | some a =>
    obtain ⟨y, hy, -⟩ := h.table.exists_of_sessions hlook
    have hupd : Quiet e s (s.update a (setPending false)) := by
      rw [State.update_of_alive hy]
      exact ⟨sameTable_modify a false, rfl, rfl, rfl⟩
    exact (hupd.trans (maybeSend (h.update hlook))).trans (send rfl)

lemma timeout (h : Consistent s) (source : ℕ) : Quiet e s (dispatchTimeout source s) := by
  rw [dispatchTimeout]
  split
  · exact (stopWaiting h true).trans ⟨⟨fun _ => rfl, rfl, rfl, rfl, rfl, rfl⟩, rfl, rfl, rfl⟩
  · exact refl e s

end Quiet

/-! ## The handling of one event -/

namespace ViewsCurrent

variable {s s' : State} {h : History} {e : Event}

lemma initial (client : Bool) : ViewsCurrent (Monitor.initial client) ⟨[], .running⟩ :=
  ⟨fun id => by simp [Notice.isOpen, State.handles, Monitor.initial],
    fun id hid => absurd hid (by simp [Notice.isOpen]), rfl, trivial⟩

lemma quiet (hv : ViewsCurrent s (h.tell s e)) (hq : Quiet e s s') :
    ViewsCurrent s' (h.tell s' e) := by
  rw [History.tell, hq.notices]
  refine ⟨fun id => ?_, fun id => ?_, hq.sessionState.trans hv.named, hv.orderly⟩
  · rw [hq.sameTable.handles]
    exact hv.open_iff id
  · rw [hq.screensaverActive, hq.sessionState]
    exact hv.current id

/-- The notices of a broadcast. -/
lemma notices_globalEmitStateChanged (hd : s.NoDangling) :
    (globalEmitStateChanged s).notices e = s.notices e
      ++ s.handles.map (.changed · s.screensaverActive s.sessionState.toUInt32) := by
  rw [globalEmitStateChanged_eq hd, State.notices, List.filterMap_append, State.handles,
    List.filterMap_filterMap, List.map_filterMap]
  congr 1
  refine List.filterMap_congr fun a _ => ?_
  cases hc : s.heap.cell a <;> simp [State.session, hc, Message.notice]

/-- After a change of what the clients should be told, a broadcast makes their views current. -/
lemma broadcast (hv : ViewsCurrent s (h.tell s e)) (hd : s'.NoDangling) (hsame : SameTable s s')
    (hsent : s'.sent = s.sent) {named : SessionState} (hnamed : s'.sessionState = named) :
    ViewsCurrent (globalEmitStateChanged s')
      ({ h with named := named }.tell (globalEmitStateChanged s') e) := by
  have hnotices : s'.notices e = s.notices e := by rw [State.notices, hsent, State.notices]
  have hhandles : (globalEmitStateChanged s').handles = s.handles :=
    (sameTable_globalEmitStateChanged hd).handles.trans hsame.handles
  have hlog : ({ h with named := named }.tell (globalEmitStateChanged s') e).log
      = (s.handles.reverse.map (.changed · s'.screensaverActive s'.sessionState.toUInt32))
        ++ (h.tell s e).log := by
    rw [History.tell, History.tell, notices_globalEmitStateChanged hd, hnotices, hsame.handles]
    simp
  have hglobals : (globalEmitStateChanged s').screensaverActive = s'.screensaverActive ∧
      (globalEmitStateChanged s').sessionState = s'.sessionState := by
    rw [globalEmitStateChanged_eq hd]
    exact ⟨rfl, rfl⟩
  refine ⟨fun id => ?_, fun id hid => ?_, hglobals.2.trans hnamed, ?_⟩
  · rw [hlog, Notice.isOpen_broadcast, hhandles]
    exact hv.open_iff id
  · rw [hlog, Notice.isOpen_broadcast] at hid
    rw [hlog, Notice.lastTold_broadcast, if_pos, hglobals.1, hglobals.2]
    exact List.mem_reverse.mpr ((hv.open_iff id).mp hid)
  · rw [hlog]
    refine Notice.orderly_broadcast (fun id hid => ?_) hv.orderly
    exact (hv.open_iff id).mpr (List.mem_reverse.mp hid)

/-- `set_session_state` tells every session about the state. -/
lemma setSessionState (hv : ViewsCurrent s (h.tell s e)) (hd : s.NoDangling)
    (state : SessionState) :
    ViewsCurrent (Monitor.setSessionState state s)
      ({ h with named := state }.tell (Monitor.setSessionState state s) e) := by
  have hd' : State.NoDangling { s with sessionState := state } := hd
  exact hv.broadcast hd' ⟨fun _ => rfl, rfl, rfl, rfl, rfl, rfl⟩ rfl rfl

/-- A session that is opened is told the current state. -/
lemma createMonitor (hv : ViewsCurrent s h) (ht : TableInv s) (hsent : s.sent = [])
    {id : String} (hfree : s.registered id = none) :
    ViewsCurrent (handleCreateMonitor id true s)
      (h.tell (handleCreateMonitor id true s) (.createMonitor id true)) := by
  have hlog : (h.tell (handleCreateMonitor id true s) (.createMonitor id true)).log
      = .changed id s.screensaverActive s.sessionState.toUInt32 :: .opened id :: h.log := by
    rw [History.tell, handleCreateMonitor_eq hfree]
    simp [State.notices, hsent, Message.notice]
  have hopen : ∀ id', Notice.isOpen id' (h.tell (handleCreateMonitor id true s)
      (.createMonitor id true)).log = true ↔ id = id' ∨ Notice.isOpen id' h.log = true := by
    intro id'
    rw [hlog]
    simp [Notice.isOpen]
  refine ⟨fun id' => ?_, fun id' hid' => ?_, ?_, ?_⟩
  · rw [hopen, hv.open_iff, mem_handles (ht.create hfree), mem_handles ht,
      handleCreateMonitor_eq hfree]
    by_cases hid : id' = id
    · simp [hid]
    · simp [hid, Ne.symm hid]
  · rw [hlog, handleCreateMonitor_eq hfree]
    by_cases hid : id = id'
    · simp [Notice.lastTold, hid]
    · rw [hopen] at hid'
      simpa [Notice.lastTold, hid] using hv.current id' (hid'.resolve_left hid)
  · rw [handleCreateMonitor_eq hfree]
    exact hv.named
  · rw [hlog]
    exact ⟨by simp [Notice.isOpen], hv.orderly⟩

/-- A session that is closed is not told anything any more. -/
lemma close (hv : ViewsCurrent s h) (ht : TableInv s) (hsent : s.sent = []) (path : String) :
    ViewsCurrent (dispatchClose inhibitSessionClose path s)
      (h.tell (dispatchClose inhibitSessionClose path s) (.close path)) := by
  cases hreg : s.registered path with
  | none =>
    have hstay : dispatchClose inhibitSessionClose path s = s := by rw [dispatchClose, hreg]
    rw [hstay, History.tell, State.notices, hsent]
    exact hv
  | some a =>
    obtain ⟨y, -, -, heq⟩ := ht.dispatchClose_eq_of_registered hreg
    have hlog : (h.tell (dispatchClose inhibitSessionClose path s) (.close path)).log
        = .closed path :: h.log := by
      rw [History.tell, heq]
      simp [State.notices, hsent, Message.notice]
    have hopen : ∀ id, Notice.isOpen id (h.tell (dispatchClose inhibitSessionClose path s)
        (.close path)).log = true ↔ path ≠ id ∧ Notice.isOpen id h.log = true := by
      intro id
      rw [hlog]
      simp [Notice.isOpen]
    refine ⟨fun id => ?_, fun id hid => ?_, ?_, ?_⟩
    · rw [hopen, hv.open_iff, mem_handles (ht.close path), mem_handles ht, heq]
      by_cases hid : path = id
      · simp [← hid, skeletonUnexport, hreg]
      · -- only the handle of the session was registered for it
        have hother : s.registered id ≠ some a := by
          intro ha
          obtain ⟨x, hx, hxid⟩ := (ht.registered id a).mp ha
          obtain ⟨x', hx', hxid'⟩ := (ht.registered path a).mp hreg
          obtain rfl := Option.some.inj (hx.symm.trans hx')
          exact hid (hxid'.symm.trans hxid)
        simp [hid, skeletonUnexport, hother]
    · rw [hopen] at hid
      rw [hlog, heq]
      exact hv.current id hid.2
    · rw [heq]
      exact hv.named
    · rw [hlog]
      exact hv.orderly

lemma clientSignal (hv : ViewsCurrent s (h.tell s e)) (hs : Consistent s)
    (hclient : s.client = true) (signalName : String) :
    ViewsCurrent (clientProxySignal signalName s)
      ({ h with named := (stateNamed signalName).getD h.named }.tell
        (clientProxySignal signalName s) e) := by
  rw [clientProxySignal, stateNamed]
  split
  · have hwait := hs.waitForQueryEndResponse hclient
    have htold := (hv.quiet (Quiet.waitForQueryEndResponse hs)).setSessionState
      hwait.table.noDangling .queryEnd
    exact htold.quiet (Quiet.maybeSend (hwait.setSessionState .queryEnd))
  · have hstop := hs.stopWaiting false
    have htold := (hv.quiet (Quiet.stopWaiting hs false)).setSessionState hstop.table.noDangling
    split
    · exact htold .running
    · split
      · exact (htold .ending).quiet (Quiet.send rfl)
      · exact hv

/-- Every event whose export succeeds leaves the views current. -/
lemma handle (hv : ViewsCurrent s h) (hs : Consistent s) (hsent : s.sent = [])
    (he : ExportSucceeds s e) :
    ViewsCurrent (Monitor.handle e s) (recordHistory h s e (Monitor.handle e s)) := by
  have hv' : ∀ e, ViewsCurrent s (h.tell s e) := by
    intro e
    rw [History.tell, State.notices, hsent]
    exact hv
  cases e with
  | createMonitor sessionHandle busOk =>
    obtain ⟨rfl, hfree⟩ := he
    exact hv.createMonitor hs.table hsent hfree
  | close path => exact hv.close hs.table hsent path
  | queryEndResponse sessionHandle =>
    exact (hv' _).quiet (Quiet.queryEndResponse hs sessionHandle)
  | clientSignal signalName =>
    rw [Monitor.handle, recordHistory, History.hear]
    split
    · next hclient => exact (hv' _).clientSignal hs hclient signalName
    · exact hv' _
  | timeout source => exact (hv' _).quiet (Quiet.timeout hs source)
  | activeChanged active =>
    have hd : State.NoDangling { s with screensaverActive := active } := hs.table.noDangling
    exact (hv' _).broadcast hd ⟨fun _ => rfl, rfl, rfl, rfl, rfl, rfl⟩ rfl hv.named

lemma step {client : Bool} {p : State × History} (hv : ViewsCurrent p.1 p.2)
    (hs : Consistent p.1) (he : ExportSucceeds p.1 e) :
    ViewsCurrent ((viewMonitor client).step p e).1 ((viewMonitor client).step p e).2 := by
  have hclear : ViewsCurrent { p.1 with sent := [] } p.2 :=
    ⟨hv.open_iff, hv.current, hv.named, hv.orderly⟩
  have := hclear.handle hs.clearSent rfl (e := e) (by cases e <;> exact he)
  cases e <;> exact this

end ViewsCurrent

/-- **The views of the monitors are current**: throughout a run in which the exports succeed,
every open session has been told the screensaver's and the user's session's current state last,
the latter is the one the session manager named last, and a session that is not open is never
told anything. -/
theorem views_current (client : Bool) (evs : List Event)
    (h : (monitor client).Along ExportSucceeds (initial client) evs) :
    ViewsCurrent ((viewMonitor client).run evs).1 ((viewMonitor client).run evs).2 := by
  have halong : (viewMonitor client).Along (fun p e => ExportSucceeds p.1 e)
      (viewMonitor client).init evs := Machine.along_observe.mpr h
  have hstep : ∀ (p : State × History) e, Consistent p.1 ∧ ViewsCurrent p.1 p.2 →
      ExportSucceeds p.1 e → Consistent ((viewMonitor client).step p e).1 ∧
        ViewsCurrent ((viewMonitor client).step p e).1 ((viewMonitor client).step p e).2 := by
    intro p e hp he
    have hs : Consistent ((monitor client).step p.1 e) := hp.1.step he
    exact ⟨hs, hp.2.step hp.1 he⟩
  exact (Machine.inv_run ⟨Consistent.initial client, ViewsCurrent.initial client⟩ hstep halong).2

/-- A session is opened under a locked screen, told about the end of the user's session, closed,
and opened again. -/
theorem views_current_reopened :
    ((viewMonitor true).run [.activeChanged true, .createMonitor "/a" true,
        .clientSignal "QueryEndSession", .close "/a", .createMonitor "/a" true]).2.log.head?
      = some (.changed "/a" true 2) ∧
    ViewsCurrent ((viewMonitor true).run [.activeChanged true, .createMonitor "/a" true,
        .clientSignal "QueryEndSession", .close "/a", .createMonitor "/a" true]).1
      ((viewMonitor true).run [.activeChanged true, .createMonitor "/a" true,
        .clientSignal "QueryEndSession", .close "/a", .createMonitor "/a" true]).2 :=
  ⟨by decide, views_current true _ (by decide)⟩

end XappPortal.Monitor
