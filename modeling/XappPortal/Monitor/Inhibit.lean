/-
# Session monitors

The half of `inhibit.c` that serves `CreateMonitor` and `QueryEndResponse`: it keeps the list of
monitoring sessions, tells them about the session state and the screensaver, and answers the
session manager's `QueryEndSession` once all of them have responded or one second has passed.

`monitor` is the machine whose events are everything the main loop can hand to this code.
-/
import XappPortal.Lib.Machine
import XappPortal.Monitor.Session

namespace XappPortal.Monitor

open XappPortal.Lib

/-! ## Sessions -/

/-- `emit_state_changed`. -/
def emitStateChanged (a : ℕ) (s : State) : State :=
  s.access a fun x => s.send (.stateChanged x.id s.screensaverActive s.sessionState.toUInt32)

/-- `global_emit_state_changed`. -/
def globalEmitStateChanged (s : State) : State :=
  s.activeSessions.foldl (fun s a => emitStateChanged a s) s

/-- The assignment of `global_set_pending_query_end_response` to one session. -/
def setPending (pending : Bool) (x : InhibitSession) : InhibitSession :=
  { x with pendingQueryEndResponse := pending }

/-- `global_set_pending_query_end_response`. -/
def globalSetPendingQueryEndResponse (pending : Bool) (s : State) : State :=
  s.activeSessions.foldl (fun s a => s.update a (setPending pending)) s

/-- The loop of `global_get_pending_query_end_response`, which stops at the first pending
session. -/
def getPending : List ℕ → State → Bool × State
  | [], s => (false, s)
  | a :: l, s =>
      match s.heap.cell a with
      | none => getPending l { s with useAfterFree := true }
      | some x => if x.pendingQueryEndResponse then (true, s) else getPending l s

/-- `global_get_pending_query_end_response`. -/
def globalGetPendingQueryEndResponse (s : State) : Bool × State := getPending s.activeSessions s

/-- `inhibit_session_close`, which reads the session's id for a debug message. -/
def inhibitSessionClose (a : ℕ) (s : State) : State :=
  s.access a fun _ => { s with activeSessions := s.activeSessions.erase a }

/-- `inhibit_session_new`. -/
def inhibitSessionNew (sessionHandle : String) (s : State) : ℕ × State :=
  let a := s.heap.next
  let x := { exported := false, closed := false, id := sessionHandle, refCount := 1,
             pendingQueryEndResponse := false }
  let s := sessionConstructed a { s with heap := s.heap.alloc x }
  -- the session is listed before its export
  (a, { s with activeSessions := a :: s.activeSessions })

/-! ## The end of the user's session -/

/-- `send_quit_response`. -/
def sendQuitResponse (willQuit : Bool) (reason : Option String) (s : State) : State :=
  s.send (.endSessionResponse willQuit (reason.getD ""))

/-- `set_session_state`. -/
def setSessionState (state : SessionState) (s : State) : State :=
  globalEmitStateChanged { s with sessionState := state }

/-- `stop_waiting_for_query_end_response`. -/
def stopWaitingForQueryEndResponse (sendResponse : Bool) (s : State) : State :=
  let s := if s.queryEndTimeout ≠ 0 then
      { s with timers := s.timers.erase s.queryEndTimeout, queryEndTimeout := 0 }
    else s
  let s := globalSetPendingQueryEndResponse false s
  if sendResponse && s.client then sendQuitResponse true none s else s

/-- `query_end_response`, the callback of the timer. -/
def queryEndResponse (s : State) : State := stopWaitingForQueryEndResponse true s

/-- `wait_for_query_end_response`. -/
def waitForQueryEndResponse (s : State) : State :=
  if s.queryEndTimeout ≠ 0 then s
  else
    let source := s.nextSource
    let s := { s with timers := source :: s.timers, nextSource := source + 1,
                      queryEndTimeout := source }
    globalSetPendingQueryEndResponse true s

/-- `maybe_send_quit_response`. -/
def maybeSendQuitResponse (s : State) : State :=
  if s.queryEndTimeout = 0 then s
  else if !s.client then s
  else
    match globalGetPendingQueryEndResponse s with
    | (true, s) => s
    | (false, s) => stopWaitingForQueryEndResponse true s

/-- `client_proxy_signal`. -/
def clientProxySignal (signalName : String) (s : State) : State :=
  if signalName = "QueryEndSession" then
    maybeSendQuitResponse (setSessionState .queryEnd (waitForQueryEndResponse s))
  else if signalName = "CancelEndSession" then
    setSessionState .running (stopWaitingForQueryEndResponse false s)
  else if signalName = "EndSession" then
    sendQuitResponse true none (setSessionState .ending (stopWaitingForQueryEndResponse false s))
  else s

/-! ## Method calls and signals of the bus -/

/-- `handle_create_monitor`. -/
def handleCreateMonitor (sessionHandle : String) (busOk : Bool) (s : State) : State :=
  match inhibitSessionNew sessionHandle s with
  | (session, s) =>
      match sessionExport busOk session s with
      | (false, s) => (objectUnref session s).send (.createMonitorReply 2)
      | (true, s) => emitStateChanged session (s.send (.createMonitorReply 0))

/-- `handle_query_end_response`. -/
def handleQueryEndResponse (sessionHandle : String) (s : State) : State :=
  let s := match lookupSession s sessionHandle with
    | none => s
    | some session => maybeSendQuitResponse (s.update session (setPending false))
  s.send .queryEndResponseReply

/-- `global_active_changed_cb`. -/
def globalActiveChangedCb (active : Bool) (s : State) : State :=
  globalEmitStateChanged { s with screensaverActive := active }

/-! ## The machine -/

/-- What the main loop hands to the portal. -/
inductive Event where
  /-- A `CreateMonitor` call; `busOk` tells whether the bus can take a registration. -/
  | createMonitor (sessionHandle : String) (busOk : Bool)
  /-- A `Close` call on a session. -/
  | close (path : String)
  /-- A `QueryEndResponse` call. -/
  | queryEndResponse (sessionHandle : String)
  /-- A signal of the session manager to its client. -/
  | clientSignal (signalName : String)
  /-- The expiry of a timer source. -/
  | timeout (source : ℕ)
  /-- A change of the screensaver. -/
  | activeChanged (active : Bool)
deriving DecidableEq, Repr

/-- The main loop dispatches a live timer source; its callback returns `G_SOURCE_REMOVE`. -/
def dispatchTimeout (source : ℕ) (s : State) : State :=
  if source ∈ s.timers then
    let s := queryEndResponse s
    { s with timers := s.timers.erase source }
  else s

/-- The handler of an event.  Client signals arrive only through the proxy `client`. -/
def handle (e : Event) (s : State) : State :=
  match e with
  | .createMonitor sessionHandle busOk => handleCreateMonitor sessionHandle busOk s
  | .close path => dispatchClose inhibitSessionClose path s
  | .queryEndResponse sessionHandle => handleQueryEndResponse sessionHandle s
  | .clientSignal signalName => if s.client then clientProxySignal signalName s else s
  | .timeout source => dispatchTimeout source s
  | .activeChanged active => globalActiveChangedCb active s

/-- The state after start-up, with or without a proxy for the session manager's client. -/
def initial (client : Bool) : State where
  heap := Heap.empty
  sessions _ := none
  registered _ := none
  activeSessions := []
  sessionState := .running
  screensaverActive := false
  queryEndTimeout := 0
  client := client
  timers := []
  nextSource := 1
  sent := []
  useAfterFree := false

/-- The session monitors as a machine. -/
def monitor (client : Bool) : Machine State Event where
  init := initial client
  step s e := handle e { s with sent := [] }

end XappPortal.Monitor
