/-
# Session objects

The state behind the session monitors of the Inhibit portal, and the functions of `session.c`
over it.  Pointers to sessions are addresses of a heap; reading or writing through a pointer
whose session has been finalized is undefined behaviour in C, and is recorded here by the flag
`useAfterFree`, after which nothing is claimed about the state.

GObject and GDBus are modelled by what they promise: reference counting with finalization at
zero, one registered object per object path, and a reference to the object held while a method
call on it is dispatched.
-/
import XappPortal.Lib.Heap
import Mathlib.Logic.Function.Basic

namespace XappPortal.Monitor

open XappPortal.Lib

/-- `SessionState` of `inhibit.c`. -/
inductive SessionState where
  | unknown
  | running
  | queryEnd
  | ending
deriving DecidableEq, Repr

/-- The value of the C enumeration. -/
def SessionState.toUInt32 : SessionState → UInt32
  | .unknown => 0
  | .running => 1
  | .queryEnd => 2
  | .ending => 3

/-- `struct _Session`, with the reference count of its GObject. -/
structure Session where
  exported : Bool
  closed : Bool
  id : String
  refCount : ℕ
deriving DecidableEq, Repr

/-- `InhibitSession`. -/
structure InhibitSession extends Session where
  pendingQueryEndResponse : Bool
deriving DecidableEq, Repr

/-- What the portal sends: replies to the method calls it handles, the `StateChanged` signal of
a session, and the `EndSessionResponse` call to the session manager. -/
inductive Message where
  | createMonitorReply (response : UInt32)
  | closeReply
  | queryEndResponseReply
  | stateChanged (id : String) (screensaverActive : Bool) (sessionState : UInt32)
  | endSessionResponse (willQuit : Bool) (reason : String)
deriving DecidableEq, Repr

/-- The state of the portal process and of the libraries it runs on. -/
structure State where
  /-- The `InhibitSession` objects. -/
  heap : Heap InhibitSession
  /-- The hash table `sessions` of `session.c`. -/
  sessions : String → Option ℕ
  /-- The sessions GDBus has registered, by object path. -/
  registered : String → Option ℕ
  /-- The list `active_sessions`. -/
  activeSessions : List ℕ
  /-- The global `session_state`. -/
  sessionState : SessionState
  /-- The global `screensaver_active`. -/
  screensaverActive : Bool
  /-- The source id `query_end_timeout`, or 0. -/
  queryEndTimeout : ℕ
  /-- Whether the proxy `client` exists. -/
  client : Bool
  /-- The live timer sources of the main loop. -/
  timers : List ℕ
  /-- The id the main loop gives to the next source. -/
  nextSource : ℕ
  /-- The messages sent while handling the last event. -/
  sent : List Message
  /-- Whether a finalized session has been accessed. -/
  useAfterFree : Bool

namespace State

/-- Send a message. -/
def send (s : State) (m : Message) : State := { s with sent := s.sent ++ [m] }

/-- Continue with the session a pointer refers to. -/
def access (s : State) (a : ℕ) (k : InhibitSession → State) : State :=
  match s.heap.cell a with
  | some x => k x
  | none => { s with useAfterFree := true }

/-- Write through a pointer to a session. -/
def update (s : State) (a : ℕ) (f : InhibitSession → InhibitSession) : State :=
  s.access a fun _ => { s with heap := s.heap.modify a f }

variable {s : State} {a : ℕ} {x : InhibitSession}

lemma access_of_alive (hx : s.heap.cell a = some x) (k : InhibitSession → State) :
    s.access a k = k x := by
  simp [access, hx]

lemma update_of_alive (hx : s.heap.cell a = some x) (f : InhibitSession → InhibitSession) :
    s.update a f = { s with heap := s.heap.modify a f } := by
  rw [update, access_of_alive hx]

end State

/-! ## GObject and GDBus -/

/-- `g_object_ref`. -/
def objectRef (a : ℕ) (s : State) : State :=
  s.update a fun x => { x with refCount := x.refCount + 1 }

/-- `g_dbus_interface_skeleton_unexport`. -/
def skeletonUnexport (a : ℕ) (s : State) : State :=
  { s with registered := fun path => if s.registered path = some a then none
                                     else s.registered path }

/-- `session_finalize`, ending with the parent's finalizer, which unexports the skeleton and
frees the object. -/
def sessionFinalize (a : ℕ) (x : InhibitSession) (s : State) : State :=
  -- the entry of the id is removed, whichever session it is for
  let s := { s with sessions := Function.update s.sessions x.id none }
  let s := skeletonUnexport a s
  { s with heap := s.heap.free a }

/-- `g_object_unref`. -/
def objectUnref (a : ℕ) (s : State) : State :=
  s.access a fun x =>
    if x.refCount ≤ 1 then sessionFinalize a x s
    else s.update a fun x => { x with refCount := x.refCount - 1 }

/-! ## `session.c` -/

/-- `session_constructed`. -/
def sessionConstructed (a : ℕ) (s : State) : State :=
  s.access a fun x => { s with sessions := Function.update s.sessions x.id (some a) }

/-- `lookup_session`. -/
def lookupSession (s : State) (id : String) : Option ℕ := s.sessions id

/-- `session_export`.  The bus takes the object if it can take registrations at all (`busOk`)
and no session is registered at the path yet. -/
def sessionExport (busOk : Bool) (a : ℕ) (s : State) : Bool × State :=
  match s.heap.cell a with
  | none => (false, { s with useAfterFree := true })
  | some x =>
      if busOk && (s.registered x.id).isNone then
        let s := { s with registered := Function.update s.registered x.id (some a) }
        let s := objectRef a s
        (true, s.update a fun x => { x with exported := true })
      else (false, s)

/-- `session_unexport`. -/
def sessionUnexport (a : ℕ) (s : State) : State :=
  let s := s.update a fun x => { x with exported := false }
  objectUnref a (skeletonUnexport a s)

/-- `session_close`; `close` is the virtual method of the session's class. -/
def sessionClose (close : ℕ → State → State) (a : ℕ) (s : State) : State :=
  s.access a fun x =>
    let s := if x.exported then sessionUnexport a s else s
    let s := s.update a fun x => { x with closed := true }
    objectUnref a (close a s)

/-- `handle_close`. -/
def handleClose (close : ℕ → State → State) (a : ℕ) (s : State) : State :=
  s.access a fun x =>
    let s := if !x.closed then sessionClose close a s else s
    s.send .closeReply

/-- GDBus delivers a `Close` call to the session registered at the path, holding a reference
meanwhile; without one the caller gets an error and the portal sees nothing. -/
def dispatchClose (close : ℕ → State → State) (path : String) (s : State) : State :=
  match s.registered path with
  | none => s
  | some a => objectUnref a (handleClose close a (objectRef a s))

end XappPortal.Monitor
