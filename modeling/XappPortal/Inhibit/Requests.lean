/-
# Inhibit requests

The half of `inhibit.c` that serves `Inhibit`.  A call creates a request and asks a backend for an
inhibitor, `org.gnome.SessionManager` or `org.freedesktop.ScreenSaver`; the backend answers with a
cookie, and the cookie is given back when the request is closed.  The `Close` call and the answer
may come in either order, and communicate through the object data `cookie` and `closed`.

The handlers for the two backends differ in the messages they send, and in that the second one
supports nothing but idle inhibitors.
-/
import XappPortal.Request.Service

namespace XappPortal.Inhibit

open XappPortal Request

/-- The service that `inhibit_init` has found for inhibitors. -/
inductive Backend where
  | gnome
  | fdo
deriving DecidableEq, Repr

/-- The state of the `Inhibit` call to the backend. -/
inductive Call where
  | inFlight
  | failed
  | granted (cookie : UInt32)
deriving DecidableEq, Repr

/-- The answer to the `Inhibit` call to the backend. -/
inductive Reply where
  | failure
  | success (cookie : UInt32)
deriving DecidableEq, Repr

/-- A request with the object data of `inhibit.c`, the state of the call that was made for it, and
whether a `Close` call has been delivered to it. -/
structure InhibitRequest where
  request : Request
  /-- The object data `cookie`, which is 0 when it is not set. -/
  cookie : UInt32
  /-- The object data `closed`. -/
  closed : Bool
  call : Call
  closeDelivered : Bool
deriving DecidableEq, Repr

/-- The messages sent by the portal. -/
inductive Message where
  /-- `org.gnome.SessionManager.Inhibit`. -/
  | gnomeInhibit (appId : String) (toplevelXid : UInt32) (reason : String) (flags : UInt32)
  /-- `org.gnome.SessionManager.Uninhibit`. -/
  | gnomeUninhibit (cookie : UInt32)
  /-- `org.freedesktop.ScreenSaver.Inhibit`. -/
  | fdoInhibit (appName reason : String)
  /-- `org.freedesktop.ScreenSaver.UnInhibit`. -/
  | fdoUnInhibit (cookie : UInt32)
  | completeInhibit
  | completeClose
  /-- An error answer to a method call. -/
  | returnError (name text : String)
deriving DecidableEq, Repr

/-- The cookie that a message gives back. -/
def Message.released : Message → Option UInt32
  | .gnomeUninhibit cookie => some cookie
  | .fdoUnInhibit cookie => some cookie
  | _ => none

/-- The arguments of an `Inhibit` call, `reason` being the option of that name. -/
structure InhibitCall where
  sender : String
  handle : String
  appId : String
  flags : UInt32
  reason : Option String
deriving DecidableEq, Repr

/-- `INHIBIT_IDLE`. -/
def inhibitIdle : UInt32 := 8

/-! ## Closing a request -/

/-- The body of `handle_close_gnome` and `handle_close_fdo`: if the `Close` call comes before the
`Inhibit` call has returned, giving back the cookie is delayed until there is one. -/
def handleClose (uninhibit : UInt32 → Message) (a : InhibitRequest) :
    InhibitRequest × List Message :=
  let (a, out) :=
    if a.cookie ≠ 0 then (a, [uninhibit a.cookie]) else ({ a with closed := true }, [])
  ({ a with request := unexportIfExported a.request }, out ++ [.completeClose])

/-- `handle_close_gnome`. -/
def handleCloseGnome : InhibitRequest → InhibitRequest × List Message :=
  handleClose .gnomeUninhibit

/-- `handle_close_fdo`. -/
def handleCloseFdo : InhibitRequest → InhibitRequest × List Message := handleClose .fdoUnInhibit

/-- GDBus holds a reference to the object while it handles a method call.  The handlers return
`TRUE`, so that the handler of the class does not run. -/
def dispatchClose (handler : InhibitRequest → InhibitRequest × List Message)
    (a : InhibitRequest) : InhibitRequest × List Message :=
  let (a, out) := handler { a with request := objectRef a.request, closeDelivered := true }
  ({ a with request := objectUnref a.request }, out)

/-! ## The answer of the backend -/

/-- The cookie of `inhibit_done_*` after the call of the finish function. -/
def Reply.cookie : Reply → UInt32
  | .failure => 0
  | .success cookie => cookie

/-- The call after its answer. -/
def Reply.outcome : Reply → Call
  | .failure => .failed
  | .success cookie => .granted cookie

/-- The body of `inhibit_done_gnome` and `inhibit_done_fdo`, which takes over the reference of the
call.  A call is answered once. -/
def inhibitDone (uninhibit : UInt32 → Message) (reply : Reply) (a : InhibitRequest) :
    InhibitRequest × List Message :=
  if a.call = .inFlight then
    let a := { a with call := reply.outcome }
    -- a closed request gives back its cookie without asking whether there is one
    let (a, out) :=
      if a.closed then (a, [uninhibit reply.cookie]) else ({ a with cookie := reply.cookie }, [])
    ({ a with request := objectUnref a.request }, out)
  else (a, [])

/-- `inhibit_done_gnome`. -/
def inhibitDoneGnome : Reply → InhibitRequest → InhibitRequest × List Message :=
  inhibitDone .gnomeUninhibit

/-- `inhibit_done_fdo`. -/
def inhibitDoneFdo : Reply → InhibitRequest → InhibitRequest × List Message :=
  inhibitDone .fdoUnInhibit

/-! ## Creating a request -/

/-- The request of an `Inhibit` call: it is exported, the call to the backend takes a reference,
and the handler gives up its own at the end. -/
def inhibitRequest (n : InhibitCall) (exportOk : Bool) : InhibitRequest where
  request :=
    objectUnref (objectRef (requestExport exportOk (requestNew n.sender n.appId n.handle)))
  cookie := 0
  closed := false
  call := .inFlight
  closeDelivered := false

/-- `handle_inhibit_gnome`. -/
def handleInhibitGnome (n : InhibitCall) (exportOk : Bool) :
    Except Message (InhibitRequest × List Message) :=
  let reason := n.reason.getD ""
  .ok (inhibitRequest n exportOk, [.gnomeInhibit n.appId 0 reason n.flags, .completeInhibit])

/-- `handle_inhibit_fdo`. -/
def handleInhibitFdo (n : InhibitCall) (exportOk : Bool) :
    Except Message (InhibitRequest × List Message) :=
  if n.flags &&& ~~~inhibitIdle ≠ 0 then
    .error (.returnError "org.freedesktop.portal.Error.Failed"
      "Inhibiting other than idle not supported")
  else
    let reason := n.reason.getD ""
    .ok (inhibitRequest n exportOk, [.fdoInhibit n.appId reason, .completeInhibit])

/-- The `Inhibit` half of the interface, with the handlers that `inhibit_init` connects. -/
def service : Backend → Service InhibitRequest InhibitCall Reply Message
  | .gnome =>
    { request := InhibitRequest.request
      path := InhibitCall.handle
      call := handleInhibitGnome
      close := dispatchClose handleCloseGnome
      deliver := inhibitDoneGnome }
  | .fdo =>
    { request := InhibitRequest.request
      path := InhibitCall.handle
      call := handleInhibitFdo
      close := dispatchClose handleCloseFdo
      deliver := inhibitDoneFdo }

/-- The `Inhibit` calls that are not refused. -/
def accepts : Backend → InhibitCall → Bool
  | .gnome, _ => true
  | .fdo, n => n.flags &&& ~~~inhibitIdle == 0

/-- The message by which an inhibitor is given back. -/
def uninhibit : Backend → UInt32 → Message
  | .gnome => .gnomeUninhibit
  | .fdo => .fdoUnInhibit

/-- The events of the service. -/
abbrev Event := Service.Event InhibitCall Reply

end XappPortal.Inhibit
