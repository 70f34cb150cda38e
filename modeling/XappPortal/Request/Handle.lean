/-
# Requests with a handle

The interfaces that answer a method call later keep what they need for it in a heap-allocated
handle, which owns the request and is shared by the `Close` handler and the callbacks of the
operations that are started for the call; sending the response frees it.  This file has what
`screenshot.c` and `wallpaper.c` do alike.

An access to a handle after it has been freed is undefined behaviour in C and is recorded by the
flag `useAfterFree`.
-/
import Mathlib.Data.List.Basic
import XappPortal.Request.Object

namespace XappPortal

open Request

/-- A request together with its handle `η`, the callbacks `π` that are still to be called with the
handle, and the results `ρ` that have been delivered to callbacks. -/
structure Handled (η π ρ : Type) where
  request : Request
  /-- The handle, as long as it is allocated. -/
  handle : Option η
  pending : List π
  delivered : List ρ
  closeDelivered : Bool
  /-- Whether the handle has been accessed after it was freed. -/
  useAfterFree : Bool
deriving DecidableEq, Repr

/-- A cancellable, which knows whether it has been cancelled. -/
structure Cancellable where
  cancelled : Bool
deriving DecidableEq, Repr

namespace Handled

variable {η π ρ ω : Type}

/-- Access the handle through a pointer. -/
def access (x : Handled η π ρ) (k : η → Handled η π ρ × List ω) : Handled η π ρ × List ω :=
  match x.handle with
  | none => ({ x with useAfterFree := true }, [])
  | some h => k h

/-- Write to the handle. -/
def write (x : Handled η π ρ) (f : η → η) : Handled η π ρ :=
  match x.handle with
  | none => { x with useAfterFree := true }
  | some h => { x with handle := some (f h) }

/-- The handle of a method call is allocated, takes a reference to the new request, and the request
is exported. -/
def create (request : Request) (exportOk : Bool) (h : η) : Handled η π ρ where
  request := requestExport exportOk (objectRef request)
  handle := some h
  pending := []
  delivered := []
  closeDelivered := false
  useAfterFree := false

/-- The handler of the method call returns and gives up its own reference to the request. -/
def leave (x : Handled η π ρ) : Handled η π ρ := { x with request := objectUnref x.request }

/-- An operation is started that calls back with the handle. -/
def start (p : π) (x : Handled η π ρ) : Handled η π ρ := { x with pending := p :: x.pending }

/-- The free function of the handle, which gives up its reference to the request. -/
def free (x : Handled η π ρ) : Handled η π ρ :=
  { x with request := objectUnref x.request, handle := none }

/-- The body of the functions `send_response`: the request is unexported, the invocation is
completed and the handle is freed. -/
def sendResponse (complete : η → ω) (x : Handled η π ρ) : Handled η π ρ × List ω :=
  x.access fun h =>
    let x := { x with request := unexportIfExported x.request }
    (x.free, [complete h])

/-- A pending callback is called with a result.  An operation calls back once. -/
def receive [DecidableEq π] (p : π) (r : ρ) (callback : Handled η π ρ → Handled η π ρ × List ω)
    (x : Handled η π ρ) : Handled η π ρ × List ω :=
  if p ∈ x.pending then
    callback { x with pending := x.pending.erase p, delivered := x.delivered ++ [r] }
  else (x, [])

/-- GDBus holds a reference to the request while it handles a `Close` call.  The handlers that are
connected return `FALSE`, so that the handler of the class runs after them. -/
def dispatchClose (handler : Handled η π ρ → Handled η π ρ × List ω) (completeClose : ω)
    (x : Handled η π ρ) : Handled η π ρ × List ω :=
  let (x, out) := handler { x with request := objectRef x.request, closeDelivered := true }
  ({ x with request := objectUnref (handleClose x.request) }, out ++ [completeClose])

/-! ## What the functions do -/

variable {x : Handled η π ρ} {h : η} {n : ℕ}

lemma access_eq (hh : x.handle = some h) (k : η → Handled η π ρ × List ω) :
    x.access k = k h := by
  rw [access, hh]

lemma write_eq (hh : x.handle = some h) (f : η → η) :
    x.write f = { x with handle := some (f h) } := by
  rw [write, hh]

/-- A handle that has been written to was there before. -/
lemma handle_of_write {f : η → η} {h' : η} (hh' : (x.write f).handle = some h') :
    ∃ h, x.handle = some h ∧ f h = h' := by
  cases hh : x.handle with
  | none =>
    simp [write, hh] at hh'
  | some h =>
    rw [write_eq hh] at hh'
    exact ⟨h, rfl, Option.some.inj hh'⟩

@[simp] lemma write_request (x : Handled η π ρ) (f : η → η) :
    (x.write f).request = x.request := by
  rw [write]
  split <;> rfl

@[simp] lemma write_pending (x : Handled η π ρ) (f : η → η) :
    (x.write f).pending = x.pending := by
  rw [write]
  split <;> rfl

@[simp] lemma write_delivered (x : Handled η π ρ) (f : η → η) :
    (x.write f).delivered = x.delivered := by
  rw [write]
  split <;> rfl

@[simp] lemma write_closeDelivered (x : Handled η π ρ) (f : η → η) :
    (x.write f).closeDelivered = x.closeDelivered := by
  rw [write]
  split <;> rfl

/-- A request whose response has been sent, with `n` references that are held by handlers. -/
def answered (n : ℕ) (x : Handled η π ρ) : Handled η π ρ :=
  { x with
    request := { x.request with exported := false, registered := false, refCount := n }
    handle := none }

/-- Sending the response ends the registration, and the references of the export and of the
handle. -/
lemma sendResponse_eq (hh : x.handle = some h) (howned : x.request.Owned (n + 1))
    (complete : η → ω) : x.sendResponse complete = (x.answered n, [complete h]) := by
  have href := howned.refCount
  have hpos : x.request.refCount ≠ 0 := by omega
  rw [sendResponse, access_eq hh, answered]
  simp only [free, howned.unexportIfExported_eq hpos, (howned.of_unexport (n + 1)).objectUnref_eq,
    Nat.add_sub_cancel]

/-- The only pending callback is called. -/
lemma receive_eq [DecidableEq π] {p : π} (hp : x.pending = [p]) (r : ρ)
    (callback : Handled η π ρ → Handled η π ρ × List ω) :
    x.receive p r callback
      = callback { x with pending := [], delivered := x.delivered ++ [r] } := by
  simp [receive, hp]

/-- A callback that is not pending is not called. -/
lemma receive_of_notMem [DecidableEq π] {p : π} (hp : p ∉ x.pending) (r : ρ)
    (callback : Handled η π ρ → Handled η π ρ × List ω) : x.receive p r callback = (x, []) :=
  if_neg hp

/-- A new request has the references of its handler and of its handle. -/
lemma create_owned (sender appId id : String) (exportOk : Bool) :
    (create (requestNew sender appId id) exportOk h : Handled η π ρ).request.Owned 2 := by
  cases exportOk
  · exact ⟨rfl, rfl, rfl, fun _ => rfl⟩
  · exact ⟨rfl, rfl, rfl, fun _ => rfl⟩

lemma create_exported (sender appId id : String) (exportOk : Bool) :
    (create (requestNew sender appId id) exportOk h : Handled η π ρ).request.exported = true := by
  cases exportOk <;> rfl

/-- A handler that returns gives up one reference. -/
lemma leave_eq (howned : x.request.Owned (n + 1)) :
    x.leave = { x with request := { x.request with refCount := x.request.refCount - 1 } } := by
  rw [leave, howned.objectUnref_eq]

/-- A `Close` call unexports the request, whatever the connected handler does to the handle. -/
lemma dispatchClose_eq (howned : x.request.Owned 1) (hreg : x.request.registered = true)
    {handler : Handled η π ρ → Handled η π ρ × List ω} {handle : Option η} {pending : List π}
    {out : List ω}
    (hhandler : handler { x with request := objectRef x.request, closeDelivered := true }
      = ({ x with
            request := objectRef x.request, handle := handle, pending := pending
            closeDelivered := true },
          out))
    (completeClose : ω) :
    x.dispatchClose handler completeClose
      = ({ x with
            request := { x.request with exported := false, registered := false, refCount := 1 }
            handle := handle
            pending := pending
            closeDelivered := true },
          out ++ [completeClose]) := by
  rw [dispatchClose, hhandler, ← howned.close_eq hreg]
  rfl

/-! ## What stays in the handle -/

/-- From `x` to `y` the part `f` of the handle stays the same, or the handle is freed. -/
def Keeps {β : Type} (f : η → β) (x y : Handled η π ρ) : Prop :=
  ∀ h', y.handle = some h' → ∃ h, x.handle = some h ∧ f h = f h'

namespace Keeps

variable {β : Type} {f : η → β} {y z : Handled η π ρ}

lemma of_handle (h : y.handle = x.handle) : Keeps f x y :=
  fun h' hh' => ⟨h', h ▸ hh', rfl⟩

lemma trans (h₁ : Keeps f x y) (h₂ : Keeps f y z) : Keeps f x z := by
  intro h'' hh''
  obtain ⟨h', hh', heq'⟩ := h₂ h'' hh''
  obtain ⟨h, hh, heq⟩ := h₁ h' hh'
  exact ⟨h, hh, heq.trans heq'⟩

lemma write {g : η → η} (hg : ∀ h, f (g h) = f h) : Keeps f x (x.write g) := by
  intro h' hh'
  obtain ⟨h, hh, rfl⟩ := handle_of_write hh'
  exact ⟨h, hh, (hg h).symm⟩

lemma access {k : η → Handled η π ρ × List ω} (hk : ∀ h, Keeps f x (k h).1) :
    Keeps f x (x.access k).1 := by
  rw [Handled.access]
  split
  · exact of_handle rfl
  · exact hk _

lemma sendResponse (complete : η → ω) : Keeps f x (x.sendResponse complete).1 :=
  access fun _ _ hh' => by cases hh'

lemma receive [DecidableEq π] {p : π} {r : ρ}
    {callback : Handled η π ρ → Handled η π ρ × List ω}
    (hcallback : ∀ y, Keeps f y (callback y).1) : Keeps f x (x.receive p r callback).1 := by
  rw [Handled.receive]
  split
  · exact (of_handle rfl).trans (hcallback _)
  · exact of_handle rfl

lemma dispatchClose {handler : Handled η π ρ → Handled η π ρ × List ω} {completeClose : ω}
    (hhandler : ∀ y, Keeps f y (handler y).1) :
    Keeps f x (x.dispatchClose handler completeClose).1 := by
  have hheld : Keeps f x { x with request := objectRef x.request, closeDelivered := true } :=
    of_handle rfl
  exact (hheld.trans (hhandler _)).trans (of_handle rfl)

end Keeps

end Handled

end XappPortal
