/-
# Request objects

The functions of `request.c` on one request object.  As for sessions, an access to a finalized
object is undefined behaviour in C and is recorded by the flag `useAfterFree`; a call of
`request_unexport` on a request that is not exported is recorded by `badUnexport`.

Whether GDBus has the object registered at its path is part of the record; that field is the
library's, while `exported` is what the code believes.
-/
import Mathlib.Tactic.Common

namespace XappPortal

/-- `struct _Request`, with the reference count of its GObject and its registration. -/
structure Request where
  exported : Bool
  sender : String
  appId : String
  id : String
  /-- The reference count; 0 once the object is finalized. -/
  refCount : ℕ
  /-- Whether GDBus has the object registered at `id`. -/
  registered : Bool
  /-- Whether the object has been accessed after its finalization. -/
  useAfterFree : Bool
  /-- Whether `request_unexport` has been called while `exported` was false. -/
  badUnexport : Bool
deriving DecidableEq, Repr

namespace Request

/-- Access the object through a pointer. -/
def access (r : Request) (k : Request → Request) : Request :=
  if r.refCount = 0 then { r with useAfterFree := true } else k r

/-- `g_object_ref`. -/
def objectRef (r : Request) : Request :=
  r.access fun r => { r with refCount := r.refCount + 1 }

/-- `request_finalize`, ending with the parent's finalizer, which unexports the skeleton. -/
def requestFinalize (r : Request) : Request := { r with refCount := 0, registered := false }

/-- `g_object_unref`. -/
def objectUnref (r : Request) : Request :=
  r.access fun r =>
    if r.refCount = 1 then requestFinalize r else { r with refCount := r.refCount - 1 }

/-- `request_new`. -/
def requestNew (sender appId id : String) : Request where
  exported := false
  sender := sender
  appId := appId
  id := id
  refCount := 1
  registered := false
  useAfterFree := false
  badUnexport := false

/-- `request_export`; `exportOk` is the result of `g_dbus_interface_skeleton_export`, of which a
failure is only warned about. -/
def requestExport (exportOk : Bool) (r : Request) : Request :=
  r.access fun r =>
    let r := { r with registered := exportOk }
    -- the request counts as exported even if it is not registered
    let r := objectRef r
    { r with exported := true }

/-- `request_unexport`. -/
def requestUnexport (r : Request) : Request :=
  r.access fun r =>
    let r := { r with badUnexport := r.badUnexport || !r.exported, exported := false }
    let r := { r with registered := false }
    objectUnref r

/-- The statement `if (request->exported) request_unexport (request);` of the Close handlers and
of the functions that send a response. -/
def unexportIfExported (r : Request) : Request :=
  r.access fun r => if r.exported then requestUnexport r else r

/-- `handle_close`, the handler of the class, up to its reply. -/
def handleClose (r : Request) : Request := unexportIfExported r

/-! ## Registration -/

/-- The object keeps its handle and is not registered anew. -/
structure LeadsTo (r r' : Request) : Prop where
  id : r'.id = r.id
  registered : r'.registered = true → r.registered = true

namespace LeadsTo

variable {r r' r'' : Request}

lemma refl (r : Request) : LeadsTo r r := ⟨rfl, fun h => h⟩

lemma trans (h : LeadsTo r r') (h' : LeadsTo r' r'') : LeadsTo r r'' :=
  ⟨h'.id.trans h.id, fun hr => h.registered (h'.registered hr)⟩

lemma access {k : Request → Request} (hk : LeadsTo r (k r)) : LeadsTo r (r.access k) := by
  rw [Request.access]
  split
  · exact ⟨rfl, fun h => h⟩
  · exact hk

lemma objectRef (r : Request) : LeadsTo r (objectRef r) := access ⟨rfl, fun h => h⟩

lemma objectUnref (r : Request) : LeadsTo r (objectUnref r) := by
  refine access ?_
  split
  · exact ⟨rfl, fun h => absurd h (by simp [requestFinalize])⟩
  · exact ⟨rfl, fun h => h⟩

lemma requestUnexport (r : Request) : LeadsTo r (requestUnexport r) := by
  refine access (trans ?_ (objectUnref _))
  exact ⟨rfl, fun h => absurd h (by simp)⟩

lemma unexportIfExported (r : Request) : LeadsTo r (unexportIfExported r) := by
  refine access ?_
  split
  · exact requestUnexport r
  · exact refl r

end LeadsTo

/-! ## Ownership -/

/-- Nothing has gone wrong with the object, and it has `n` references beside that of its export,
which it has until it is unexported. -/
structure Owned (n : ℕ) (r : Request) : Prop where
  refCount : r.refCount = n + if r.exported then 1 else 0
  useAfterFree : r.useAfterFree = false
  badUnexport : r.badUnexport = false
  exported_of_registered : r.registered = true → r.exported = true

namespace Owned

variable {n : ℕ} {r : Request}

lemma registered_of_not_exported (h : Owned n r) (he : r.exported = false) :
    r.registered = false := by
  by_contra hr
  rw [h.exported_of_registered (by simpa using hr)] at he
  exact absurd he (by simp)

lemma objectRef_eq (hpos : r.refCount ≠ 0) :
    objectRef r = { r with refCount := r.refCount + 1 } := if_neg hpos

/-- Dropping one of the references beside that of the export. -/
lemma objectUnref_eq (h : Owned (n + 1) r) :
    objectUnref r = { r with refCount := r.refCount - 1 } := by
  have href := h.refCount
  have hpos : r.refCount ≠ 0 := by omega
  rw [objectUnref, access, if_neg hpos]
  split
  · next hone =>
    -- the last reference: the object is finalized, but it was not registered any more
    have he : r.exported = false := by
      by_contra he
      rw [if_pos (by simpa using he)] at href
      omega
    have hreg := h.registered_of_not_exported he
    obtain ⟨_, _, _, _, _, _, _, _⟩ := r
    simp only at hone hreg
    simp [requestFinalize, hone, hreg]
  · rfl

/-- Unexporting gives up the reference of the export and the registration. -/
lemma unexportIfExported_eq (h : Owned n r) (hpos : r.refCount ≠ 0) :
    unexportIfExported r
      = { r with exported := false, registered := false, refCount := n } := by
  have href := h.refCount
  rw [unexportIfExported, access, if_neg hpos]
  cases he : r.exported with
  | false =>
    have hreg := h.registered_of_not_exported he
    simp only [he, Bool.false_eq_true, if_false, Nat.add_zero] at href
    rw [← href]
    obtain ⟨_, _, _, _, _, _, _, _⟩ := r
    simp_all
  | true =>
    simp only [he, if_true] at href
    have hbad := h.badUnexport
    rw [if_pos rfl, requestUnexport, access, if_neg hpos]
    -- the reference of the export may be the last one
    by_cases hone : r.refCount = 1
    · have hn : n = 0 := by omega
      simp [objectUnref, access, requestFinalize, hone, hn, he, hbad]
    · have hn : r.refCount - 1 = n := by omega
      simp [objectUnref, access, hone, hpos, hn, he, hbad]

lemma of_ref (h : Owned n r) : Owned (n + 1) { r with refCount := r.refCount + 1 } := by
  refine ⟨?_, h.useAfterFree, h.badUnexport, h.exported_of_registered⟩
  simp only [h.refCount]
  omega

lemma of_unref (h : Owned (n + 1) r) : Owned n { r with refCount := r.refCount - 1 } := by
  refine ⟨?_, h.useAfterFree, h.badUnexport, h.exported_of_registered⟩
  simp only [h.refCount]
  omega

lemma of_unexport (h : Owned n r) (m : ℕ) :
    Owned m { r with exported := false, registered := false, refCount := m } :=
  ⟨rfl, h.useAfterFree, h.badUnexport, fun hr => absurd hr (by simp)⟩

/-- The reference that is held while a `Close` call is handled outlives the unexport. -/
lemma close_eq (h : Owned n r) (hreg : r.registered = true) :
    objectUnref (unexportIfExported (objectRef r))
      = { r with exported := false, registered := false, refCount := n } := by
  have hexp := h.exported_of_registered hreg
  have href := h.refCount
  rw [hexp] at href
  have hpos : r.refCount ≠ 0 := by
    simp only [if_true] at href
    omega
  rw [objectRef_eq hpos, h.of_ref.unexportIfExported_eq (by simp),
    (h.of_ref.of_unexport (n + 1)).objectUnref_eq]
  rfl

end Owned

end Request

end XappPortal
