/-
# The table of sessions stays consistent

As long as every `CreateMonitor` succeeds, the sessions alive, the list `active_sessions`, the
hash table of `session.c` and the registrations on the bus describe the same set of sessions
(`TableInv`).
-/
import XappPortal.Monitor.Table

namespace XappPortal.Monitor

open XappPortal.Lib

/-- The four views of the open sessions agree, and every open session has the reference of its
creation and that of its export. -/
structure TableInv (s : State) : Prop where
  nodup : s.activeSessions.Nodup
  mem_active : ∀ a, a ∈ s.activeSessions ↔ ∃ x, s.session a = some x
  alive : ∀ a x, s.session a = some x → x.exported = true ∧ x.closed = false ∧ x.refCount = 2
  registered : ∀ id a, s.registered id = some a ↔ ∃ x, s.session a = some x ∧ x.id = id
  sessions : ∀ id a, s.sessions id = some a ↔ ∃ x, s.session a = some x ∧ x.id = id
  safe : s.useAfterFree = false

/-- The export of a `CreateMonitor` succeeds: the bus takes registrations and no session is
registered at the handle. -/
def ExportSucceeds (s : State) : Event → Prop
  | .createMonitor sessionHandle busOk => busOk = true ∧ s.registered sessionHandle = none
  | _ => True

instance (s : State) : ∀ e, Decidable (ExportSucceeds s e)
  | .createMonitor sessionHandle busOk =>
      inferInstanceAs (Decidable (busOk = true ∧ s.registered sessionHandle = none))
  | .close _ | .queryEndResponse _ | .clientSignal _ | .timeout _ | .activeChanged _ =>
      inferInstanceAs (Decidable True)

section Session

variable {s : State} {a : ℕ}

lemma session_eq_some {x : Session} :
    s.session a = some x ↔ ∃ y, s.heap.cell a = some y ∧ y.toSession = x := by
  simp [State.session]

lemma session_of_cell {y : InhibitSession} (hy : s.heap.cell a = some y) :
    s.session a = some y.toSession := by
  simp [State.session, hy]

end Session

/-! ## Tables of the sessions by their ids -/

section Tables

variable {f f' : ℕ → Option Session} {t : String → Option ℕ} {a : ℕ} {x : Session}
  (ht : ∀ id b, t id = some b ↔ ∃ y, f b = some y ∧ y.id = id)
include ht

/-- A session with a new id is entered. -/
lemma table_update (hf' : ∀ b, f' b = if b = a then some x else f b) (hnew : f a = none)
    (hid : ∀ b y, f b = some y → y.id ≠ x.id) (id : String) (b : ℕ) :
    Function.update t x.id (some a) id = some b ↔ ∃ y, f' b = some y ∧ y.id = id := by
  rw [hf']
  by_cases hx : id = x.id
  · subst hx
    rw [Function.update_self]
    constructor
    · rintro ⟨⟩
      exact ⟨x, if_pos rfl, rfl⟩
    · rintro ⟨y, hy, hyid⟩
      by_cases hb : b = a
      · rw [hb]
      · rw [if_neg hb] at hy
        exact absurd hyid (hid b y hy)
  · rw [Function.update_of_ne hx, ht]
    by_cases hb : b = a
    · subst hb
      simp only [if_true, hnew, Option.some.injEq]
      constructor
      · rintro ⟨y, hy, -⟩
        exact absurd hy (by simp)
      · rintro ⟨y, rfl, hy⟩
        exact absurd hy.symm hx
    · rw [if_neg hb]

/-- The entry of a session is removed. -/
lemma table_remove (hf' : ∀ b, f' b = if b = a then none else f b) (id : String) (b : ℕ) :
    (if t id = some a then none else t id) = some b ↔ ∃ y, f' b = some y ∧ y.id = id := by
  rw [hf']
  by_cases hb : b = a
  · subst hb
    simp only [if_true]
    constructor
    · intro hid
      split at hid
      · exact absurd hid (by simp)
      · contradiction
    · rintro ⟨y, hy, -⟩
      exact absurd hy (by simp)
  · rw [if_neg hb, ← ht]
    split
    · next hid =>
      rw [hid]
      simp [Ne.symm hb]
    · exact Iff.rfl

/-- Removing the entry of a session is the same as removing its id. -/
lemma update_none_eq (hx : f a = some x) :
    Function.update t x.id none = fun id => if t id = some a then none else t id := by
  funext id
  by_cases hid : id = x.id
  · subst hid
    rw [Function.update_self, if_pos ((ht _ _).mpr ⟨x, hx, rfl⟩)]
  · rw [Function.update_of_ne hid, if_neg]
    intro ha
    obtain ⟨y, hy, hyid⟩ := (ht id a).mp ha
    obtain rfl : y = x := Option.some.inj (hy.symm.trans hx)
    exact hid hyid.symm

end Tables

namespace TableInv

variable {s s' : State}

lemma initial (client : Bool) : TableInv (initial client) := by
  refine ⟨List.nodup_nil, ?_, ?_, ?_, ?_, rfl⟩ <;>
    simp [Monitor.initial, State.session]

lemma of_sameTable (h : TableInv s) (hs : SameTable s s') : TableInv s' where
  nodup := by rw [hs.activeSessions]; exact h.nodup
  mem_active a := by rw [hs.activeSessions, hs.session]; exact h.mem_active a
  alive a x := by rw [hs.session]; exact h.alive a x
  registered id a := by rw [hs.registered, hs.session]; exact h.registered id a
  sessions id a := by rw [hs.sessions, hs.session]; exact h.sessions id a
  safe := hs.useAfterFree.trans h.safe

lemma noDangling (h : TableInv s) : s.NoDangling := by
  intro a ha
  obtain ⟨x, hx⟩ := (h.mem_active a).mp ha
  obtain ⟨y, hy, -⟩ := session_eq_some.mp hx
  exact ⟨y, hy⟩

lemma exists_of_sessions (h : TableInv s) {id : String} {a : ℕ} (ha : s.sessions id = some a) :
    ∃ y, s.heap.cell a = some y ∧ y.id = id := by
  obtain ⟨x, hx, hid⟩ := (h.sessions id a).mp ha
  obtain ⟨y, hy, rfl⟩ := session_eq_some.mp hx
  exact ⟨y, hy, hid⟩

lemma exists_of_registered (h : TableInv s) {id : String} {a : ℕ}
    (ha : s.registered id = some a) : ∃ y, s.heap.cell a = some y ∧ y.id = id := by
  rw [h.registered, ← h.sessions] at ha
  exact h.exists_of_sessions ha

/-- A session that is added under a free handle keeps the views in agreement. -/
lemma create (h : TableInv s) {id : String} (hfree : s.registered id = none) :
    TableInv (handleCreateMonitor id true s) := by
  have hsess : ∀ a, (handleCreateMonitor id true s).session a
      = if a = s.heap.next then some (openSession id).toSession else s.session a := by
    intro a
    rw [handleCreateMonitor_eq hfree]
    by_cases ha : a = s.heap.next <;> simp [State.session, ha]
  have hnew : s.session s.heap.next = none := by simp [State.session]
  -- the handle was free, so that no open session has it as its id
  have hother : ∀ a x, s.session a = some x → x.id ≠ id := by
    rintro a x hx rfl
    rw [(h.registered x.id a).mpr ⟨x, hx, rfl⟩] at hfree
    exact absurd hfree (by simp)
  have heq := handleCreateMonitor_eq (s := s) hfree
  refine ⟨?_, ?_, ?_, ?_, ?_, ?_⟩
  · rw [heq]
    refine List.nodup_cons.mpr ⟨?_, h.nodup⟩
    rw [h.mem_active]
    rintro ⟨x, hx⟩
    rw [hnew] at hx
    exact absurd hx (by simp)
  · intro a
    rw [hsess, heq]
    by_cases ha : a = s.heap.next
    · simp [ha]
    · simp [ha, h.mem_active]
  · intro a x
    rw [hsess]
    split
    · rintro ⟨⟩
      exact ⟨rfl, rfl, rfl⟩
    · exact h.alive a x
  · intro id' a
    rw [heq] at hsess ⊢
    exact table_update h.registered hsess hnew hother id' a
  · intro id' a
    rw [heq] at hsess ⊢
    exact table_update h.sessions hsess hnew hother id' a
  · rw [heq]
    exact h.safe

/-- What a `Close` routed to an open session does. -/
lemma dispatchClose_eq_of_registered (h : TableInv s) {path : String} {a : ℕ}
    (hreg : s.registered path = some a) :
    ∃ y, s.heap.cell a = some y ∧ y.id = path ∧
      dispatchClose inhibitSessionClose path s
        = { skeletonUnexport a s with
            heap := s.heap.free a
            sessions := Function.update s.sessions path none
            activeSessions := s.activeSessions.erase a
            sent := s.sent ++ [.closeReply] } := by
  obtain ⟨y, hy, hid⟩ := h.exists_of_registered hreg
  obtain ⟨hexp, hopen, href⟩ := h.alive a y.toSession (session_of_cell hy)
  refine ⟨y, hy, hid, ?_⟩
  rw [dispatchClose_eq hreg hy hexp hopen href, hid]

/-- A session that is closed leaves all the views. -/
lemma close (h : TableInv s) (path : String) :
    TableInv (dispatchClose inhibitSessionClose path s) := by
  cases hreg : s.registered path with
  | none =>
    rw [dispatchClose, hreg]
    exact h
  | some a =>
    obtain ⟨y, hy, rfl, heq⟩ := h.dispatchClose_eq_of_registered hreg
    have hya : s.session a = some y.toSession := session_of_cell hy
    have hsess : ∀ b, (dispatchClose inhibitSessionClose y.id s).session b
        = if b = a then none else s.session b := by
      intro b
      rw [heq]
      by_cases hb : b = a <;> simp [State.session, hb]
    refine ⟨?_, ?_, ?_, ?_, ?_, ?_⟩
    · rw [heq]
      exact h.nodup.erase a
    · intro b
      rw [hsess, heq, h.nodup.mem_erase_iff, h.mem_active]
      by_cases hb : b = a <;> simp [hb]
    · intro b x
      rw [hsess]
      split
      · exact fun hx => absurd hx (by simp)
      · exact h.alive b x
    · rw [heq] at hsess ⊢
      exact table_remove h.registered hsess
    · rw [heq, update_none_eq h.sessions hya] at hsess ⊢
      exact table_remove h.sessions hsess
    · rw [heq]
      exact h.safe

lemma exists_cell_of_sessions (h : TableInv s) (id : String) (a : ℕ)
    (ha : s.sessions id = some a) : ∃ x, s.heap.cell a = some x := by
  obtain ⟨x, hx, -⟩ := h.exists_of_sessions ha
  exact ⟨x, hx⟩

/-- Only the creation and the closing of sessions change the table. -/
lemma sameTable_handle (h : TableInv s) {e : Event}
    (hcreate : ∀ sessionHandle busOk, e ≠ .createMonitor sessionHandle busOk)
    (hclose : ∀ path, e ≠ .close path) : SameTable s (Monitor.handle e s) := by
  cases e with
  | createMonitor sessionHandle busOk => exact absurd rfl (hcreate sessionHandle busOk)
  | close path => exact absurd rfl (hclose path)
  | queryEndResponse sessionHandle =>
    exact sameTable_handleQueryEndResponse h.noDangling h.exists_cell_of_sessions sessionHandle
  | clientSignal signalName =>
    rw [Monitor.handle]
    split
    · exact sameTable_clientProxySignal h.noDangling signalName
    · exact SameTable.refl s
  | timeout source => exact sameTable_dispatchTimeout h.noDangling source
  | activeChanged active => exact sameTable_globalActiveChangedCb h.noDangling active

lemma clearSent (h : TableInv s) : TableInv { s with sent := [] } :=
  h.of_sameTable ⟨fun _ => rfl, rfl, rfl, rfl, rfl, rfl⟩

end TableInv

end XappPortal.Monitor
