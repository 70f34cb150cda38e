/-
# Which sessions are open

The purpose of the table of sessions, stated on the history of a run: a session is open from a
`CreateMonitor` answered with success until its `Close`.  `active_sessions` should list exactly
the open sessions, all of them alive, and `lookup_session` should find exactly them.

Both hold in a run as long as no `CreateMonitor` fails, and fail as soon as one does
(`sessionsSafe_iff`, `lookupExact_iff`): its error path finalizes the new object, which leaves a
dangling pointer in `active_sessions` and erases the hash table's entry of another session with
the same handle.
-/
import XappPortal.Monitor.Invariant

namespace XappPortal.Monitor

open XappPortal.Lib

/-- The open sessions with their handles, updated by an event: a `CreateMonitor` answered with 0
opens the session it created, and a `Close` ends the session it is routed to. -/
def recordOpen (opened : List (ℕ × String)) (s : State) (e : Event) (s' : State) :
    List (ℕ × String) :=
  match e with
  | .createMonitor sessionHandle _ =>
      if .createMonitorReply 0 ∈ s'.sent then (s.heap.next, sessionHandle) :: opened else opened
  | .close path =>
      match s.registered path with
      | some a => opened.filter fun p => p.1 ≠ a
      | none => opened
  | _ => opened

/-- The session monitors together with the sessions that are open. -/
def openMonitor (client : Bool) : Machine (State × List (ℕ × String)) Event :=
  (monitor client).observe [] recordOpen

/-- `active_sessions` lists the open sessions once each, all of them are alive with the two
references of their creation and their export, and no finalized session has been accessed. -/
structure SessionsSafe (p : State × List (ℕ × String)) : Prop where
  nodup : p.1.activeSessions.Nodup
  mem_active : ∀ a, a ∈ p.1.activeSessions ↔ a ∈ p.2.map Prod.fst
  alive : ∀ a ∈ p.1.activeSessions, ∃ x, p.1.heap.cell a = some x ∧
    x.exported = true ∧ x.closed = false ∧ x.refCount = 2
  safe : p.1.useAfterFree = false

/-- `lookup_session` returns the open session with a handle, or else nothing. -/
structure LookupExact (p : State × List (ℕ × String)) : Prop where
  found : ∀ a id, (a, id) ∈ p.2 → lookupSession p.1 id = some a
  missing : ∀ id, (∀ a, (a, id) ∉ p.2) → lookupSession p.1 id = none

/-- No session is registered at the handle of a `CreateMonitor`. -/
def HandleFree (s : State) : Event → Prop
  | .createMonitor sessionHandle _ => s.registered sessionHandle = none
  | _ => True

instance (s : State) : ∀ e, Decidable (HandleFree s e)
  | .createMonitor sessionHandle _ =>
      inferInstanceAs (Decidable (s.registered sessionHandle = none))
  | .close _ | .queryEndResponse _ | .clientSignal _ | .timeout _ | .activeChanged _ =>
      inferInstanceAs (Decidable True)

/-! ## The open sessions are those of the table -/

/-- The table is consistent and describes the open sessions. -/
structure OpenInv (p : State × List (ℕ × String)) : Prop where
  table : TableInv p.1
  mem_open : ∀ a id, (a, id) ∈ p.2 ↔ ∃ x, p.1.session a = some x ∧ x.id = id

namespace OpenInv

variable {s s' : State} {opened : List (ℕ × String)}

lemma initial (client : Bool) : OpenInv (Monitor.initial client, []) :=
  ⟨TableInv.initial client, fun a id => by simp [Monitor.initial, State.session]⟩

lemma clearSent (h : OpenInv (s, opened)) : OpenInv ({ s with sent := [] }, opened) :=
  ⟨h.table.clearSent, h.mem_open⟩

lemma of_sameTable (h : OpenInv (s, opened)) (hs : SameTable s s') : OpenInv (s', opened) :=
  ⟨h.table.of_sameTable hs, fun a id => by rw [hs.session]; exact h.mem_open a id⟩

lemma create (h : OpenInv (s, opened)) {id : String} (hfree : s.registered id = none) :
    OpenInv (handleCreateMonitor id true s, (s.heap.next, id) :: opened) := by
  refine ⟨h.table.create hfree, fun a id' => ?_⟩
  rw [handleCreateMonitor_eq hfree, List.mem_cons, h.mem_open]
  by_cases ha : a = s.heap.next
  · subst ha
    simp [State.session, openSession, eq_comm]
  · simp [State.session, ha]

lemma close (h : OpenInv (s, opened)) {path : String} {a : ℕ}
    (hreg : s.registered path = some a) :
    OpenInv (dispatchClose inhibitSessionClose path s, opened.filter fun p => p.1 ≠ a) := by
  refine ⟨h.table.close path, fun b id => ?_⟩
  obtain ⟨y, hy, rfl, heq⟩ := h.table.dispatchClose_eq_of_registered hreg
  rw [heq, List.mem_filter, h.mem_open]
  by_cases hb : b = a <;> simp [State.session, hb]

/-- Every event whose export succeeds keeps the open sessions those of the table. -/
lemma step {client : Bool} {p : State × List (ℕ × String)} (h : OpenInv p) {e : Event}
    (he : ExportSucceeds p.1 e) : OpenInv ((openMonitor client).step p e) := by
  obtain ⟨s, opened⟩ := p
  have hs := h.clearSent
  have hquiet : ∀ e : Event, (∀ id busOk, e ≠ .createMonitor id busOk) →
      (∀ path, e ≠ .close path) → OpenInv (handle e { s with sent := [] }, opened) :=
    fun e hcreate hclose => hs.of_sameTable (hs.table.sameTable_handle hcreate hclose)
  cases e with
  | createMonitor id busOk =>
    obtain ⟨rfl, hfree⟩ := he
    have hfree' : ({ s with sent := [] } : State).registered id = none := hfree
    have hsent : .createMonitorReply 0 ∈
        (handleCreateMonitor id true { s with sent := [] }).sent := by
      rw [handleCreateMonitor_eq hfree']
      simp
    have := hs.create hfree'
    simpa [openMonitor, recordOpen, monitor, handle, hsent] using this
  | close path =>
    cases hreg : s.registered path with
    | none =>
      have hstay : dispatchClose inhibitSessionClose path { s with sent := [] }
          = { s with sent := [] } := by
        rw [dispatchClose, hreg]
      simpa [openMonitor, recordOpen, monitor, handle, hreg, hstay] using hs
    | some a =>
      have := hs.close hreg
      simpa [openMonitor, recordOpen, monitor, handle, hreg] using this
  | queryEndResponse id => exact hquiet (.queryEndResponse id) (by simp) (by simp)
  | clientSignal signalName => exact hquiet (.clientSignal signalName) (by simp) (by simp)
  | timeout source => exact hquiet (.timeout source) (by simp) (by simp)
  | activeChanged active => exact hquiet (.activeChanged active) (by simp) (by simp)

lemma sessionsSafe {p : State × List (ℕ × String)} (h : OpenInv p) : SessionsSafe p where
  nodup := h.table.nodup
  mem_active a := by
    rw [h.table.mem_active, List.mem_map]
    constructor
    · rintro ⟨x, hx⟩
      exact ⟨(a, x.id), (h.mem_open a x.id).mpr ⟨x, hx, rfl⟩, rfl⟩
    · rintro ⟨⟨b, id⟩, hb, rfl⟩
      obtain ⟨x, hx, -⟩ := (h.mem_open b id).mp hb
      exact ⟨x, hx⟩
  alive a ha := by
    obtain ⟨y, hy⟩ := h.table.noDangling a ha
    exact ⟨y, hy, h.table.alive a y.toSession (session_of_cell hy)⟩
  safe := h.table.safe

lemma lookupExact {p : State × List (ℕ × String)} (h : OpenInv p) : LookupExact p where
  found a id ha := (h.table.sessions id a).mpr ((h.mem_open a id).mp ha)
  missing id hid := by
    rw [lookupSession, Option.eq_none_iff_forall_ne_some]
    intro a ha
    exact hid a ((h.mem_open a id).mpr ((h.table.sessions id a).mp ha))

end OpenInv

/-! ## A failed `CreateMonitor` -/

/-- The state after a failed `CreateMonitor`. -/
lemma step_createMonitor_fail {client : Bool} {s : State} {opened : List (ℕ × String)}
    {id : String} {busOk : Bool} (hfail : (busOk && (s.registered id).isNone) = false) :
    (openMonitor client).step (s, opened) (.createMonitor id busOk)
      = (handleCreateMonitor id busOk { s with sent := [] }, opened) := by
  have hfail' : (busOk && (({ s with sent := [] } : State).registered id).isNone) = false := hfail
  have hsent : .createMonitorReply 0 ∉
      (handleCreateMonitor id busOk { s with sent := [] }).sent := by
    rw [handleCreateMonitor_fail_eq hfail']
    simp
  simp [openMonitor, recordOpen, monitor, handle, hsent]

lemma exportSucceeds_createMonitor {s : State} {id : String} {busOk : Bool} :
    ¬ ExportSucceeds s (.createMonitor id busOk)
      ↔ (busOk && (s.registered id).isNone) = false := by
  cases busOk <;> cases h : s.registered id <;> simp [ExportSucceeds, h]

/-- A failed `CreateMonitor` leaves the pointer to its finalized session in `active_sessions`. -/
lemma not_sessionsSafe_of_fail {client : Bool} {p : State × List (ℕ × String)} {e : Event}
    (he : ¬ ExportSucceeds p.1 e) : ¬ SessionsSafe ((openMonitor client).step p e) := by
  obtain ⟨s, opened⟩ := p
  cases e with
  | createMonitor id busOk =>
    have hfail := exportSucceeds_createMonitor.mp he
    have hfail' : (busOk && (({ s with sent := [] } : State).registered id).isNone) = false :=
      hfail
    intro hsafe
    rw [step_createMonitor_fail hfail, handleCreateMonitor_fail_eq hfail'] at hsafe
    obtain ⟨x, hx, -⟩ := hsafe.alive s.heap.next (by simp)
    simp at hx
  | _ => exact absurd trivial he

/-- A failed `CreateMonitor` hides the open session that uses the same handle. -/
lemma not_lookupExact_of_taken {client : Bool} {p : State × List (ℕ × String)} (h : OpenInv p)
    {e : Event} (he : ¬ HandleFree p.1 e) : ¬ LookupExact ((openMonitor client).step p e) := by
  obtain ⟨s, opened⟩ := p
  cases e with
  | createMonitor id busOk =>
    obtain ⟨a, ha⟩ : ∃ a, s.registered id = some a := Option.ne_none_iff_exists'.mp he
    have hfail : (busOk && (s.registered id).isNone) = false := by simp [ha]
    have hfail' : (busOk && (({ s with sent := [] } : State).registered id).isNone) = false :=
      hfail
    have hopen : (a, id) ∈ opened := (h.mem_open a id).mpr ((h.table.registered id a).mp ha)
    intro hexact
    rw [step_createMonitor_fail hfail] at hexact
    have hfound := hexact.found a id hopen
    rw [handleCreateMonitor_fail_eq hfail', lookupSession] at hfound
    simp at hfound
  | _ => exact absurd trivial he

/-! ## The two properties over whole runs -/

/-- **`active_sessions` is safe throughout a run exactly when every `CreateMonitor` of the run
succeeds.** -/
theorem sessionsSafe_iff (client : Bool) (evs : List Event) :
    (∀ pre, pre <+: evs → SessionsSafe ((openMonitor client).run pre))
      ↔ (monitor client).Along ExportSucceeds (initial client) evs := by
  have hrule : (∀ pre, pre <+: evs → SessionsSafe ((openMonitor client).run pre)) ↔
      (openMonitor client).Along (fun p e => ExportSucceeds p.1 e) (openMonitor client).init evs :=
    Machine.forall_prefix_iff_along OpenInv SessionsSafe (fun _ => True)
      (OpenInv.initial client) (fun _ h => h.sessionsSafe) (fun _ _ _ h he => h.step he)
      (fun _ _ _ _ he => not_sessionsSafe_of_fail he) (fun _ _ => trivial)
  exact hrule.trans Machine.along_observe

/-- Two `CreateMonitor` calls with the same handle, and the pending flag of the finalized second
session is written at the next `QueryEndSession`. -/
theorem not_sessionsSafe : ¬ ∀ (client : Bool) (evs : List Event),
    SessionsSafe ((openMonitor client).run evs) := by
  intro h
  have hsafe := (h true [.createMonitor "/s" true, .createMonitor "/s" true,
    .clientSignal "QueryEndSession"]).safe
  exact absurd hsafe (by decide)

/-- **When the bus refuses an export only because the handle is taken, `lookup_session` is exact
throughout a run exactly when every `CreateMonitor` of the run names a handle at which no session
is open.** -/
theorem lookupExact_iff (client : Bool) (evs : List Event)
    (hbus : ∀ sessionHandle, .createMonitor sessionHandle false ∉ evs) :
    (∀ pre, pre <+: evs → LookupExact ((openMonitor client).run pre))
      ↔ (monitor client).Along HandleFree (initial client) evs := by
  have hstep : ∀ (p : State × List (ℕ × String)) (e : Event),
      (∀ id, e ≠ .createMonitor id false) → OpenInv p → HandleFree p.1 e →
      OpenInv ((openMonitor client).step p e) := by
    intro p e he h hfree
    cases e with
    | createMonitor id busOk =>
      cases busOk with
      | true => exact h.step ⟨rfl, hfree⟩
      | false => exact absurd rfl (he id)
    | _ => exact h.step trivial
  have hrule : (∀ pre, pre <+: evs → LookupExact ((openMonitor client).run pre)) ↔
      (openMonitor client).Along (fun p e => HandleFree p.1 e) (openMonitor client).init evs :=
    Machine.forall_prefix_iff_along OpenInv LookupExact (fun e => ∀ id, e ≠ .createMonitor id false)
      (OpenInv.initial client) (fun _ h => h.lookupExact) hstep
      (fun _ _ _ h he => not_lookupExact_of_taken h he)
      (fun e he id heq => hbus id (heq ▸ he))
  exact hrule.trans Machine.along_observe

/-- A run in which a handle is used again after its session was closed. -/
theorem lookupExact_iff_reuse :
    lookupSession ((openMonitor true).run [.createMonitor "/s" true, .close "/s",
        .createMonitor "/s" true]).1 "/s" = some 1 ∧
    ∀ pre, pre <+: [.createMonitor "/s" true, .close "/s", .createMonitor "/s" true] →
      LookupExact ((openMonitor true).run pre) :=
  ⟨by decide, (lookupExact_iff true _ (by simp)).mpr (by decide)⟩

/-- A second `CreateMonitor` with the handle of an open session makes that session's handle
unknown. -/
theorem not_lookupExact : ¬ ∀ (client : Bool) (evs : List Event),
    (∀ sessionHandle, .createMonitor sessionHandle false ∉ evs) →
    LookupExact ((openMonitor client).run evs) := by
  intro h
  have hfound := (h true [.createMonitor "/s" true, .createMonitor "/s" true] (by simp)).found 0
    "/s" (by decide)
  exact absurd hfound (by decide)

end XappPortal.Monitor
