/-
# The timer of a query-end round

`query_end_timeout` is non-zero exactly while its timer source is live, no other timer source of
this code is live, and outside a round no session is marked pending (`TimerInv`).  For states
with these invariants the functions that start and end a round are computed in closed form.
-/
import XappPortal.Monitor.Invariant

namespace XappPortal.Monitor

open XappPortal.Lib

/-- The timer and the pending flags agree with `query_end_timeout`. -/
structure TimerInv (s : State) : Prop where
  timers : s.timers = if s.queryEndTimeout = 0 then [] else [s.queryEndTimeout]
  fresh : s.queryEndTimeout < s.nextSource
  client : s.queryEndTimeout ≠ 0 → s.client = true
  idle : s.queryEndTimeout = 0 → ∀ a, s.pending a = false

/-- Whether a message is an `EndSessionResponse`. -/
def Message.isEndSessionResponse : Message → Bool
  | .endSessionResponse _ _ => true
  | _ => false

/-- The number of `EndSessionResponse` calls sent while handling the last event. -/
def State.responses (s : State) : ℕ := s.sent.countP Message.isEndSessionResponse

lemma responses_send (s : State) (m : Message) :
    (s.send m).responses = s.responses + if m.isEndSessionResponse then 1 else 0 := by
  simp [State.send, State.responses, List.countP_cons]

/-! ## Pending flags -/

lemma pending_setPendingAll {s s' : State} {p : Bool} {a : ℕ}
    (hs' : s'.heap = s.heap.modifyAll s.activeSessions (setPending p)) :
    s'.pending a = if a ∈ s.activeSessions then p && (s.heap.cell a).isSome else s.pending a := by
  rw [State.pending, hs', modifyAll_setPending_cell]
  cases hc : s.heap.cell a <;> by_cases ha : a ∈ s.activeSessions <;>
    simp [ha, hc, State.pending, setPending]

lemma pending_eq_false_of_session {s : State} {a : ℕ} (ha : s.session a = none) :
    s.pending a = false := by
  have hc : s.heap.cell a = none := by simpa [State.session] using ha
  simp [State.pending, hc]

/-- A session that is not in `active_sessions` is not pending. -/
lemma TableInv.mem_active_of_pending {s : State} (h : TableInv s) {a : ℕ}
    (ha : s.pending a = true) : a ∈ s.activeSessions := by
  rw [h.mem_active, ← Option.isSome_iff_exists]
  by_contra hnone
  rw [Bool.not_eq_true, Option.isSome_eq_false_iff, Option.isNone_iff_eq_none] at hnone
  rw [pending_eq_false_of_session hnone] at ha
  exact absurd ha (by simp)

/-- A new session is not pending, and the others stay as they are. -/
lemma pending_handleCreateMonitor {s : State} {id : String} (hfree : s.registered id = none)
    (a : ℕ) : (handleCreateMonitor id true s).pending a = s.pending a := by
  rw [handleCreateMonitor_eq hfree]
  by_cases ha : a = s.heap.next <;> simp [State.pending, ha, openSession]

/-- A session that is closed is not pending any more. -/
lemma TableInv.pending_dispatchClose {s : State} (h : TableInv s) {path : String} {a : ℕ}
    (hreg : s.registered path = some a) (b : ℕ) :
    (dispatchClose inhibitSessionClose path s).pending b
      = if b = a then false else s.pending b := by
  obtain ⟨y, -, -, heq⟩ := h.dispatchClose_eq_of_registered hreg
  rw [heq]
  by_cases hb : b = a <;> simp [State.pending, hb]

/-- A session that answers is not pending any more. -/
lemma TableInv.pending_update {s : State} (h : TableInv s) {id : String} {a : ℕ}
    (ha : s.sessions id = some a) (b : ℕ) :
    (s.update a (setPending false)).pending b = if b = a then false else s.pending b := by
  obtain ⟨y, hy, -⟩ := h.exists_of_sessions ha
  rw [State.update_of_alive hy]
  by_cases hb : b = a
  · simp [State.pending, hb, hy, setPending]
  · simp [State.pending, hb]

/-! ## The functions of a round in closed form -/

section ClosedForms

variable {s : State}

lemma stopWaiting_eq (ht : TimerInv s) (hd : s.NoDangling) (sendResponse : Bool) :
    stopWaitingForQueryEndResponse sendResponse s
      = { s with
          timers := []
          queryEndTimeout := 0
          heap := s.heap.modifyAll s.activeSessions (setPending false)
          sent := s.sent ++
            if sendResponse && s.client then [.endSessionResponse true ""] else [] } := by
  have htimer : (if s.queryEndTimeout ≠ 0 then
      { s with timers := s.timers.erase s.queryEndTimeout, queryEndTimeout := 0 } else s)
      = { s with timers := [], queryEndTimeout := 0 } := by
    -- the only live source, if there is one, is the one that is removed
    have htimers := ht.timers
    by_cases h0 : s.queryEndTimeout = 0
    · rw [if_pos h0] at htimers
      rw [if_neg (by simp [h0]), ← htimers, ← h0]
    · rw [if_neg h0] at htimers
      rw [if_pos h0, htimers]
      simp
  have hd' : State.NoDangling { s with timers := [], queryEndTimeout := 0 } := hd
  rw [stopWaitingForQueryEndResponse, htimer, globalSetPending_eq hd']
  cases hc : (sendResponse && s.client) <;> simp [sendQuitResponse, State.send]

lemma waitForQueryEndResponse_of_waiting (h : s.queryEndTimeout ≠ 0) :
    waitForQueryEndResponse s = s := if_pos h

lemma waitForQueryEndResponse_eq (ht : TimerInv s) (hd : s.NoDangling)
    (h : s.queryEndTimeout = 0) :
    waitForQueryEndResponse s
      = { s with
          timers := [s.nextSource]
          nextSource := s.nextSource + 1
          queryEndTimeout := s.nextSource
          heap := s.heap.modifyAll s.activeSessions (setPending true) } := by
  have htimers : s.timers = [] := by rw [ht.timers, if_pos h]
  rw [waitForQueryEndResponse, if_neg (by simp [h]), globalSetPending_eq]
  · simp [htimers]
  · exact hd

lemma maybeSendQuitResponse_eq (ht : TimerInv s) (hd : s.NoDangling) :
    maybeSendQuitResponse s
      = if s.queryEndTimeout = 0 ∨ s.activeSessions.any s.pending = true then s
        else stopWaitingForQueryEndResponse true s := by
  rw [maybeSendQuitResponse, globalGetPending_eq hd]
  by_cases h0 : s.queryEndTimeout = 0
  · rw [if_pos h0, if_pos (Or.inl h0)]
  · have hclient := ht.client h0
    cases hany : s.activeSessions.any s.pending <;> simp [h0, hclient]

end ClosedForms

/-! ## Preservation -/

namespace TimerInv

variable {s s' : State}

lemma initial (client : Bool) : TimerInv (initial client) :=
  ⟨rfl, Nat.zero_lt_one, fun h => absurd rfl h, fun _ _ => rfl⟩

/-- The timer invariant does not depend on the messages and the other globals. -/
lemma congr (h : TimerInv s) (htimeout : s'.queryEndTimeout = s.queryEndTimeout)
    (htimers : s'.timers = s.timers) (hnext : s'.nextSource = s.nextSource)
    (hclient : s'.client = s.client) (hpend : ∀ a, s'.pending a = true → s.pending a = true) :
    TimerInv s' where
  timers := by rw [htimers, htimeout]; exact h.timers
  fresh := by rw [htimeout, hnext]; exact h.fresh
  client := by rw [htimeout, hclient]; exact h.client
  idle h0 a := by
    by_contra hp
    have := hpend a (by simpa using hp)
    rw [h.idle (htimeout ▸ h0) a] at this
    exact absurd this (by simp)

lemma stopWaiting (h : TimerInv s) (ht : TableInv s) (sendResponse : Bool) :
    TimerInv (stopWaitingForQueryEndResponse sendResponse s) := by
  rw [stopWaiting_eq h ht.noDangling]
  refine ⟨rfl, Nat.lt_of_le_of_lt (Nat.zero_le _) h.fresh, fun h0 => absurd rfl h0, fun _ a => ?_⟩
  rw [pending_setPendingAll rfl]
  split
  · simp
  · next ha =>
    by_contra hp
    exact ha (ht.mem_active_of_pending (by simpa using hp))

lemma waitForQueryEndResponse (h : TimerInv s) (ht : TableInv s) (hclient : s.client = true) :
    TimerInv (waitForQueryEndResponse s) := by
  by_cases h0 : s.queryEndTimeout = 0
  · have hpos : s.nextSource ≠ 0 := Nat.ne_of_gt (Nat.lt_of_le_of_lt (Nat.zero_le _) h.fresh)
    rw [waitForQueryEndResponse_eq h ht.noDangling h0]
    exact ⟨(if_neg hpos).symm, Nat.lt_succ_self _, fun _ => hclient, fun h0' => absurd h0' hpos⟩
  · rw [waitForQueryEndResponse_of_waiting h0]
    exact h

end TimerInv

end XappPortal.Monitor
