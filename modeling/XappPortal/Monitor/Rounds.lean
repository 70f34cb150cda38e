/-
# Query-end rounds

A round is open from a `QueryEndSession` received while `query_end_timeout` is 0 until the portal
sends its `EndSessionResponse`, or `CancelEndSession` or `EndSession` is received.  The rounds of
a run are recorded by a history variable (`Rounds`), and two properties of all runs with
successful `CreateMonitor` calls are proved from one invariant (`RoundInv`):

* a round is answered at most once, never after it is over, and its timer dies with it
  (`rounds_answered_once`);
* a round that is not ended by its timer is answered only after every session that was there at
  its beginning has responded or gone (`no_premature_consent`).
-/
import XappPortal.Monitor.Timer

namespace XappPortal.Monitor

open XappPortal.Lib

/-! ## The history of the rounds -/

/-- What has happened in the query-end rounds so far. -/
structure Rounds where
  /-- Whether a round is open. -/
  isOpen : Bool
  /-- How many rounds have been opened; the number of the current round. -/
  number : ℕ
  /-- The sessions of `active_sessions` when the current round opened, with their handles. -/
  members : List (ℕ × String)
  /-- The handles of the `QueryEndResponse` calls since the current round opened. -/
  answered : List String
  /-- The sessions closed since the current round opened. -/
  closed : List ℕ
  /-- The rounds that got their `EndSessionResponse`. -/
  responded : List ℕ
  /-- The round in which a timer source was started. -/
  startedIn : ℕ → ℕ

/-- Before the first round. -/
def Rounds.none : Rounds where
  isOpen := false
  number := 0
  members := []
  answered := []
  closed := []
  responded := []
  startedIn _ := 0

/-- The sessions of `active_sessions` with their handles. -/
def State.members (s : State) : List (ℕ × String) :=
  s.activeSessions.filterMap fun a => (s.session a).map fun x => (a, x.id)

/-- A `QueryEndSession` received while nothing is waited for opens a round. -/
def Rounds.openRound (r : Rounds) (members : List (ℕ × String)) : Rounds :=
  { r with isOpen := true, number := r.number + 1, members := members, answered := [],
           closed := [] }

/-- What an event received in state `s` means for the rounds. -/
def Rounds.receive (r : Rounds) (s : State) : Event → Rounds
  | .clientSignal signalName =>
      if s.client = false then r
      else if signalName = "QueryEndSession" ∧ s.queryEndTimeout = 0 then r.openRound s.members
      else if signalName = "CancelEndSession" ∨ signalName = "EndSession" then
        { r with isOpen := false }
      else r
  | .queryEndResponse sessionHandle => { r with answered := sessionHandle :: r.answered }
  | .close path => { r with closed := (s.registered path).toList ++ r.closed }
  | _ => r

/-- The timer sources with the ids from `m` up to `n` were started in the current round. -/
def Rounds.startTimers (r : Rounds) (m n : ℕ) : Rounds :=
  { r with startedIn := fun source => if m ≤ source ∧ source < n then r.number
                                      else r.startedIn source }

/-- The portal sent some number of `EndSessionResponse` calls: an open round is answered. -/
def Rounds.respond (r : Rounds) (responses : ℕ) : Rounds :=
  if r.isOpen ∧ responses ≠ 0 then { r with isOpen := false, responded := r.number :: r.responded }
  else r

/-- The rounds after the event `e` led from state `s` to state `s'`. -/
def recordRounds (r : Rounds) (s : State) (e : Event) (s' : State) : Rounds :=
  ((r.receive s e).startTimers s.nextSource s'.nextSource).respond s'.responses

/-- The session monitors together with the history of the rounds. -/
def roundMonitor (client : Bool) : Machine (State × Rounds) Event :=
  (monitor client).observe Rounds.none recordRounds

/-! ## The properties -/

/-- The states and timers of the rounds: a round is open exactly while `query_end_timeout` is
non-zero, which is then the only live timer source; no round was answered twice; and outside a
round no active session is marked pending. -/
structure RoundsOk (p : State × Rounds) : Prop where
  timeout_iff : p.1.queryEndTimeout ≠ 0 ↔ p.2.isOpen = true
  timer : p.2.isOpen = true → p.1.timers = [p.1.queryEndTimeout]
  no_timer : p.2.isOpen = false → p.1.timers = []
  once : p.2.responded.Nodup
  idle : p.2.isOpen = false → ∀ a ∈ p.1.activeSessions, p.1.pending a = false

/-- The handling of one event: an `EndSession` gets one `EndSessionResponse` and leaves no round
open; any other event leads to at most one, which answers a round that is open when the event
has been received and is over afterwards; and a timer that fires was started in the open
round. -/
structure ResponsesOk (client : Bool) (p : State × Rounds) (e : Event) : Prop where
  endSession : p.1.client = true → e = .clientSignal "EndSession" →
    ((roundMonitor client).step p e).1.responses = 1 ∧
      ((roundMonitor client).step p e).2.isOpen = false
  at_most_one : ((roundMonitor client).step p e).1.responses ≤ 1
  to_open_round : e ≠ .clientSignal "EndSession" →
    ((roundMonitor client).step p e).1.responses ≠ 0 →
    (p.2.receive p.1 e).isOpen = true ∧ ((roundMonitor client).step p e).2.isOpen = false
  timer : ∀ source, e = .timeout source → source ∈ p.1.timers →
    p.2.isOpen = true ∧ p.2.startedIn source = p.2.number

/-- If handling an event other than a timer expiry answers an open round, then every session that
was active when the round opened has been closed or has had its own handle answered since. -/
def ConsentOk (client : Bool) (p : State × Rounds) (e : Event) : Prop :=
  ((roundMonitor client).step p e).1.responses ≠ 0 → (p.2.receive p.1 e).isOpen = true →
    (∀ source, e ≠ .timeout source) →
    ∀ a sessionHandle, (a, sessionHandle) ∈ (p.2.receive p.1 e).members →
      a ∈ (p.2.receive p.1 e).closed ∨ sessionHandle ∈ (p.2.receive p.1 e).answered

/-! ## The invariant -/

/-- A member of the current round is gone, has answered, or is still waited for. -/
def Accounted (s : State) (r : Rounds) (a : ℕ) (sessionHandle : String) : Prop :=
  a ∈ r.closed ∨ sessionHandle ∈ r.answered ∨
    ((∃ x, s.session a = some x ∧ x.id = sessionHandle) ∧ s.pending a = true)

/-- The state agrees with the history of the rounds. -/
structure RoundInv (s : State) (r : Rounds) : Prop where
  table : TableInv s
  timer : TimerInv s
  open_iff : r.isOpen = true ↔ s.queryEndTimeout ≠ 0
  responded_le : ∀ n ∈ r.responded, n ≤ r.number
  open_not_responded : r.isOpen = true → r.number ∉ r.responded
  once : r.responded.Nodup
  started : s.queryEndTimeout ≠ 0 → r.startedIn s.queryEndTimeout = r.number
  accounted : r.isOpen = true → ∀ a sessionHandle, (a, sessionHandle) ∈ r.members →
    Accounted s r a sessionHandle

namespace RoundInv

variable {s s' : State} {r : Rounds}

lemma initial (client : Bool) : RoundInv (Monitor.initial client) Rounds.none := by
  refine ⟨TableInv.initial client, TimerInv.initial client, ?_, ?_, ?_, ?_, ?_, ?_⟩ <;>
    simp [Monitor.initial, Rounds.none]

lemma roundsOk (h : RoundInv s r) : RoundsOk (s, r) where
  timeout_iff := h.open_iff.symm
  timer hopen := by
    rw [h.timer.timers, if_neg (h.open_iff.mp hopen)]
  no_timer hclosed := by
    rw [h.timer.timers, if_pos]
    by_contra h0
    rw [h.open_iff.mpr h0] at hclosed
    exact absurd hclosed (by simp)
  once := h.once
  idle hclosed a _ := by
    refine h.timer.idle ?_ a
    by_contra h0
    rw [h.open_iff.mpr h0] at hclosed
    exact absurd hclosed (by simp)

/-- A change of the sessions and of what has been recorded about them, outside the timer, that
still accounts for every member. -/
lemma move (h : RoundInv s r) {answered : List String} {closed : List ℕ} (htable : TableInv s')
    (htimeout : s'.queryEndTimeout = s.queryEndTimeout) (htimers : s'.timers = s.timers)
    (hnext : s'.nextSource = s.nextSource) (hclient : s'.client = s.client)
    (hpend : ∀ a, s'.pending a = true → s.pending a = true)
    (haccounted : ∀ a id, Accounted s r a id →
      Accounted s' { r with answered := answered, closed := closed } a id) :
    RoundInv s' { r with answered := answered, closed := closed } where
  table := htable
  timer := h.timer.congr htimeout htimers hnext hclient hpend
  open_iff := by rw [htimeout]; exact h.open_iff
  responded_le := h.responded_le
  open_not_responded := h.open_not_responded
  once := h.once
  started := by rw [htimeout]; exact h.started
  accounted hopen a id ha := haccounted a id (h.accounted hopen a id ha)

/-- The invariant does not depend on the messages, the session state and the screensaver. -/
lemma congr (h : RoundInv s r) (hsame : SameTable s s')
    (htimeout : s'.queryEndTimeout = s.queryEndTimeout) (htimers : s'.timers = s.timers)
    (hnext : s'.nextSource = s.nextSource) (hclient : s'.client = s.client)
    (hpend : ∀ a, s'.pending a = s.pending a) : RoundInv s' r := by
  refine h.move (h.table.of_sameTable hsame) htimeout htimers hnext hclient
    (fun a => by rw [hpend]; exact id) fun a id ha => ?_
  rw [Accounted, hsame.session, hpend]
  exact ha

lemma emit (h : RoundInv s r) : RoundInv (globalEmitStateChanged s) r := by
  have hsame := sameTable_globalEmitStateChanged h.table.noDangling
  rw [globalEmitStateChanged_eq h.table.noDangling] at hsame ⊢
  exact h.congr hsame rfl rfl rfl rfl fun _ => rfl

lemma setSessionState (h : RoundInv s r) (state : SessionState) :
    RoundInv (setSessionState state s) r := by
  have hglobal : RoundInv { s with sessionState := state } r :=
    h.congr ⟨fun _ => rfl, rfl, rfl, rfl, rfl, rfl⟩ rfl rfl rfl rfl fun _ => rfl
  exact hglobal.emit

lemma send (h : RoundInv s r) (m : Message) : RoundInv (s.send m) r :=
  h.congr ⟨fun _ => rfl, rfl, rfl, rfl, rfl, rfl⟩ rfl rfl rfl rfl fun _ => rfl

/-- Ending a round, if there is one. -/
lemma stopWaiting (h : RoundInv s r) (sendResponse : Bool) :
    RoundInv (stopWaitingForQueryEndResponse sendResponse s) { r with isOpen := false } where
  table := h.table.of_sameTable (sameTable_stopWaiting h.table.noDangling sendResponse)
  timer := h.timer.stopWaiting h.table sendResponse
  open_iff := by
    rw [stopWaiting_eq h.timer h.table.noDangling]
    simp
  responded_le := h.responded_le
  open_not_responded := fun hopen => absurd hopen (by simp)
  once := h.once
  started := by
    rw [stopWaiting_eq h.timer h.table.noDangling]
    exact fun h0 => absurd rfl h0
  accounted := fun hopen => absurd hopen (by simp)

lemma responses_stopWaiting (h : RoundInv s r) (sendResponse : Bool) :
    (stopWaitingForQueryEndResponse sendResponse s).responses
      = s.responses + if sendResponse && s.client then 1 else 0 := by
  rw [stopWaiting_eq h.timer h.table.noDangling, State.responses]
  cases sendResponse && s.client <;> simp [State.responses, Message.isEndSessionResponse]

/-- Answering an open round. -/
lemma answer (h : RoundInv s r) (hopen : r.isOpen = true) :
    RoundInv (stopWaitingForQueryEndResponse true s)
      { r with isOpen := false, responded := r.number :: r.responded } := by
  have hstop := h.stopWaiting true
  refine ⟨hstop.table, hstop.timer, hstop.open_iff, ?_, fun h' => absurd h' (by simp),
    List.nodup_cons.mpr ⟨h.open_not_responded hopen, h.once⟩, hstop.started,
    fun h' => absurd h' (by simp)⟩
  intro n hn
  rcases List.mem_cons.mp hn with rfl | hn
  · exact Nat.le_refl _
  · exact h.responded_le n hn

/-- Opening a round marks all active sessions pending and starts its timer. -/
lemma openRound (h : RoundInv s r) (hclient : s.client = true) (h0 : s.queryEndTimeout = 0) :
    RoundInv (waitForQueryEndResponse s)
      ((r.openRound s.members).startTimers s.nextSource (waitForQueryEndResponse s).nextSource) := by
  have hsame := sameTable_waitForQueryEndResponse h.table.noDangling
  have htimer := h.timer.waitForQueryEndResponse h.table hclient
  have hpos : s.nextSource ≠ 0 := Nat.ne_of_gt (Nat.lt_of_le_of_lt (Nat.zero_le _) h.timer.fresh)
  have heq := waitForQueryEndResponse_eq h.timer h.table.noDangling h0
  refine ⟨h.table.of_sameTable hsame, htimer, ?_, ?_, ?_, h.once, ?_, ?_⟩
  · rw [heq]
    simp [Rounds.openRound, Rounds.startTimers, hpos]
  · intro n hn
    exact Nat.le_succ_of_le (h.responded_le n hn)
  · intro _ hmem
    have := h.responded_le (r.number + 1) hmem
    omega
  · rw [heq]
    simp [Rounds.openRound, Rounds.startTimers]
  · intro _ a id ha
    obtain ⟨b, hb, hmap⟩ := List.mem_filterMap.mp ha
    obtain ⟨x, hx, hpair⟩ := Option.map_eq_some_iff.mp hmap
    obtain ⟨rfl, rfl⟩ := Prod.mk.inj hpair
    refine Or.inr (Or.inr ⟨⟨x, ?_, rfl⟩, ?_⟩)
    · rw [hsame.session, hx]
    · obtain ⟨y, hy⟩ := h.table.noDangling b hb
      rw [heq, pending_setPendingAll rfl, if_pos hb, hy]
      rfl

/-- A session that answers is not waited for any more. -/
lemma update (h : RoundInv s r) {sessionHandle : String} {a : ℕ}
    (ha : lookupSession s sessionHandle = some a) :
    RoundInv (s.update a (setPending false)) { r with answered := sessionHandle :: r.answered } := by
  obtain ⟨y, hy, hid⟩ := h.table.exists_of_sessions ha
  have hupd : s.update a (setPending false)
      = { s with heap := s.heap.modify a (setPending false) } := State.update_of_alive hy _
  have hsame : SameTable s { s with heap := s.heap.modify a (setPending false) } :=
    sameTable_modify a false
  have hpend := h.table.pending_update ha
  rw [hupd] at hpend ⊢
  refine h.move (h.table.of_sameTable hsame) rfl rfl rfl rfl (fun b hb => ?_) fun b id hb => ?_
  · rw [hpend] at hb
    split at hb
    · exact absurd hb (by simp)
    · exact hb
  · rcases hb with hc | hr | ⟨⟨x, hx, hxid⟩, hp⟩
    · exact Or.inl hc
    · exact Or.inr (Or.inl (List.mem_cons_of_mem _ hr))
    · rcases eq_or_ne b a with rfl | hba
      · -- the member itself answers: its handle is the one of the call
        rw [session_of_cell hy] at hx
        obtain rfl := Option.some.inj hx
        exact Or.inr (Or.inl (by simp [← hxid, hid]))
      · refine Or.inr (Or.inr ⟨⟨x, ?_, hxid⟩, ?_⟩)
        · rw [hsame.session]
          exact hx
        · rw [hpend, if_neg hba]
          exact hp

/-- `maybe_send_quit_response` answers the open round only if nobody is waited for any more. -/
lemma maybeSend (h : RoundInv s r) (hsent : s.responses = 0) :
    RoundInv (maybeSendQuitResponse s) (r.respond (maybeSendQuitResponse s).responses) ∧
      (maybeSendQuitResponse s).responses ≤ 1 ∧
      ((maybeSendQuitResponse s).responses ≠ 0 → r.isOpen = true ∧
        ∀ a id, (a, id) ∈ r.members → a ∈ r.closed ∨ id ∈ r.answered) := by
  rw [maybeSendQuitResponse_eq h.timer h.table.noDangling]
  split
  · rw [hsent]
    refine ⟨?_, by omega, fun h0 => absurd rfl h0⟩
    simpa [Rounds.respond] using h
  · next hwait =>
    obtain ⟨h0, hnone⟩ := not_or.mp hwait
    have hopen : r.isOpen = true := h.open_iff.mpr h0
    have hone : (stopWaitingForQueryEndResponse true s).responses = 1 := by
      rw [h.responses_stopWaiting, hsent, h.timer.client h0]
      rfl
    rw [hone]
    refine ⟨?_, by omega, fun _ => ⟨hopen, fun a id ha => ?_⟩⟩
    · have hresp : r.respond 1
          = { r with isOpen := false, responded := r.number :: r.responded } := by
        simp [Rounds.respond, hopen]
      rw [hresp]
      exact h.answer hopen
    · rcases h.accounted hopen a id ha with hclosed | hanswered | ⟨⟨x, hx, -⟩, hpend⟩
      · exact Or.inl hclosed
      · exact Or.inr hanswered
      · -- a member that is still waited for would have kept the portal waiting
        exfalso
        apply hnone
        rw [List.any_eq_true]
        exact ⟨a, (h.table.mem_active a).mpr ⟨x, hx⟩, hpend⟩

end RoundInv

/-! ## The handling of one event -/

@[simp] lemma startTimers_self (r : Rounds) (n : ℕ) : r.startTimers n n = r := by
  have : (fun source => if n ≤ source ∧ source < n then r.number else r.startedIn source)
      = r.startedIn := by
    funext source
    rw [if_neg (by omega)]
  rw [Rounds.startTimers, this]

@[simp] lemma respond_zero (r : Rounds) : r.respond 0 = r := by
  simp [Rounds.respond]

/-- What holds of the handling of an event in a state that has sent nothing yet. -/
structure Handled (s : State) (r : Rounds) (e : Event) : Prop where
  inv : RoundInv (handle e s) (recordRounds r s e (handle e s))
  endSession : s.client = true → e = .clientSignal "EndSession" →
    (handle e s).responses = 1 ∧ (recordRounds r s e (handle e s)).isOpen = false
  at_most_one : (handle e s).responses ≤ 1
  to_open_round : e ≠ .clientSignal "EndSession" → (handle e s).responses ≠ 0 →
    (r.receive s e).isOpen = true ∧ (recordRounds r s e (handle e s)).isOpen = false
  timer : ∀ source, e = .timeout source → source ∈ s.timers →
    r.isOpen = true ∧ r.startedIn source = r.number
  consent : (handle e s).responses ≠ 0 → (r.receive s e).isOpen = true →
    (∀ source, e ≠ .timeout source) →
    ∀ a id, (a, id) ∈ (r.receive s e).members →
      a ∈ (r.receive s e).closed ∨ id ∈ (r.receive s e).answered

namespace Handled

variable {s : State} {r : Rounds} {e : Event}

/-- An event that is neither an `EndSession` nor a timer expiry and is handled without an
`EndSessionResponse`. -/
lemma of_silent (hinv : RoundInv (handle e s) (r.receive s e))
    (hsilent : (handle e s).responses = 0) (hnext : (handle e s).nextSource = s.nextSource)
    (hend : s.client = true → e ≠ .clientSignal "EndSession")
    (htimer : ∀ source, e = .timeout source → source ∉ s.timers) : Handled s r e := by
  refine ⟨?_, fun hc he => absurd he (hend hc), by omega, fun _ h0 => absurd hsilent h0,
    fun source he hs => absurd hs (htimer source he), fun h0 => absurd hsilent h0⟩
  rw [recordRounds, hsilent, hnext]
  simpa using hinv

/-- An event that changes nothing, and is not recorded either. -/
lemma of_stay (h : RoundInv s r) (hsent : s.responses = 0) (hstay : handle e s = s)
    (hreceive : r.receive s e = r) (hend : s.client = true → e ≠ .clientSignal "EndSession")
    (htimer : ∀ source, e = .timeout source → source ∉ s.timers) : Handled s r e := by
  refine Handled.of_silent ?_ ?_ ?_ hend htimer
  · rw [hstay, hreceive]
    exact h
  · rw [hstay, hsent]
  · rw [hstay]

/-- An event that ends with `maybe_send_quit_response` in a state that agrees with the rounds
recorded so far. -/
lemma of_maybeSend (s' : State)
    (hinv : RoundInv s' ((r.receive s e).startTimers s.nextSource s'.nextSource))
    (hsent : s'.responses = 0)
    (heq : ∃ m : List Message, m.countP Message.isEndSessionResponse = 0 ∧ handle e s
      = { maybeSendQuitResponse s' with sent := (maybeSendQuitResponse s').sent ++ m })
    (hend : e ≠ .clientSignal "EndSession") (htimer : ∀ source, e ≠ .timeout source) :
    Handled s r e := by
  obtain ⟨m, hm, heq⟩ := heq
  obtain ⟨hinv', hone, hresp⟩ := hinv.maybeSend hsent
  have hnext : (maybeSendQuitResponse s').nextSource = s'.nextSource := by
    rw [maybeSendQuitResponse_eq hinv.timer hinv.table.noDangling]
    split
    · rfl
    · rw [stopWaiting_eq hinv.timer hinv.table.noDangling]
  have hcount : (handle e s).responses = (maybeSendQuitResponse s').responses := by
    rw [heq]
    simp [State.responses, hm]
  have hrec : recordRounds r s e (handle e s)
      = ((r.receive s e).startTimers s.nextSource s'.nextSource).respond
          (maybeSendQuitResponse s').responses := by
    rw [recordRounds, hcount, heq]
    simp only [hnext]
  refine ⟨?_, fun _ he => absurd he hend, ?_, fun _ h0 => ?_, fun source he => absurd he
    (htimer source), fun h0 _ _ => ?_⟩
  · rw [hrec, heq]
    exact hinv'.congr ⟨fun _ => rfl, rfl, rfl, rfl, rfl, rfl⟩ rfl rfl rfl rfl fun _ => rfl
  · rw [hcount]
    exact hone
  · rw [hcount] at h0
    obtain ⟨hopen, -⟩ := hresp h0
    refine ⟨hopen, ?_⟩
    rw [hrec, Rounds.respond, if_pos ⟨hopen, h0⟩]
  · rw [hcount] at h0
    exact (hresp h0).2

end Handled

/-! ## The events one by one -/

lemma responses_globalEmitStateChanged {s : State} (hd : s.NoDangling) :
    (globalEmitStateChanged s).responses = s.responses := by
  have hnone : ∀ l : List ℕ, (l.filterMap fun a => (s.heap.cell a).map fun x =>
      Message.stateChanged x.id s.screensaverActive s.sessionState.toUInt32).countP
      Message.isEndSessionResponse = 0 := by
    intro l
    rw [List.countP_eq_zero]
    intro m hm
    obtain ⟨a, -, ha⟩ := List.mem_filterMap.mp hm
    obtain ⟨x, -, rfl⟩ := Option.map_eq_some_iff.mp ha
    simp [Message.isEndSessionResponse]
  rw [globalEmitStateChanged_eq hd, State.responses, List.countP_append, hnone]
  rfl

lemma responses_setSessionState {s : State} (hd : s.NoDangling) (state : SessionState) :
    (setSessionState state s).responses = s.responses := by
  have hd' : State.NoDangling { s with sessionState := state } := hd
  rw [setSessionState, responses_globalEmitStateChanged hd']
  rfl

lemma nextSource_setSessionState {s : State} (hd : s.NoDangling) (state : SessionState) :
    (setSessionState state s).nextSource = s.nextSource := by
  have hd' : State.NoDangling { s with sessionState := state } := hd
  rw [setSessionState, globalEmitStateChanged_eq hd']

section Events

variable {s : State} {r : Rounds} (h : RoundInv s r) (hsent : s.responses = 0)
include h hsent

lemma handled_createMonitor {sessionHandle : String} (hfree : s.registered sessionHandle = none) :
    Handled s r (.createMonitor sessionHandle true) := by
  have heq := handleCreateMonitor_eq hfree
  have hsess : ∀ a x, s.session a = some x →
      (handleCreateMonitor sessionHandle true s).session a = some x := by
    intro a x hx
    have ha : a ≠ s.heap.next := by
      rintro rfl
      simp [State.session] at hx
    rw [heq]
    simpa [State.session, ha] using hx
  have hpend := pending_handleCreateMonitor hfree
  have hinv : RoundInv (handleCreateMonitor sessionHandle true s) r := by
    refine h.move (h.table.create hfree) ?_ ?_ ?_ ?_ ?_ fun a id ha => ?_
    · rw [heq]
    · rw [heq]
    · rw [heq]
    · rw [heq]
    · exact fun a => by rw [hpend]; exact id
    · rcases ha with hc | hr | ⟨⟨x, hx, hid⟩, hp⟩
      · exact Or.inl hc
      · exact Or.inr (Or.inl hr)
      · exact Or.inr (Or.inr ⟨⟨x, hsess a x hx, hid⟩, by rw [hpend]; exact hp⟩)
  refine Handled.of_silent hinv ?_ ?_ (fun _ => by simp) (by simp)
  · rw [State.responses] at hsent
    rw [handle, heq]
    simp [State.responses, hsent, Message.isEndSessionResponse]
  · rw [handle, heq]

lemma handled_close (path : String) : Handled s r (.close path) := by
  cases hreg : s.registered path with
  | none =>
    have hstay : handle (.close path) s = s := by rw [handle, dispatchClose, hreg]
    exact Handled.of_stay h hsent hstay (by simp [Rounds.receive, hreg]) (fun _ => by simp)
      (by simp)
  | some a =>
    obtain ⟨y, hy, rfl, heq⟩ := h.table.dispatchClose_eq_of_registered hreg
    have hsess : ∀ b, b ≠ a →
        (dispatchClose inhibitSessionClose y.id s).session b = s.session b := by
      intro b hb
      rw [heq]
      simp [State.session, hb]
    have hpend := h.table.pending_dispatchClose hreg
    have hinv : RoundInv (dispatchClose inhibitSessionClose y.id s)
        { r with closed := a :: r.closed } := by
      refine h.move (h.table.close y.id) ?_ ?_ ?_ ?_ (fun b hb => ?_) fun b id hb => ?_
      · rw [heq]; rfl
      · rw [heq]; rfl
      · rw [heq]; rfl
      · rw [heq]; rfl
      · rw [hpend] at hb
        split at hb
        · exact absurd hb (by simp)
        · exact hb
      · rcases eq_or_ne b a with rfl | hba
        · exact Or.inl (List.mem_cons_self ..)
        · rcases hb with hc | hr | ⟨hx, hp⟩
          · exact Or.inl (List.mem_cons_of_mem a hc)
          · exact Or.inr (Or.inl hr)
          · refine Or.inr (Or.inr ⟨?_, ?_⟩)
            · rw [hsess b hba]
              exact hx
            · rw [hpend, if_neg hba]
              exact hp
    refine Handled.of_silent ?_ ?_ ?_ (fun _ => by simp) (by simp)
    · simpa [Rounds.receive, handle, hreg] using hinv
    · rw [State.responses] at hsent
      rw [handle, heq]
      simp [State.responses, hsent, Message.isEndSessionResponse]
    · rw [handle, heq]
      rfl

lemma handled_queryEndResponse (sessionHandle : String) :
    Handled s r (.queryEndResponse sessionHandle) := by
  have hanswered : RoundInv s { r with answered := sessionHandle :: r.answered } := by
    refine h.move h.table rfl rfl rfl rfl (fun _ => id) fun a id ha => ?_
    rcases ha with hc | hr | hp
    · exact Or.inl hc
    · exact Or.inr (Or.inl (List.mem_cons_of_mem _ hr))
    · exact Or.inr (Or.inr hp)
  cases hlook : lookupSession s sessionHandle with
  | none =>
    have hstay : handle (.queryEndResponse sessionHandle) s = s.send .queryEndResponseReply := by
      simp [handle, handleQueryEndResponse, hlook]
    refine Handled.of_silent ?_ ?_ ?_ (fun _ => by simp) (by simp)
    · rw [hstay]
      exact hanswered.send _
    · rw [hstay, responses_send, hsent]
      rfl
    · rw [hstay]
      rfl
  | some a =>
    obtain ⟨y, hy, -⟩ := h.table.exists_of_sessions hlook
    have hupd : s.update a (setPending false)
        = { s with heap := s.heap.modify a (setPending false) } := State.update_of_alive hy _
    have hinv := h.update hlook
    refine Handled.of_maybeSend (s.update a (setPending false)) ?_ ?_
      ⟨[.queryEndResponseReply], rfl, ?_⟩ (by simp) (by simp)
    · have hnext : (s.update a (setPending false)).nextSource = s.nextSource := by rw [hupd]
      rw [hnext, startTimers_self]
      exact hinv
    · rw [hupd]
      exact hsent
    · simp [handle, handleQueryEndResponse, hlook, State.send]

lemma handled_queryEndSession (hclient : s.client = true) :
    Handled s r (.clientSignal "QueryEndSession") := by
  have hwait := sameTable_waitForQueryEndResponse h.table.noDangling
  have hd := hwait.noDangling h.table.noDangling
  refine Handled.of_maybeSend (setSessionState .queryEnd (waitForQueryEndResponse s)) ?_ ?_
    ⟨[], rfl, ?_⟩ (by simp) (by simp)
  · rw [nextSource_setSessionState hd .queryEnd]
    by_cases h0 : s.queryEndTimeout = 0
    · have := (h.openRound hclient h0).setSessionState .queryEnd
      simpa [Rounds.receive, hclient, h0] using this
    · rw [waitForQueryEndResponse_of_waiting h0, startTimers_self]
      simpa [Rounds.receive, hclient, h0] using h.setSessionState .queryEnd
  · rw [responses_setSessionState hd]
    by_cases h0 : s.queryEndTimeout = 0
    · rw [waitForQueryEndResponse_eq h.timer h.table.noDangling h0]
      exact hsent
    · rw [waitForQueryEndResponse_of_waiting h0, hsent]
  · simp [handle, hclient, clientProxySignal]

/-- What `CancelEndSession` and `EndSession` begin with: the round ends without an answer. -/
lemma stopped_setSessionState (state : SessionState) :
    RoundInv (setSessionState state (stopWaitingForQueryEndResponse false s))
        { r with isOpen := false } ∧
      (setSessionState state (stopWaitingForQueryEndResponse false s)).responses = 0 ∧
      (setSessionState state (stopWaitingForQueryEndResponse false s)).nextSource
        = s.nextSource := by
  have hstop := sameTable_stopWaiting h.table.noDangling false
  have hd := hstop.noDangling h.table.noDangling
  refine ⟨(h.stopWaiting false).setSessionState state, ?_, ?_⟩
  · rw [responses_setSessionState hd, h.responses_stopWaiting, hsent]
    rfl
  · rw [nextSource_setSessionState hd, stopWaiting_eq h.timer h.table.noDangling]

lemma handled_cancelEndSession (hclient : s.client = true) :
    Handled s r (.clientSignal "CancelEndSession") := by
  obtain ⟨hinv, hsilent, hnext⟩ := stopped_setSessionState h hsent .running
  have heq : handle (.clientSignal "CancelEndSession") s
      = setSessionState .running (stopWaitingForQueryEndResponse false s) := by
    simp [handle, hclient, clientProxySignal]
  refine Handled.of_silent ?_ ?_ ?_ (fun _ => by simp) (by simp)
  · rw [heq]
    simpa [Rounds.receive, hclient] using hinv
  · rw [heq, hsilent]
  · rw [heq, hnext]

lemma handled_endSession (hclient : s.client = true) :
    Handled s r (.clientSignal "EndSession") := by
  obtain ⟨hinv, hsilent, hnext⟩ := stopped_setSessionState h hsent .ending
  have heq : handle (.clientSignal "EndSession") s
      = (setSessionState .ending (stopWaitingForQueryEndResponse false s)).send
          (.endSessionResponse true "") := by
    simp [handle, hclient, clientProxySignal, sendQuitResponse]
  have hone : (handle (.clientSignal "EndSession") s).responses = 1 := by
    rw [heq, responses_send, hsilent]
    rfl
  -- the answer is not one to the round, which has ended
  have hrec : recordRounds r s (.clientSignal "EndSession")
      (handle (.clientSignal "EndSession") s) = { r with isOpen := false } := by
    have hnext' : (handle (.clientSignal "EndSession") s).nextSource = s.nextSource := by
      rw [heq, State.send, hnext]
    rw [recordRounds, hnext', startTimers_self]
    simp [Rounds.receive, Rounds.respond, hclient]
  refine ⟨?_, fun _ _ => ⟨hone, ?_⟩, by omega, fun he => absurd rfl he, by simp, ?_⟩
  · rw [hrec, heq]
    exact hinv.send _
  · rw [hrec]
  · intro _ hopen
    simp [Rounds.receive, hclient] at hopen

lemma handled_clientSignal (signalName : String) : Handled s r (.clientSignal signalName) := by
  cases hclient : s.client with
  | false =>
    exact Handled.of_stay h hsent (by simp [handle, hclient]) (by simp [Rounds.receive, hclient])
      (fun hc => by simp [hclient] at hc) (by simp)
  | true =>
    by_cases hquery : signalName = "QueryEndSession"
    · subst hquery
      exact handled_queryEndSession h hsent hclient
    by_cases hcancel : signalName = "CancelEndSession"
    · subst hcancel
      exact handled_cancelEndSession h hsent hclient
    by_cases hend : signalName = "EndSession"
    · subst hend
      exact handled_endSession h hsent hclient
    · exact Handled.of_stay h hsent
        (by simp [handle, hclient, clientProxySignal, hquery, hcancel, hend])
        (by simp [Rounds.receive, hclient, hquery, hcancel, hend]) (fun _ => by simp [hend])
        (by simp)

lemma handled_timeout (source : ℕ) : Handled s r (.timeout source) := by
  by_cases hlive : source ∈ s.timers
  · have h0 : s.queryEndTimeout ≠ 0 := by
      intro h0
      rw [h.timer.timers, if_pos h0] at hlive
      exact absurd hlive (by simp)
    obtain rfl : source = s.queryEndTimeout := by
      rw [h.timer.timers, if_neg h0] at hlive
      simpa using hlive
    have hopen : r.isOpen = true := h.open_iff.mpr h0
    have hclosed := stopWaiting_eq h.timer h.table.noDangling true
    have heq : handle (.timeout s.queryEndTimeout) s = stopWaitingForQueryEndResponse true s := by
      rw [handle, dispatchTimeout, if_pos hlive, queryEndResponse, hclosed]
      rfl
    have hone : (handle (.timeout s.queryEndTimeout) s).responses = 1 := by
      rw [heq, h.responses_stopWaiting, hsent, h.timer.client h0]
      rfl
    have hrec : recordRounds r s (.timeout s.queryEndTimeout)
        (handle (.timeout s.queryEndTimeout) s)
        = { r with isOpen := false, responded := r.number :: r.responded } := by
      have hnext : (handle (.timeout s.queryEndTimeout) s).nextSource = s.nextSource := by
        rw [heq, hclosed]
      rw [recordRounds, hnext, startTimers_self, hone]
      simp [Rounds.receive, Rounds.respond, hopen]
    refine ⟨?_, by simp, by omega, fun _ _ => ⟨hopen, ?_⟩, ?_, fun _ _ he => ?_⟩
    · rw [hrec, heq]
      exact h.answer hopen
    · rw [hrec]
    · rintro source ⟨⟩ -
      exact ⟨hopen, h.started h0⟩
    · exact absurd rfl (he _)
  · have hstay : handle (.timeout source) s = s := by rw [handle, dispatchTimeout, if_neg hlive]
    refine Handled.of_stay h hsent hstay rfl (fun _ => by simp) ?_
    rintro source ⟨⟩
    exact hlive

lemma handled_activeChanged (active : Bool) : Handled s r (.activeChanged active) := by
  have hglobal : RoundInv { s with screensaverActive := active } r :=
    h.congr ⟨fun _ => rfl, rfl, rfl, rfl, rfl, rfl⟩ rfl rfl rfl rfl fun _ => rfl
  have hd := hglobal.table.noDangling
  refine Handled.of_silent hglobal.emit ?_ ?_ (fun _ => by simp) (by simp)
  · rw [handle, globalActiveChangedCb, responses_globalEmitStateChanged hd]
    exact hsent
  · rw [handle, globalActiveChangedCb, globalEmitStateChanged_eq hd]

/-- The handling of any event whose export succeeds. -/
lemma handled_of_exportSucceeds {e : Event} (he : ExportSucceeds s e) : Handled s r e := by
  cases e with
  | createMonitor sessionHandle busOk =>
    obtain ⟨rfl, hfree⟩ := he
    exact handled_createMonitor h hsent hfree
  | close path => exact handled_close h hsent path
  | queryEndResponse sessionHandle => exact handled_queryEndResponse h hsent sessionHandle
  | clientSignal signalName => exact handled_clientSignal h hsent signalName
  | timeout source => exact handled_timeout h hsent source
  | activeChanged active => exact handled_activeChanged h hsent active

end Events

/-! ## Whole runs -/

/-- The step of the observed machine handles the event in the same state without messages. -/
lemma handled_clearSent {p : State × Rounds} (h : RoundInv p.1 p.2) {e : Event}
    (he : ExportSucceeds p.1 e) : Handled { p.1 with sent := [] } p.2 e := by
  have hclear : RoundInv { p.1 with sent := [] } p.2 :=
    h.congr ⟨fun _ => rfl, rfl, rfl, rfl, rfl, rfl⟩ rfl rfl rfl rfl fun _ => rfl
  exact handled_of_exportSucceeds hclear rfl (by cases e <;> exact he)

lemma roundMonitor_step (client : Bool) (p : State × Rounds) (e : Event) :
    (roundMonitor client).step p e = (handle e { p.1 with sent := [] },
      recordRounds p.2 { p.1 with sent := [] } e (handle e { p.1 with sent := [] })) := by
  cases e <;> rfl

lemma receive_clearSent (p : State × Rounds) (e : Event) :
    p.2.receive { p.1 with sent := [] } e = p.2.receive p.1 e := by
  cases e <;> rfl

section Runs

variable {client : Bool}

lemma roundInv_step (p : State × Rounds) (e : Event) (h : RoundInv p.1 p.2)
    (he : ExportSucceeds p.1 e) :
    RoundInv ((roundMonitor client).step p e).1 ((roundMonitor client).step p e).2 := by
  rw [roundMonitor_step]
  exact (handled_clearSent h he).inv

lemma responsesOk_step (p : State × Rounds) (e : Event) (h : RoundInv p.1 p.2)
    (he : ExportSucceeds p.1 e) : ResponsesOk client p e := by
  have hh := handled_clearSent h he
  refine ⟨?_, ?_, ?_, hh.timer⟩
  · rw [roundMonitor_step]
    exact hh.endSession
  · rw [roundMonitor_step]
    exact hh.at_most_one
  · rw [roundMonitor_step, ← receive_clearSent]
    exact hh.to_open_round

lemma consentOk_step (p : State × Rounds) (e : Event) (h : RoundInv p.1 p.2)
    (he : ExportSucceeds p.1 e) : ConsentOk client p e := by
  have hh := handled_clearSent h he
  rw [ConsentOk, roundMonitor_step, ← receive_clearSent]
  exact hh.consent

lemma roundInv_run {evs : List Event}
    (h : (monitor client).Along ExportSucceeds (initial client) evs) :
    RoundInv ((roundMonitor client).run evs).1 ((roundMonitor client).run evs).2 := by
  have halong : (roundMonitor client).Along (fun p e => ExportSucceeds p.1 e)
      (roundMonitor client).init evs := Machine.along_observe.mpr h
  exact Machine.inv_run (RoundInv.initial client) roundInv_step halong

end Runs

/-- **Rounds are answered at most once, and never after they are over**: the states and timers of
the rounds and the responses to every event of a run in which the exports succeed. -/
theorem rounds_answered_once (client : Bool) (evs : List Event)
    (h : (monitor client).Along ExportSucceeds (initial client) evs) :
    (∀ pre, pre <+: evs → RoundsOk ((roundMonitor client).run pre)) ∧
      ∀ pre e, pre ++ [e] <+: evs → ResponsesOk client ((roundMonitor client).run pre) e := by
  refine ⟨fun pre hpre => (roundInv_run (h.of_prefix hpre)).roundsOk, fun pre e hpre => ?_⟩
  obtain ⟨halong, he⟩ := Machine.along_concat.mp (h.of_prefix hpre)
  refine responsesOk_step _ e (roundInv_run halong) ?_
  rw [roundMonitor, Machine.observe_run_fst]
  exact he

/-- A round answered by its only session, and one cancelled while it is waited for. -/
theorem rounds_answered_once_two_rounds :
    (∀ pre, pre <+: [.createMonitor "/a" true, .clientSignal "QueryEndSession",
        .queryEndResponse "/a", .clientSignal "QueryEndSession",
        .clientSignal "CancelEndSession", .timeout 2] →
      RoundsOk ((roundMonitor true).run pre)) ∧
    ∀ pre e, pre ++ [e] <+: [.createMonitor "/a" true, .clientSignal "QueryEndSession",
        .queryEndResponse "/a", .clientSignal "QueryEndSession",
        .clientSignal "CancelEndSession", .timeout 2] →
      ResponsesOk true ((roundMonitor true).run pre) e :=
  rounds_answered_once true _ (by decide)

/-- **No premature consent to end the session**: in a run in which the exports succeed, a round
that is not ended by its timer is answered only after every session that was active at its
beginning has been closed or has responded for its own handle. -/
theorem no_premature_consent (client : Bool) (evs : List Event)
    (h : (monitor client).Along ExportSucceeds (initial client) evs) :
    ∀ pre e, pre ++ [e] <+: evs → ConsentOk client ((roundMonitor client).run pre) e := by
  intro pre e hpre
  obtain ⟨halong, he⟩ := Machine.along_concat.mp (h.of_prefix hpre)
  refine consentOk_step _ e (roundInv_run halong) ?_
  rw [roundMonitor, Machine.observe_run_fst]
  exact he

/-- The second of two sessions answers, and with it the portal. -/
theorem no_premature_consent_two_sessions :
    ((roundMonitor true).step ((roundMonitor true).run [.createMonitor "/a" true,
        .createMonitor "/b" true, .clientSignal "QueryEndSession", .queryEndResponse "/a"])
      (.queryEndResponse "/b")).1.responses = 1 ∧
    ConsentOk true ((roundMonitor true).run [.createMonitor "/a" true,
        .createMonitor "/b" true, .clientSignal "QueryEndSession", .queryEndResponse "/a"])
      (.queryEndResponse "/b") :=
  ⟨by decide, no_premature_consent true [.createMonitor "/a" true, .createMonitor "/b" true,
    .clientSignal "QueryEndSession", .queryEndResponse "/a", .queryEndResponse "/b"] (by decide)
    _ _ List.prefix_rfl⟩

end XappPortal.Monitor
