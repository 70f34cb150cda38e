/-
# The session monitors without pointers

What the session monitors are for, without the heap, the reference counts, the hash table and the
registrations: a list of open sessions, each marked or not as awaited, and at most one open round.
This is the `Board`.

In the runs in which every `CreateMonitor` succeeds the portal sends exactly the messages of the
board, event by event (`monitor_trace_eq`).
-/
import XappPortal.Lib.Refinement
import XappPortal.Monitor.Waiting

namespace XappPortal.Monitor

open XappPortal.Lib

/-- The open sessions and the open round. -/
@[ext] structure Board where
  /-- The handles of the open sessions, the latest first, each with whether it is awaited. -/
  sessions : List (String × Bool)
  sessionState : SessionState
  screensaverActive : Bool
  /-- The number of the open round. -/
  round : Option ℕ
  /-- The number of the next round. -/
  nextRound : ℕ
  /-- Whether there is a session manager to answer. -/
  client : Bool
  /-- The messages sent while handling the last event. -/
  sent : List Message
deriving DecidableEq, Repr

namespace Board

/-- The handles of the open sessions. -/
def handles (b : Board) : List String := b.sessions.map Prod.fst

/-- Whether somebody is awaited. -/
def awaiting (b : Board) : Bool := b.sessions.any Prod.snd

/-- Send a message. -/
def send (b : Board) (m : Message) : Board := { b with sent := b.sent ++ [m] }

/-- Tell every session about the states of the user's session and the screensaver. -/
def tell (b : Board) : Board :=
  { b with sent := b.sent ++ b.sessions.map fun p =>
      .stateChanged p.1 b.screensaverActive b.sessionState.toUInt32 }

/-- Await every session, or none. -/
def await (awaited : Bool) (b : Board) : Board :=
  { b with sessions := b.sessions.map fun p => (p.1, awaited) }

/-- The round is over, with or without an answer to the session manager. -/
def finish (respond : Bool) (b : Board) : Board :=
  { b.await false with
    round := none
    sent := b.sent ++ if respond && b.client then [.endSessionResponse true ""] else [] }

/-- The round is over once nobody is awaited. -/
def settle (b : Board) : Board :=
  if b.round = none ∨ b.awaiting = true then b else b.finish true

/-- A round begins, unless one is open. -/
def begin (b : Board) : Board :=
  if b.round = none then
    { b.await true with round := some b.nextRound, nextRound := b.nextRound + 1 }
  else b

/-- A session is not awaited any more. -/
def answer (handle : String) (b : Board) : Board :=
  { b with sessions := b.sessions.map fun p => if p.1 = handle then (p.1, false) else p }

/-- The user's session enters a state. -/
def enter (state : SessionState) (b : Board) : Board := tell { b with sessionState := state }

/-- What a signal of the session manager does. -/
def signal (signalName : String) (b : Board) : Board :=
  if signalName = "QueryEndSession" then (b.begin.enter .queryEnd).settle
  else if signalName = "CancelEndSession" then (b.finish false).enter .running
  else if signalName = "EndSession" then
    ((b.finish false).enter .ending).send (.endSessionResponse true "")
  else b

/-- What an event does. -/
def handle (e : Event) (b : Board) : Board :=
  match e with
  | .createMonitor sessionHandle _ =>
      { b with
        sessions := (sessionHandle, false) :: b.sessions
        sent := b.sent ++ [.createMonitorReply 0,
          .stateChanged sessionHandle b.screensaverActive b.sessionState.toUInt32] }
  | .close path =>
      if path ∈ b.handles then
        { b with
          sessions := b.sessions.filter fun p => p.1 ≠ path
          sent := b.sent ++ [.closeReply] }
      else b
  | .queryEndResponse sessionHandle =>
      (if sessionHandle ∈ b.handles then (b.answer sessionHandle).settle else b).send
        .queryEndResponseReply
  | .clientSignal signalName => if b.client then b.signal signalName else b
  | .timeout source => if b.round = some source then b.finish true else b
  | .activeChanged active => tell { b with screensaverActive := active }

end Board

/-- The board as a machine. -/
def board (client : Bool) : Machine Board Event where
  init :=
    { sessions := []
      sessionState := .running
      screensaverActive := false
      round := none
      nextRound := 1
      client := client
      sent := [] }
  step b e := Board.handle e { b with sent := [] }

/-! ## The board of a state -/

/-- The entry of the session at an address. -/
def entry (h : Heap InhibitSession) (a : ℕ) : Option (String × Bool) :=
  (h.cell a).map fun x => (x.id, x.pendingQueryEndResponse)

namespace State

/-- The board of a state. -/
def board (s : State) : Board where
  sessions := s.activeSessions.filterMap (entry s.heap)
  sessionState := s.sessionState
  screensaverActive := s.screensaverActive
  round := if s.queryEndTimeout = 0 then none else some s.queryEndTimeout
  nextRound := s.nextSource
  client := s.client
  sent := s.sent

variable {s : State}

lemma board_round_eq_none : s.board.round = none ↔ s.queryEndTimeout = 0 := by
  simp [State.board]

lemma board_send (m : Message) : (s.send m).board = s.board.send m := rfl

lemma board_awaiting : s.board.awaiting = s.activeSessions.any s.pending := by
  have hentry : ∀ a, (entry s.heap a).any Prod.snd = s.pending a := by
    intro a
    cases hc : s.heap.cell a <;> simp [entry, pending, hc]
  have hany : ∀ l : List ℕ, (l.filterMap (entry s.heap)).any Prod.snd = l.any s.pending := by
    intro l
    induction l with
    | nil => rfl
    | cons a l ih =>
      rw [List.any_cons, ← hentry, ← ih, List.filterMap_cons]
      cases entry s.heap a <;> simp
  exact hany s.activeSessions

end State

/-- Marking all the sessions. -/
lemma entries_modifyAll (h : Heap InhibitSession) (l : List ℕ) (p : Bool) :
    l.filterMap (entry (h.modifyAll l (setPending p)))
      = (l.filterMap (entry h)).map fun q => (q.1, p) := by
  have hentry : ∀ a ∈ l, entry (h.modifyAll l (setPending p)) a
      = (entry h a).map fun q => (q.1, p) := by
    intro a ha
    rw [entry, modifyAll_setPending_cell, if_pos ha]
    cases hc : h.cell a <;> simp [entry, hc, setPending]
  rw [List.filterMap_congr hentry, List.map_filterMap]

section Table

variable {s : State} (h : TableInv s)
include h

lemma TableInv.mem_handles {id : String} :
    id ∈ s.board.handles ↔ ∃ a, s.registered id = some a := by
  have hmem : ∀ a, s.registered id = some a ↔
      a ∈ s.activeSessions ∧ ∃ p, entry s.heap a = some p ∧ p.1 = id := by
    intro a
    rw [h.registered, h.mem_active]
    cases hc : s.heap.cell a <;> simp [State.session, entry, hc]
  simp only [Board.handles, State.board, List.mem_map, List.mem_filterMap, hmem]
  constructor
  · rintro ⟨p, ⟨a, ha, hp⟩, hid⟩
    exact ⟨a, ha, p, hp, hid⟩
  · rintro ⟨a, ha, p, hp, hid⟩
    exact ⟨p, ⟨a, ha, hp⟩, hid⟩

/-- The session with a handle is the only one with that handle. -/
lemma TableInv.entry_fst_eq {id : String} {a b : ℕ} (ha : s.registered id = some a)
    {p : String × Bool} (hp : entry s.heap b = some p) : p.1 = id ↔ b = a := by
  obtain ⟨y, hy, rfl⟩ : ∃ y, s.heap.cell b = some y ∧
      (y.id, y.pendingQueryEndResponse) = p := by
    simpa [entry] using hp
  constructor
  · rintro rfl
    have hb := (h.registered y.id b).mpr ⟨y.toSession, session_of_cell hy, rfl⟩
    exact Option.some.inj (hb.symm.trans ha)
  · rintro rfl
    obtain ⟨z, hz, hid⟩ := h.exists_of_registered ha
    obtain rfl : z = y := Option.some.inj (hz.symm.trans hy)
    exact hid

end Table

/-! ## The functions of the portal on the board -/

section Functions

variable {s : State}

lemma board_globalEmitStateChanged (hd : s.NoDangling) :
    (globalEmitStateChanged s).board = s.board.tell := by
  have hmap : s.activeSessions.filterMap (fun a => (s.heap.cell a).map fun x =>
      Message.stateChanged x.id s.screensaverActive s.sessionState.toUInt32)
      = (s.activeSessions.filterMap (entry s.heap)).map fun p =>
          .stateChanged p.1 s.screensaverActive s.sessionState.toUInt32 := by
    rw [List.map_filterMap]
    refine List.filterMap_congr fun a _ => ?_
    cases hc : s.heap.cell a <;> simp [entry, hc]
  rw [globalEmitStateChanged_eq hd, hmap]
  rfl

lemma board_setSessionState (hd : s.NoDangling) (state : SessionState) :
    (setSessionState state s).board = s.board.enter state := by
  have hd' : State.NoDangling { s with sessionState := state } := hd
  rw [setSessionState, board_globalEmitStateChanged hd']
  rfl

lemma board_globalActiveChangedCb (hd : s.NoDangling) (active : Bool) :
    (globalActiveChangedCb active s).board
      = Board.tell { s.board with screensaverActive := active } := by
  have hd' : State.NoDangling { s with screensaverActive := active } := hd
  rw [globalActiveChangedCb, board_globalEmitStateChanged hd']
  rfl

lemma board_stopWaiting (ht : TimerInv s) (hd : s.NoDangling) (sendResponse : Bool) :
    (stopWaitingForQueryEndResponse sendResponse s).board = s.board.finish sendResponse := by
  rw [stopWaiting_eq ht hd]
  ext1
  · exact entries_modifyAll s.heap s.activeSessions false
  all_goals rfl

lemma board_waitForQueryEndResponse (ht : TimerInv s) (hd : s.NoDangling) :
    (waitForQueryEndResponse s).board = s.board.begin := by
  by_cases h0 : s.queryEndTimeout = 0
  · have hpos : s.nextSource ≠ 0 := Nat.ne_of_gt (Nat.lt_of_le_of_lt (Nat.zero_le _) ht.fresh)
    rw [waitForQueryEndResponse_eq ht hd h0, Board.begin, if_pos (State.board_round_eq_none.mpr h0)]
    ext1
    · exact entries_modifyAll s.heap s.activeSessions true
    · rfl
    · rfl
    · exact if_neg hpos
    all_goals rfl
  · rw [waitForQueryEndResponse_of_waiting h0, Board.begin,
      if_neg (mt State.board_round_eq_none.mp h0)]

lemma board_maybeSendQuitResponse (ht : TimerInv s) (hd : s.NoDangling) :
    (maybeSendQuitResponse s).board = s.board.settle := by
  rw [maybeSendQuitResponse_eq ht hd, Board.settle, State.board_awaiting,
    apply_ite State.board, board_stopWaiting ht hd]
  simp only [State.board_round_eq_none]

lemma board_update (h : TableInv s) {id : String} {a : ℕ} (ha : s.registered id = some a) :
    (s.update a (setPending false)).board = s.board.answer id := by
  obtain ⟨y, hy, -⟩ := h.exists_of_registered ha
  rw [State.update_of_alive hy]
  have hentry : ∀ b ∈ s.activeSessions,
      entry (s.heap.modify a (setPending false)) b
        = (entry s.heap b).map fun p => if p.1 = id then (p.1, false) else p := by
    intro b _
    cases hb : entry s.heap b with
    | none =>
      have hcell : s.heap.cell b = none := by simpa [entry] using hb
      simp [entry, hcell]
    | some p =>
      have hiff := h.entry_fst_eq ha hb
      obtain ⟨z, hz, rfl⟩ : ∃ z, s.heap.cell b = some z ∧
          (z.id, z.pendingQueryEndResponse) = p := by
        simpa [entry] using hb
      by_cases hba : b = a
      · have hid : z.id = id := hiff.mpr hba
        subst hba
        simp [entry, hz, hid, setPending]
      · have hid : z.id ≠ id := mt hiff.mp hba
        simp [entry, hz, hba, hid]
  ext1
  · show s.activeSessions.filterMap _ = (s.activeSessions.filterMap (entry s.heap)).map _
    rw [List.filterMap_congr hentry, List.map_filterMap]
  all_goals rfl

lemma board_handleCreateMonitor (h : TableInv s) {id : String}
    (hfree : s.registered id = none) :
    (handleCreateMonitor id true s).board = s.board.handle (.createMonitor id true) := by
  rw [handleCreateMonitor_eq hfree]
  have hentry : ∀ a ∈ s.activeSessions,
      entry (s.heap.alloc (openSession id)) a = entry s.heap a := by
    intro a ha
    -- the new object is not one of the active sessions
    have hne : a ≠ s.heap.next := by
      rintro rfl
      obtain ⟨x, hx⟩ := h.noDangling _ ha
      rw [Heap.cell_next] at hx
      exact absurd hx (by simp)
    simp [entry, hne]
  have hnew : entry (s.heap.alloc (openSession id)) s.heap.next
      = some (id, false) := by
    simp [entry, openSession]
  ext1
  · show (s.heap.next :: s.activeSessions).filterMap
      (entry (s.heap.alloc (openSession id)))
        = (id, false) :: s.activeSessions.filterMap (entry s.heap)
    rw [List.filterMap_cons_some hnew, List.filterMap_congr hentry]
  all_goals rfl

lemma board_dispatchClose (h : TableInv s) (path : String) :
    (dispatchClose inhibitSessionClose path s).board = s.board.handle (.close path) := by
  cases hreg : s.registered path with
  | none =>
    have hnot : path ∉ s.board.handles := by simp [h.mem_handles, hreg]
    rw [dispatchClose, hreg, Board.handle, if_neg hnot]
  | some a =>
    obtain ⟨y, -, -, heq⟩ := h.dispatchClose_eq_of_registered hreg
    rw [heq, Board.handle, if_pos (h.mem_handles.mpr ⟨a, hreg⟩)]
    have hentry : ∀ b ∈ s.activeSessions,
        (if b ≠ a then entry (s.heap.free a) b else none)
          = (entry s.heap b).filter fun p => p.1 ≠ path := by
      intro b _
      by_cases hba : b = a
      · subst hba
        cases hb : entry s.heap b with
        | none => simp
        | some p => simp [Option.filter, (h.entry_fst_eq hreg hb).mpr rfl]
      · cases hb : entry s.heap b with
        | none => simpa [entry, hba] using hb
        | some p =>
          have hne : p.1 ≠ path := mt (h.entry_fst_eq hreg hb).mp hba
          have hcell : entry (s.heap.free a) b = entry s.heap b := by
            simp [entry, hba]
          simp [hba, hcell, hb, hne, Option.filter]
    ext1
    · show (s.activeSessions.erase a).filterMap _
        = (s.activeSessions.filterMap (entry s.heap)).filter _
      rw [h.nodup.erase_eq_filter, List.filterMap_filter, List.filter_filterMap]
      refine List.filterMap_congr fun b hb => ?_
      simpa using hentry b hb
    all_goals rfl

lemma board_handleQueryEndResponse (h : Consistent s) (id : String) :
    (handleQueryEndResponse id s).board = s.board.handle (.queryEndResponse id) := by
  rw [handleQueryEndResponse, State.board_send, Board.handle]
  cases hlook : lookupSession s id with
  | none =>
    have hnot : id ∉ s.board.handles := by
      rw [h.table.mem_handles]
      rintro ⟨a, ha⟩
      have hsess := (h.table.sessions id a).mpr ((h.table.registered id a).mp ha)
      exact absurd (hlook.symm.trans hsess) (by simp)
    rw [if_neg hnot]
  | some a =>
    have hreg : s.registered id = some a :=
      (h.table.registered id a).mpr ((h.table.sessions id a).mp hlook)
    have hupd := h.update hlook
    rw [if_pos (h.table.mem_handles.mpr ⟨a, hreg⟩), ← board_update h.table hreg,
      ← board_maybeSendQuitResponse hupd.timer hupd.table.noDangling]

lemma board_clientProxySignal (h : Consistent s) (hclient : s.client = true)
    (signalName : String) :
    (clientProxySignal signalName s).board = s.board.signal signalName := by
  have hwait := h.waitForQueryEndResponse hclient
  have hquery := hwait.setSessionState .queryEnd
  have hstop := h.stopWaiting false
  rw [clientProxySignal, Board.signal]
  split
  · rw [board_maybeSendQuitResponse hquery.timer hquery.table.noDangling,
      board_setSessionState hwait.table.noDangling,
      board_waitForQueryEndResponse h.timer h.table.noDangling]
  · split
    · rw [board_setSessionState hstop.table.noDangling,
        board_stopWaiting h.timer h.table.noDangling]
    · split
      · rw [sendQuitResponse, State.board_send, board_setSessionState hstop.table.noDangling,
          board_stopWaiting h.timer h.table.noDangling]
        rfl
      · rfl

lemma board_dispatchTimeout (h : Consistent s) (source : ℕ) :
    (dispatchTimeout source s).board = s.board.handle (.timeout source) := by
  have hlive : source ∈ s.timers ↔ s.board.round = some source := by
    rw [h.timer.timers]
    by_cases h0 : s.queryEndTimeout = 0 <;> simp [State.board, h0, eq_comm]
  rw [dispatchTimeout, Board.handle]
  by_cases hs : source ∈ s.timers
  · rw [if_pos hs, if_pos (hlive.mp hs),
      ← board_stopWaiting h.timer h.table.noDangling]
    rfl
  · rw [if_neg hs, if_neg (mt hlive.mpr hs)]

/-- Every event does to the board of a state what it does to the state. -/
lemma board_handle (h : Consistent s) {e : Event} (he : ExportSucceeds s e) :
    (handle e s).board = s.board.handle e := by
  cases e with
  | createMonitor id busOk =>
    obtain ⟨rfl, hfree⟩ := he
    exact board_handleCreateMonitor h.table hfree
  | close path => exact board_dispatchClose h.table path
  | queryEndResponse id => exact board_handleQueryEndResponse h id
  | clientSignal signalName =>
    have hclient : s.board.client = s.client := rfl
    rw [handle, Board.handle, hclient]
    split
    · next hc => exact board_clientProxySignal h hc signalName
    · rfl
  | timeout source => exact board_dispatchTimeout h source
  | activeChanged active => exact board_globalActiveChangedCb h.table.noDangling active

end Functions

/-! ## The portal and the board -/

/-- The session monitors refine the board, as long as the exports succeed. -/
lemma monitor_refines_board (client : Bool) :
    (monitor client).Refines (board client) ExportSucceeds
      fun s b => Consistent s ∧ s.board = b where
  init := ⟨Consistent.initial client, rfl⟩
  step s b e hsb he := by
    obtain ⟨hs, rfl⟩ := hsb
    exact ⟨hs.step he, board_handle hs.clearSent (by cases e <;> exact he)⟩

/-- **The portal sends exactly the messages of the board**, event by event, in every run whose
exports succeed, and ends with the same open sessions, awaited alike. -/
theorem monitor_trace_eq (client : Bool) (evs : List Event)
    (h : (monitor client).Along ExportSucceeds (initial client) evs) :
    (monitor client).trace State.sent evs = (board client).trace Board.sent evs ∧
      ((monitor client).run evs).board = (board client).run evs :=
  ⟨(monitor_refines_board client).trace_eq (fun _ _ hsb => congrArg Board.sent hsb.2) h,
    ((monitor_refines_board client).run h).2⟩

/-- Two sessions are asked, and one of them answers twice. -/
theorem monitor_trace_eq_two_sessions :
    (monitor true).trace State.sent [.createMonitor "/a" true, .createMonitor "/b" true,
        .clientSignal "QueryEndSession", .queryEndResponse "/a", .queryEndResponse "/a",
        .queryEndResponse "/b"]
      = [[.createMonitorReply 0, .stateChanged "/a" false 1],
        [.createMonitorReply 0, .stateChanged "/b" false 1],
        [.stateChanged "/b" false 2, .stateChanged "/a" false 2],
        [.queryEndResponseReply],
        [.queryEndResponseReply],
        [.endSessionResponse true "", .queryEndResponseReply]] :=
  (monitor_trace_eq true _ (by decide)).1.trans (by decide)

/-! ## Answers in any order -/

/-- The number of `EndSessionResponse` calls among the messages of a run. -/
def responsesIn (sent : List (List Message)) : ℕ :=
  sent.flatten.countP Message.isEndSessionResponse

lemma responsesIn_cons (out : List Message) (sent : List (List Message)) :
    responsesIn (out :: sent) = out.countP Message.isEndSessionResponse + responsesIn sent := by
  rw [responsesIn, List.flatten_cons, List.countP_append]
  rfl

namespace Board

/-- The answers of `ids` complete the open round: somebody known is among them, and everybody
awaited. -/
def Completes (b : Board) (ids : List String) : Prop :=
  b.round ≠ none ∧ (∃ id ∈ ids, id ∈ b.handles) ∧ ∀ p ∈ b.sessions, p.2 = true → p.1 ∈ ids

instance (b : Board) (ids : List String) : Decidable (b.Completes ids) :=
  inferInstanceAs (Decidable (_ ∧ _))

variable {b : Board} {id : String} {ids : List String}

lemma handles_answer : (b.answer id).handles = b.handles := by
  rw [handles, answer, List.map_map, handles]
  refine List.map_congr_left fun p _ => ?_
  by_cases hp : p.1 = id <;> simp [hp]

lemma mem_sessions_answer {p : String × Bool} :
    p ∈ (b.answer id).sessions ∧ p.2 = true ↔ p ∈ b.sessions ∧ p.2 = true ∧ p.1 ≠ id := by
  obtain ⟨h, w⟩ := p
  simp only [answer, List.mem_map]
  constructor
  · rintro ⟨⟨⟨h', w'⟩, hmem, heq⟩, rfl⟩
    by_cases hid : h' = id
    · rw [if_pos hid] at heq
      exact absurd (congrArg Prod.snd heq) (by simp)
    · rw [if_neg hid] at heq
      cases heq
      exact ⟨hmem, rfl, hid⟩
  · rintro ⟨hmem, rfl, hid⟩
    exact ⟨⟨(h, true), hmem, if_neg hid⟩, rfl⟩

lemma not_completes_of_idle (h : b.round = none) : ¬ b.Completes ids := fun hc => hc.1 h

lemma not_completes_nil : ¬ b.Completes [] := by
  rintro ⟨-, ⟨id, hid, -⟩, -⟩
  exact absurd hid List.not_mem_nil

/-- The answer of an unknown session completes nothing. -/
lemma completes_cons_of_unknown (hid : id ∉ b.handles) :
    b.Completes (id :: ids) ↔ b.Completes ids := by
  have hne : ∀ p ∈ b.sessions, p.1 ≠ id := by
    rintro p hp rfl
    exact hid (List.mem_map_of_mem hp)
  refine and_congr_right fun _ => and_congr ?_ (forall₂_congr fun p hp => ?_)
  · simp [hid]
  · simp [hne p hp]

/-- After an answer that leaves somebody awaited the others have to complete the round. -/
lemma completes_cons_of_awaiting (hid : id ∈ b.handles) (hwait : (b.answer id).awaiting = true) :
    b.Completes (id :: ids) ↔ (b.answer id).Completes ids := by
  have hrest : ∀ ids, (∀ p ∈ (b.answer id).sessions, p.2 = true → p.1 ∈ ids) ↔
      ∀ p ∈ b.sessions, p.2 = true → p.1 ∈ id :: ids := by
    intro ids
    constructor
    · intro h p hp hp2
      by_cases hpid : p.1 = id
      · exact hpid ▸ List.mem_cons_self ..
      · obtain ⟨hmem, -⟩ := mem_sessions_answer.mpr ⟨hp, hp2, hpid⟩
        exact List.mem_cons_of_mem _ (h p hmem hp2)
    · intro h p hp hp2
      obtain ⟨hmem, -, hne⟩ := mem_sessions_answer.mp ⟨hp, hp2⟩
      exact (List.mem_cons.mp (h p hmem hp2)).resolve_left hne
  rw [Completes, Completes, handles_answer, hrest]
  refine and_congr_right fun _ => ⟨fun hc => ⟨?_, hc.2⟩, fun hc => ⟨⟨id, by simp, hid⟩, hc.2⟩⟩
  -- whoever is awaited is known, and has to be among the others
  obtain ⟨p, hp, hp2⟩ := List.any_eq_true.mp hwait
  have hin := (hrest ids).mpr hc.2 p hp hp2
  have hknown : p.1 ∈ (b.answer id).handles := List.mem_map_of_mem hp
  exact ⟨p.1, hin, handles_answer ▸ hknown⟩

/-- An answer that leaves nobody awaited completes the round. -/
lemma completes_cons_of_done (hround : b.round ≠ none) (hid : id ∈ b.handles)
    (hdone : (b.answer id).awaiting = false) : b.Completes (id :: ids) := by
  refine ⟨hround, ⟨id, by simp, hid⟩, fun p hp hp2 => ?_⟩
  by_contra hnot
  have hne : p.1 ≠ id := fun h => hnot (h ▸ List.mem_cons_self ..)
  have hmem := mem_sessions_answer.mpr ⟨hp, hp2, hne⟩
  have hawait : (b.answer id).awaiting = true := List.any_eq_true.mpr ⟨p, hmem⟩
  exact absurd (hdone.symm.trans hawait) (by simp)

variable {client : Bool}

lemma step_unknown (hid : id ∉ b.handles) :
    (board client).step b (.queryEndResponse id)
      = { b with sent := [.queryEndResponseReply] } := by
  have hid' : id ∉ Board.handles { b with sent := [] } := hid
  simp [board, handle, hid', send]

lemma step_awaiting (hid : id ∈ b.handles)
    (hstay : b.round = none ∨ (b.answer id).awaiting = true) :
    (board client).step b (.queryEndResponse id)
      = { b.answer id with sent := [.queryEndResponseReply] } := by
  have hid' : id ∈ Board.handles { b with sent := [] } := hid
  have hstay' : (Board.answer id { b with sent := [] }).round = none ∨
      (Board.answer id { b with sent := [] }).awaiting = true := hstay
  simp only [board, handle, if_pos hid', settle, if_pos hstay', send]
  rfl

lemma step_done (hclient : b.client = true) (hid : id ∈ b.handles) (hround : b.round ≠ none)
    (hdone : (b.answer id).awaiting = false) :
    (board client).step b (.queryEndResponse id)
      = { (b.answer id).finish true with
          sent := [.endSessionResponse true "", .queryEndResponseReply] } := by
  have hid' : id ∈ Board.handles { b with sent := [] } := hid
  have hgo : ¬ ((Board.answer id { b with sent := [] }).round = none ∨
      (Board.answer id { b with sent := [] }).awaiting = true) :=
    fun h => h.elim hround fun h => absurd (hdone.symm.trans h) (by simp)
  have hclient' : (Board.answer id { b with sent := [] }).client = true := hclient
  simp only [board, handle, if_pos hid', settle, if_neg hgo, send, finish, hclient']
  rfl

/-- Answers alone: the round is answered once if they complete it, and stays open otherwise. -/
lemma answers_run (hclient : b.round ≠ none → b.client = true) (ids : List String) :
    responsesIn ((board client).traceFrom Board.sent b (ids.map .queryEndResponse))
        = (if b.Completes ids then 1 else 0) ∧
      ((board client).runFrom b (ids.map .queryEndResponse)).round
        = if b.Completes ids then none else b.round := by
  induction ids generalizing b with
  | nil =>
    rw [if_neg not_completes_nil, if_neg not_completes_nil]
    exact ⟨rfl, rfl⟩
  | cons id ids ih =>
    rw [List.map_cons, Machine.traceFrom_cons, Machine.runFrom_cons, responsesIn_cons]
    by_cases hid : id ∈ b.handles
    · by_cases hround : b.round = none
      · rw [step_awaiting hid (.inl hround)]
        have hidle : ¬ Completes { b.answer id with sent := [.queryEndResponseReply] } ids :=
          not_completes_of_idle hround
        obtain ⟨hsum, hrun⟩ := ih (b := { b.answer id with sent := [.queryEndResponseReply] })
          hclient
        rw [hsum, hrun, if_neg hidle, if_neg hidle, if_neg (not_completes_of_idle hround),
          if_neg (not_completes_of_idle hround)]
        exact ⟨rfl, rfl⟩
      · cases hwait : (b.answer id).awaiting with
        | true =>
          rw [step_awaiting hid (.inr hwait)]
          obtain ⟨hsum, hrun⟩ := ih (b := { b.answer id with sent := [.queryEndResponseReply] })
            hclient
          have hiff : Completes { b.answer id with sent := [.queryEndResponseReply] } ids ↔
              b.Completes (id :: ids) := (completes_cons_of_awaiting hid hwait).symm
          rw [hsum, hrun]
          simp only [hiff]
          exact ⟨Nat.zero_add _, rfl⟩
        | false =>
          rw [step_done (hclient hround) hid hround hwait]
          -- the round is over, and the answers that follow complete nothing
          have hidle : ¬ Completes { (b.answer id).finish true with
              sent := [.endSessionResponse true "", .queryEndResponseReply] } ids :=
            not_completes_of_idle rfl
          obtain ⟨hsum, hrun⟩ := ih (b := { (b.answer id).finish true with
            sent := [.endSessionResponse true "", .queryEndResponseReply] })
            fun h => absurd rfl h
          have hdone : b.Completes (id :: ids) := completes_cons_of_done hround hid hwait
          rw [hsum, hrun, if_neg hidle, if_neg hidle, if_pos hdone, if_pos hdone]
          exact ⟨rfl, rfl⟩
    · rw [step_unknown hid]
      obtain ⟨hsum, hrun⟩ := ih (b := { b with sent := [.queryEndResponseReply] }) hclient
      have hiff : Completes { b with sent := [.queryEndResponseReply] } ids ↔
          b.Completes (id :: ids) := (completes_cons_of_unknown hid).symm
      rw [hsum, hrun]
      simp only [hiff, and_true]
      exact Nat.zero_add _

end Board

/-- Answers are never exports. -/
lemma along_answers {client : Bool} {s : State} (ids : List String) :
    (monitor client).Along ExportSucceeds s (ids.map .queryEndResponse) := by
  refine Machine.along_of_mem fun e he s => ?_
  obtain ⟨id, -, rfl⟩ := List.mem_map.mp he
  trivial

/-- **Answers settle a round in any order**: from any state that a run reaches, a sequence of
`QueryEndResponse` calls, with any repetitions and unknown handles, has the session manager answered
once if everybody awaited is among them and somebody known, and otherwise not at all; the round is
then over, and otherwise as it was. -/
theorem answers_settle_round (client : Bool) (evs : List Event) (ids : List String)
    (h : (monitor client).Along ExportSucceeds (initial client) evs) :
    responsesIn ((monitor client).traceFrom State.sent ((monitor client).run evs)
        (ids.map .queryEndResponse))
        = (if ((monitor client).run evs).board.Completes ids then 1 else 0) ∧
      ((monitor client).run (evs ++ ids.map .queryEndResponse)).board.round
        = if ((monitor client).run evs).board.Completes ids then none
          else ((monitor client).run evs).board.round := by
  set s := (monitor client).run evs with hs
  have hcons : Consistent s := consistent_run h
  have href := monitor_refines_board client
  have hsame : ∀ s b, (Consistent s ∧ s.board = b) → s.sent = b.sent :=
    fun _ _ hsb => congrArg Board.sent hsb.2
  have hanswers : (monitor client).Along ExportSucceeds s (ids.map .queryEndResponse) :=
    along_answers ids
  have htrace := href.traceFrom_eq hsame ⟨hcons, rfl⟩ hanswers
  have hrun := (href.runFrom ⟨hcons, rfl⟩ hanswers).2
  rw [htrace, Machine.run, Machine.runFrom_append]
  change _ ∧ ((monitor client).runFrom s _).board.round = _
  rw [hrun]
  -- a round is open only for a session manager
  refine Board.answers_run (fun hround => ?_) ids
  exact hcons.timer.client (mt State.board_round_eq_none.mpr hround)

/-- Two sessions are awaited, and the answers come in the other order, one of them twice. -/
theorem answers_settle_round_two_sessions :
    responsesIn ((monitor true).traceFrom State.sent ((monitor true).run [.createMonitor "/a" true,
        .createMonitor "/b" true, .clientSignal "QueryEndSession"])
      (["/b", "/c", "/b", "/a", "/b"].map .queryEndResponse)) = 1 :=
  (answers_settle_round true _ _ (by decide)).1.trans (by decide)

end XappPortal.Monitor
