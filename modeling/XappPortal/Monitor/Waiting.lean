/-
# Whom an open round waits for

As long as a round is open the portal should be waiting for somebody, and it should wait for every
session that it has told about the end of the user's session.

* Somebody is waited for in the runs in which no `Close` ends the last session that is waited for,
  and in no others (`waitsForSomebody_iff`): `inhibit_session_close` does not look whether the round
  can be answered, as `handle_query_end_response` does.
* Sessions that join an open round are waited for in the runs in which none does
  (`joinersWaitedFor_iff`): `handle_create_monitor` tells a new session about the state of the
  round, but only `wait_for_query_end_response` marks sessions as pending.
-/
import XappPortal.Monitor.Rounds

namespace XappPortal.Monitor

open XappPortal.Lib

/-! ## States that agree with some history -/

/-- The state agrees with some history of its rounds. -/
def Consistent (s : State) : Prop := ∃ r, RoundInv s r

namespace Consistent

variable {s : State} {e : Event}

lemma initial (client : Bool) : Consistent (Monitor.initial client) :=
  ⟨Rounds.none, RoundInv.initial client⟩

lemma clearSent (h : Consistent s) : Consistent { s with sent := [] } := by
  obtain ⟨r, h⟩ := h
  exact ⟨r, h.congr ⟨fun _ => rfl, rfl, rfl, rfl, rfl, rfl⟩ rfl rfl rfl rfl fun _ => rfl⟩

lemma table (h : Consistent s) : TableInv s := by
  obtain ⟨r, h⟩ := h
  exact h.table

lemma timer (h : Consistent s) : TimerInv s := by
  obtain ⟨r, h⟩ := h
  exact h.timer

lemma handle (h : Consistent s) (hsent : s.responses = 0) (he : ExportSucceeds s e) :
    Consistent (Monitor.handle e s) := by
  obtain ⟨r, h⟩ := h
  exact ⟨_, (handled_of_exportSucceeds h hsent he).inv⟩

lemma setSessionState (h : Consistent s) (state : SessionState) :
    Consistent (setSessionState state s) := by
  obtain ⟨r, h⟩ := h
  exact ⟨r, h.setSessionState state⟩

lemma stopWaiting (h : Consistent s) (sendResponse : Bool) :
    Consistent (stopWaitingForQueryEndResponse sendResponse s) := by
  obtain ⟨r, h⟩ := h
  exact ⟨_, h.stopWaiting sendResponse⟩

lemma waitForQueryEndResponse (h : Consistent s) (hclient : s.client = true) :
    Consistent (waitForQueryEndResponse s) := by
  obtain ⟨r, h⟩ := h
  by_cases h0 : s.queryEndTimeout = 0
  · exact ⟨_, h.openRound hclient h0⟩
  · rw [waitForQueryEndResponse_of_waiting h0]
    exact ⟨r, h⟩

lemma update (h : Consistent s) {sessionHandle : String} {a : ℕ}
    (ha : lookupSession s sessionHandle = some a) : Consistent (s.update a (setPending false)) := by
  obtain ⟨r, h⟩ := h
  exact ⟨_, h.update ha⟩

lemma step {client : Bool} (h : Consistent s) (he : ExportSucceeds s e) :
    Consistent ((monitor client).step s e) :=
  h.clearSent.handle rfl (by cases e <;> exact he)

end Consistent

/-! ## Somebody is waited for -/

/-- If a round is open, some active session is still waited for. -/
def WaitsForSomebody (s : State) : Prop :=
  s.queryEndTimeout ≠ 0 → ∃ a ∈ s.activeSessions, s.pending a = true

/-- A `Close` that is handled, while a round is open, for the only session that is waited for. -/
def ClosesLastPending (s : State) : Event → Prop
  | .close path => s.queryEndTimeout ≠ 0 ∧ ∃ a ∈ s.registered path, s.pending a = true ∧
      ∀ b ∈ s.activeSessions, s.pending b = true → b = a
  | _ => False

instance (s : State) : ∀ e, Decidable (ClosesLastPending s e)
  | .close path => inferInstanceAs (Decidable (s.queryEndTimeout ≠ 0 ∧
      ∃ a ∈ s.registered path, s.pending a = true ∧
        ∀ b ∈ s.activeSessions, s.pending b = true → b = a))
  | .createMonitor _ _ | .queryEndResponse _ | .clientSignal _ | .timeout _ | .activeChanged _ =>
      inferInstanceAs (Decidable False)

/-- An answer or a `Close` that leaves nobody to wait for in an open round is handled with an
`EndSessionResponse`. -/
def AnswersWhenDone (client : Bool) (s : State) (e : Event) : Prop :=
  ((∃ sessionHandle, e = .queryEndResponse sessionHandle) ∨ ∃ path, e = .close path) →
    s.queryEndTimeout ≠ 0 →
    (∀ a ∈ ((monitor client).step s e).activeSessions,
      ((monitor client).step s e).pending a = false) →
    ((monitor client).step s e).responses = 1

namespace WaitsForSomebody

variable {s s' : State}

lemma initial (client : Bool) : WaitsForSomebody (Monitor.initial client) :=
  fun h => absurd rfl h

/-- Whoever was waited for still is. -/
lemma of_pending (h : WaitsForSomebody s) (htimeout : s'.queryEndTimeout = s.queryEndTimeout)
    (hpend : ∀ a ∈ s.activeSessions, s.pending a = true →
      a ∈ s'.activeSessions ∧ s'.pending a = true) : WaitsForSomebody s' := by
  intro h0
  rw [htimeout] at h0
  obtain ⟨a, ha, hp⟩ := h h0
  exact ⟨a, hpend a ha hp⟩

lemma of_idle (h : s.queryEndTimeout = 0) : WaitsForSomebody s := fun h0 => absurd h h0

/-- A session that is added changes nothing about the others. -/
lemma createMonitor (h : WaitsForSomebody s) {sessionHandle : String}
    (hfree : s.registered sessionHandle = none) :
    WaitsForSomebody (handleCreateMonitor sessionHandle true s) := by
  refine h.of_pending ?_ fun a ha hp => ⟨?_, ?_⟩
  · rw [handleCreateMonitor_eq hfree]
  · rw [handleCreateMonitor_eq hfree]
    exact List.mem_cons_of_mem _ ha
  · rw [pending_handleCreateMonitor hfree]
    exact hp

/-- After `maybe_send_quit_response` an open round has somebody to wait for. -/
lemma maybeSend (h : Consistent s) : WaitsForSomebody (maybeSendQuitResponse s) := by
  rw [maybeSendQuitResponse_eq h.timer h.table.noDangling]
  split
  · next hstay =>
    intro h0
    obtain ⟨a, ha, hp⟩ := List.any_eq_true.mp (hstay.resolve_left h0)
    exact ⟨a, ha, hp⟩
  · refine of_idle ?_
    rw [stopWaiting_eq h.timer h.table.noDangling]

end WaitsForSomebody

section Events

variable {s : State} (h : Consistent s) (hw : WaitsForSomebody s)
include h hw

/-- A `Close` leaves somebody to wait for, unless it ends the last session that is waited for. -/
lemma waits_close {path : String} (hlast : ¬ ClosesLastPending s (.close path)) :
    WaitsForSomebody (dispatchClose inhibitSessionClose path s) := by
  cases hreg : s.registered path with
  | none =>
    rw [dispatchClose, hreg]
    exact hw
  | some a =>
    obtain ⟨y, -, -, heq⟩ := h.table.dispatchClose_eq_of_registered hreg
    intro h0
    have h0' : s.queryEndTimeout ≠ 0 := by
      rw [heq] at h0
      exact h0
    -- some other session is waited for as well
    obtain ⟨b, hb, hp, hba⟩ : ∃ b ∈ s.activeSessions, s.pending b = true ∧ b ≠ a := by
      by_contra hnone
      push Not at hnone
      obtain ⟨b, hb, hp⟩ := hw h0'
      have hpa : s.pending a = true := hnone b hb hp ▸ hp
      exact hlast ⟨h0', a, hreg, hpa, hnone⟩
    refine ⟨b, ?_, ?_⟩
    · rw [heq]
      exact (h.table.nodup.mem_erase_iff).mpr ⟨hba, hb⟩
    · rw [h.table.pending_dispatchClose hreg, if_neg hba]
      exact hp

lemma waits_queryEndResponse (sessionHandle : String) :
    WaitsForSomebody (handleQueryEndResponse sessionHandle s) := by
  rw [handleQueryEndResponse]
  cases hlook : lookupSession s sessionHandle with
  | none => exact hw
  | some a => exact WaitsForSomebody.maybeSend (h.update hlook)

lemma waits_clientSignal (hclient : s.client = true) (signalName : String) :
    WaitsForSomebody (clientProxySignal signalName s) := by
  have hidle : ∀ state, (setSessionState state
      (stopWaitingForQueryEndResponse false s)).queryEndTimeout = 0 := by
    intro state
    obtain ⟨r, hr⟩ := h
    have hd := ((hr.stopWaiting false).setSessionState state).open_iff
    by_contra h0
    exact absurd (hd.mpr h0) (by simp)
  rw [clientProxySignal]
  split
  · exact WaitsForSomebody.maybeSend ((h.waitForQueryEndResponse hclient).setSessionState .queryEnd)
  · split
    · exact WaitsForSomebody.of_idle (hidle .running)
    · split
      · exact WaitsForSomebody.of_idle (hidle .ending)
      · exact hw

lemma waits_timeout (source : ℕ) : WaitsForSomebody (dispatchTimeout source s) := by
  rw [dispatchTimeout]
  split
  · refine WaitsForSomebody.of_idle ?_
    rw [queryEndResponse, stopWaiting_eq h.timer h.table.noDangling]
  · exact hw

lemma waits_activeChanged (active : Bool) : WaitsForSomebody (globalActiveChangedCb active s) := by
  have hd : State.NoDangling { s with screensaverActive := active } := h.table.noDangling
  rw [globalActiveChangedCb, globalEmitStateChanged_eq hd]
  exact hw

/-- Every event but the `Close` of the last session that is waited for leaves somebody to wait
for, or no open round. -/
lemma waits_handle {e : Event} (he : ExportSucceeds s e) (hlast : ¬ ClosesLastPending s e) :
    WaitsForSomebody (handle e s) := by
  cases e with
  | createMonitor sessionHandle busOk =>
    obtain ⟨rfl, hfree⟩ := he
    exact hw.createMonitor hfree
  | close path => exact waits_close h hw hlast
  | queryEndResponse sessionHandle => exact waits_queryEndResponse h hw sessionHandle
  | clientSignal signalName =>
    rw [handle]
    split
    · next hclient => exact waits_clientSignal h hw hclient signalName
    · exact hw
  | timeout source => exact waits_timeout h hw source
  | activeChanged active => exact waits_activeChanged h hw active

/-- The last answer of an open round is handled with its response. -/
lemma answers_queryEndResponse (hsent : s.responses = 0) (h0 : s.queryEndTimeout ≠ 0)
    {sessionHandle : String}
    (hnone : ∀ a ∈ (handleQueryEndResponse sessionHandle s).activeSessions,
      (handleQueryEndResponse sessionHandle s).pending a = false) :
    (handleQueryEndResponse sessionHandle s).responses = 1 := by
  cases hlook : lookupSession s sessionHandle with
  | none =>
    have heq : handleQueryEndResponse sessionHandle s = s.send .queryEndResponseReply := by
      rw [handleQueryEndResponse, hlook]
    rw [heq] at hnone
    -- nobody has answered, so that somebody is still waited for
    obtain ⟨a, ha, hp⟩ := hw h0
    have hp' : s.pending a = false := hnone a ha
    rw [hp] at hp'
    exact absurd hp' (by simp)
  | some a =>
    have heq : handleQueryEndResponse sessionHandle s
        = (maybeSendQuitResponse (s.update a (setPending false))).send
            .queryEndResponseReply := by
      rw [handleQueryEndResponse, hlook]
    obtain ⟨r, hr⟩ := h
    have hr' := hr.update hlook
    obtain ⟨y, hy, -⟩ := hr.table.exists_of_sessions hlook
    have hupd : s.update a (setPending false)
        = { s with heap := s.heap.modify a (setPending false) } := State.update_of_alive hy _
    have h0' : (s.update a (setPending false)).queryEndTimeout ≠ 0 := by
      rw [hupd]
      exact h0
    have hsent' : (s.update a (setPending false)).responses = 0 := by
      rw [hupd]
      exact hsent
    rw [heq, maybeSendQuitResponse_eq hr'.timer hr'.table.noDangling] at hnone ⊢
    by_cases hstay : (s.update a (setPending false)).queryEndTimeout = 0 ∨
        (s.update a (setPending false)).activeSessions.any (s.update a (setPending false)).pending
          = true
    · rw [if_pos hstay] at hnone
      obtain ⟨b, hb, hp⟩ := List.any_eq_true.mp (hstay.resolve_left h0')
      have hp' : (s.update a (setPending false)).pending b = false := hnone b hb
      rw [hp] at hp'
      exact absurd hp' (by simp)
    · rw [if_neg hstay, responses_send, hr'.responses_stopWaiting, hsent', hr'.timer.client h0']
      rfl

end Events

/-! ## Whole runs -/

section Runs

variable {client : Bool}

lemma clearSent_closesLastPending {s : State} {e : Event} :
    ClosesLastPending { s with sent := [] } e ↔ ClosesLastPending s e := by
  cases e <;> exact Iff.rfl

lemma waits_step {s : State} {e : Event} (h : Consistent s) (hw : WaitsForSomebody s)
    (he : ExportSucceeds s e) (hlast : ¬ ClosesLastPending s e) :
    WaitsForSomebody ((monitor client).step s e) :=
  waits_handle h.clearSent hw (by cases e <;> exact he)
    (mt clearSent_closesLastPending.mp hlast)

/-- The `Close` of the last session that is waited for leaves the round open. -/
lemma not_waits_of_closesLast {s : State} {e : Event} (h : Consistent s)
    (hlast : ClosesLastPending s e) : ¬ WaitsForSomebody ((monitor client).step s e) := by
  cases e with
  | close path =>
    obtain ⟨h0, a, hreg, -, honly⟩ := hlast
    have hs := h.clearSent
    obtain ⟨y, -, -, heq⟩ := hs.table.dispatchClose_eq_of_registered hreg
    intro hwaits
    obtain ⟨b, hb, hp⟩ := hwaits (by
      show (dispatchClose inhibitSessionClose path { s with sent := [] }).queryEndTimeout ≠ 0
      rw [heq]
      exact h0)
    have hp' : (if b = a then false else s.pending b) = true :=
      (hs.table.pending_dispatchClose hreg b).symm.trans hp
    have hb' : b ∈ s.activeSessions.erase a := by
      have hmem : b ∈ (dispatchClose inhibitSessionClose path
        { s with sent := [] }).activeSessions := hb
      rw [heq] at hmem
      exact hmem
    rcases eq_or_ne b a with rfl | hba
    · simp at hp'
    · rw [if_neg hba] at hp'
      exact hba (honly b (List.mem_of_mem_erase hb') hp')
  | _ => exact hlast.elim

lemma answersWhenDone_step {s : State} {e : Event} (h : Consistent s) (hw : WaitsForSomebody s)
    (hlast : ¬ ClosesLastPending s e) : AnswersWhenDone client s e := by
  rintro (⟨sessionHandle, rfl⟩ | ⟨path, rfl⟩) h0 hnone
  · exact answers_queryEndResponse h.clearSent hw rfl h0 hnone
  · -- the round is still open, and somebody is waited for
    have hw' : WaitsForSomebody ((monitor client).step s (.close path)) :=
      waits_step h hw trivial hlast
    have htimeout : ((monitor client).step s (.close path)).queryEndTimeout ≠ 0 := by
      show (dispatchClose inhibitSessionClose path { s with sent := [] }).queryEndTimeout ≠ 0
      cases hreg : s.registered path with
      | none =>
        rw [dispatchClose, show ({ s with sent := [] } : State).registered path = none from hreg]
        exact h0
      | some a =>
        obtain ⟨y, -, -, heq⟩ := h.clearSent.table.dispatchClose_eq_of_registered hreg
        rw [heq]
        exact h0
    obtain ⟨a, ha, hp⟩ := hw' htimeout
    rw [hnone a ha] at hp
    exact absurd hp (by simp)

lemma consistent_run {evs : List Event}
    (h : (monitor client).Along ExportSucceeds (initial client) evs) :
    Consistent ((monitor client).run evs) :=
  Machine.inv_run (Consistent.initial client) (fun _ _ hs he => hs.step he) h

end Runs

/-- **An open round waits for somebody throughout a run exactly when no `Close` ends the last
session that is waited for**; in such a run the last answer is handled with the response. -/
theorem waitsForSomebody_iff (client : Bool) (evs : List Event)
    (h : (monitor client).Along ExportSucceeds (initial client) evs) :
    ((∀ pre, pre <+: evs → WaitsForSomebody ((monitor client).run pre)) ∧
      ∀ pre e, pre ++ [e] <+: evs → AnswersWhenDone client ((monitor client).run pre) e) ↔
    (monitor client).Along (fun s e => ¬ ClosesLastPending s e) (initial client) evs := by
  have hrule : (∀ pre, pre <+: evs → WaitsForSomebody ((monitor client).run pre)) ↔
      (monitor client).Along (fun s e => ¬ ClosesLastPending s e) (initial client) evs :=
    Machine.forall_prefix_iff_along_of (fun s => Consistent s ∧ WaitsForSomebody s)
      WaitsForSomebody ⟨Consistent.initial client, WaitsForSomebody.initial client⟩
      (fun _ hs => hs.2) (fun _ _ he hs hlast => ⟨hs.1.step he, waits_step hs.1 hs.2 he hlast⟩)
      (fun _ _ _ hs hlast => not_waits_of_closesLast hs.1 (not_not.mp hlast)) h
  constructor
  · exact fun hgood => hrule.mp hgood.1
  · intro halong
    refine ⟨hrule.mpr halong, fun pre e hpre => ?_⟩
    have hfront : pre <+: evs := (List.prefix_append pre [e]).trans hpre
    exact answersWhenDone_step (consistent_run (h.of_prefix hfront))
      (hrule.mpr halong pre hfront) (Machine.along_concat.mp (halong.of_prefix hpre)).2

/-- The first of two sessions is closed, and the second one answers. -/
theorem waitsForSomebody_iff_two_sessions :
    (∀ pre, pre <+: [.createMonitor "/a" true, .createMonitor "/b" true,
        .clientSignal "QueryEndSession", .close "/a", .queryEndResponse "/b"] →
      WaitsForSomebody ((monitor true).run pre)) ∧
    ∀ pre e, pre ++ [e] <+: [.createMonitor "/a" true, .createMonitor "/b" true,
        .clientSignal "QueryEndSession", .close "/a", .queryEndResponse "/b"] →
      AnswersWhenDone true ((monitor true).run pre) e :=
  (waitsForSomebody_iff true _ (by decide)).mpr (by decide)

/-- The only session is closed during a round, and the portal waits for the timer. -/
theorem not_waitsForSomebody : ¬ ∀ (client : Bool) (evs : List Event),
    (monitor client).Along ExportSucceeds (initial client) evs →
    WaitsForSomebody ((monitor client).run evs) := by
  intro h
  obtain ⟨a, ha, -⟩ := h true [.createMonitor "/a" true, .clientSignal "QueryEndSession",
    .close "/a"] (by decide) (by decide)
  exact absurd ha (by
    have hnil : ((monitor true).run [.createMonitor "/a" true, .clientSignal "QueryEndSession",
      .close "/a"]).activeSessions = [] := by decide
    rw [hnil]
    exact List.not_mem_nil)

/-! ## Sessions that join an open round -/

/-- The sessions that joined the open round. -/
structure Joiners where
  /-- Those that have neither answered nor been closed since, with their handles. -/
  joined : List (ℕ × String)
  /-- Those that were so when the portal answered a round before its timer expired. -/
  ignored : List (ℕ × String)

/-- The sessions that have joined the round and are still to be waited for after the event `e` led
from state `s` to state `s'`, as long as the round is open. -/
def Joiners.receive (j : Joiners) (s : State) (e : Event) (s' : State) : List (ℕ × String) :=
  match e with
  | .createMonitor sessionHandle _ =>
      if s.queryEndTimeout ≠ 0 ∧ .createMonitorReply 0 ∈ s'.sent then
        (s.heap.next, sessionHandle) :: j.joined
      else j.joined
  | .close path => j.joined.filter fun p => s.registered path ≠ some p.1
  | .queryEndResponse sessionHandle => j.joined.filter fun p => p.2 ≠ sessionHandle
  | _ => j.joined

/-- Whether the portal answers the open round while handling an event other than the expiry of its
timer. -/
def AnsweredEarly (s : State) (e : Event) (s' : State) : Prop :=
  s.queryEndTimeout ≠ 0 ∧ s'.responses ≠ 0 ∧ e ≠ .clientSignal "EndSession" ∧
    ∀ source ∈ s.timers, e ≠ .timeout source

instance (s : State) (e : Event) (s' : State) : Decidable (AnsweredEarly s e s') :=
  inferInstanceAs (Decidable (_ ∧ _))

/-- The joiners after the event `e` led from state `s` to state `s'`. -/
def recordJoiners (j : Joiners) (s : State) (e : Event) (s' : State) : Joiners where
  joined := if s'.queryEndTimeout = 0 then [] else j.receive s e s'
  ignored := if AnsweredEarly s e s' then j.receive s e s' ++ j.ignored else j.ignored

/-- The session monitors together with the sessions that join the open round. -/
def joinMonitor (client : Bool) : Machine (State × Joiners) Event :=
  (monitor client).observe ⟨[], []⟩ recordJoiners

/-- Every session that joined the open round, and has neither answered nor been closed, is marked
pending; and no round was answered early while there was such a session. -/
structure JoinersWaitedFor (p : State × Joiners) : Prop where
  pending : ∀ q ∈ p.2.joined, p.1.pending q.1 = true
  ignored : p.2.ignored = []

/-- A `CreateMonitor` that is handled while a round is open. -/
def JoinsRound (s : State) : Event → Prop
  | .createMonitor _ _ => s.queryEndTimeout ≠ 0
  | _ => False

instance (s : State) : ∀ e, Decidable (JoinsRound s e)
  | .createMonitor _ _ => inferInstanceAs (Decidable (s.queryEndTimeout ≠ 0))
  | .close _ | .queryEndResponse _ | .clientSignal _ | .timeout _ | .activeChanged _ =>
      inferInstanceAs (Decidable False)

/-- As long as nobody joins a round there is nobody to forget. -/
lemma recordJoiners_of_not_joins {s s' : State} {e : Event} (h : ¬ JoinsRound s e) :
    recordJoiners ⟨[], []⟩ s e s' = ⟨[], []⟩ := by
  have hreceive : Joiners.receive ⟨[], []⟩ s e s' = [] := by
    cases e with
    | createMonitor sessionHandle busOk => exact if_neg fun hj => h hj.1
    | _ => rfl
  simp [recordJoiners, hreceive]

/-- A session that joins an open round is not marked pending. -/
lemma not_joinersWaitedFor_of_joins {client : Bool} {p : State × Joiners} {e : Event}
    (he : ExportSucceeds p.1 e) (hjoin : JoinsRound p.1 e) :
    ¬ JoinersWaitedFor ((joinMonitor client).step p e) := by
  obtain ⟨s, j⟩ := p
  cases e with
  | createMonitor sessionHandle busOk =>
    obtain ⟨rfl, hfree⟩ := he
    have hfree' : ({ s with sent := [] } : State).registered sessionHandle = none := hfree
    have heq := handleCreateMonitor_eq hfree'
    have hjoined : (s.heap.next, sessionHandle)
        ∈ ((joinMonitor client).step (s, j) (.createMonitor sessionHandle true)).2.joined := by
      have h0 : s.queryEndTimeout ≠ 0 := hjoin
      simp [joinMonitor, recordJoiners, Joiners.receive, monitor, handle, heq, h0]
    intro hgood
    have hpend : (handleCreateMonitor sessionHandle true { s with sent := [] }).pending
        s.heap.next = true := hgood.pending _ hjoined
    rw [pending_handleCreateMonitor hfree'] at hpend
    simp [State.pending] at hpend
  | _ => exact hjoin.elim

/-- **The sessions that join an open round are waited for throughout a run exactly when none
does**: no `CreateMonitor` is handled while a round is open. -/
theorem joinersWaitedFor_iff (client : Bool) (evs : List Event)
    (h : (monitor client).Along ExportSucceeds (initial client) evs) :
    (∀ pre, pre <+: evs → JoinersWaitedFor ((joinMonitor client).run pre)) ↔
      (monitor client).Along (fun s e => ¬ JoinsRound s e) (initial client) evs := by
  have hrule : (∀ pre, pre <+: evs → JoinersWaitedFor ((joinMonitor client).run pre)) ↔
      (joinMonitor client).Along (fun p e => ¬ JoinsRound p.1 e) (joinMonitor client).init evs := by
    refine Machine.forall_prefix_iff_along_of (fun p => p.2 = ⟨[], []⟩) JoinersWaitedFor
      (A := fun p e => ExportSucceeds p.1 e) rfl ?_ ?_ ?_ (Machine.along_observe.mpr h)
    · rintro ⟨s, j⟩ rfl
      exact ⟨fun q hq => absurd hq List.not_mem_nil, rfl⟩
    · rintro ⟨s, j⟩ e - rfl hjoin
      exact recordJoiners_of_not_joins hjoin
    · exact fun p e he _ hjoin => not_joinersWaitedFor_of_joins he (not_not.mp hjoin)
  exact hrule.trans (Machine.along_observe (P := fun s e => ¬ JoinsRound s e))

/-- A session that is created between two rounds, and one that is created in a round. -/
theorem joinersWaitedFor_iff_between :
    (∀ pre, pre <+: [.createMonitor "/a" true, .clientSignal "QueryEndSession",
        .queryEndResponse "/a", .createMonitor "/b" true, .clientSignal "QueryEndSession"] →
      JoinersWaitedFor ((joinMonitor true).run pre)) ∧
    ¬ ∀ pre, pre <+: [.createMonitor "/a" true, .clientSignal "QueryEndSession",
        .createMonitor "/b" true] →
      JoinersWaitedFor ((joinMonitor true).run pre) :=
  ⟨(joinersWaitedFor_iff true _ (by decide)).mpr (by decide),
    mt (joinersWaitedFor_iff true _ (by decide)).mp (by decide)⟩

/-- A session joins the round, and the portal answers as soon as the first one has. -/
theorem not_joinersWaitedFor : ¬ ∀ (client : Bool) (evs : List Event),
    (monitor client).Along ExportSucceeds (initial client) evs →
    JoinersWaitedFor ((joinMonitor client).run evs) := by
  intro h
  have hignored := (h true [.createMonitor "/a" true, .clientSignal "QueryEndSession",
    .createMonitor "/b" true, .queryEndResponse "/a"] (by decide)).ignored
  exact absurd hignored (by decide)

end XappPortal.Monitor
