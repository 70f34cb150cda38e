/-
# Giving back inhibitors

What becomes of the inhibitors that the backend grants.  The purpose of the code: an inhibitor is
given back when its request is closed, and only then.

* The non-zero cookies that have been given back are those of the requests that were granted and
  closed, each once (`inhibitors_released_once`).
* Only granted cookies are given back in the runs in which no failure of the backend is delivered
  to a closed request, and in no others (`releasesGranted_iff`): `inhibit_done_*` gives back the
  cookie 0 of a failed call.
* Every inhibitor that has not been given back belongs to a request that can still be closed, in
  the runs in which every export succeeds, and in no others (`noOrphans_iff`): `request_export`
  marks a request as exported that GDBus has not registered.
-/
import XappPortal.Inhibit.Requests
import Mathlib.Data.Multiset.Filter

namespace XappPortal.Inhibit

open XappPortal.Lib

/-- The cookies given back by the messages of a list. -/
def released (out : List Message) : List UInt32 := out.filterMap Message.released

/-- The cookie of a granted call. -/
def Call.granted? : Call → Option UInt32
  | .granted cookie => some cookie
  | _ => none

/-- The cookie of a request that was both granted and closed. -/
def InhibitRequest.due (a : InhibitRequest) : Option UInt32 :=
  if a.closeDelivered then a.call.granted? else none

/-! ## The handlers of both backends -/

section Handlers

variable (b : Backend)

@[simp] lemma service_request (a : InhibitRequest) : (service b).request a = a.request := by
  cases b <;> rfl

@[simp] lemma service_path (n : InhibitCall) : (service b).path n = n.handle := by
  cases b <;> rfl

lemma service_close : (service b).close = dispatchClose (handleClose (uninhibit b)) := by
  cases b <;> rfl

lemma service_deliver : (service b).deliver = inhibitDone (uninhibit b) := by
  cases b <;> rfl

@[simp] lemma released_uninhibit (cookie : UInt32) :
    (uninhibit b cookie).released = some cookie := by
  cases b <;> rfl

variable {b} {n : InhibitCall} {ok : Bool}

/-- An accepted call creates a request, and gives back nothing. -/
lemma service_call_eq_ok {a : InhibitRequest} {out : List Message}
    (h : (service b).call n ok = .ok (a, out)) :
    accepts b n = true ∧ a = inhibitRequest n ok ∧ released out = [] := by
  cases b with
  | gnome =>
    obtain ⟨rfl, rfl⟩ : inhibitRequest n ok = a ∧ _ = out := by
      simpa [service, handleInhibitGnome] using h
    exact ⟨rfl, rfl, rfl⟩
  | fdo =>
    simp only [service, handleInhibitFdo] at h
    split at h
    · simp at h
    · next hflags =>
      obtain ⟨rfl, rfl⟩ : inhibitRequest n ok = a ∧ _ = out := by simpa using h
      exact ⟨by simpa [accepts] using hflags, rfl, rfl⟩

lemma exists_service_call_eq_ok (h : accepts b n = true) (ok : Bool) :
    ∃ out, (service b).call n ok = .ok (inhibitRequest n ok, out) := by
  cases b with
  | gnome => exact ⟨_, rfl⟩
  | fdo =>
    have hflags : n.flags &&& ~~~inhibitIdle = 0 := by simpa [accepts] using h
    exact ⟨[.fdoInhibit n.appId (n.reason.getD ""), .completeInhibit],
      by simp [service, handleInhibitFdo, hflags]⟩

end Handlers

/-! ## One request -/

/-- What the object data say about a request. -/
structure Coherent (a : InhibitRequest) : Prop where
  /-- Beside the reference of its export, the call in flight owns the request. -/
  owned : a.request.Owned (if a.call = .inFlight then 1 else 0)
  exported : a.request.exported = !a.closeDelivered
  /-- A cookie is only set by its grant. -/
  granted : a.cookie ≠ 0 → a.call = .granted a.cookie
  /-- As long as the call is in flight, `closed` tells whether the request was closed. -/
  waiting : a.call = .inFlight → a.cookie = 0 ∧ a.closed = a.closeDelivered
  /-- The cookie of an open request is set once it is granted. -/
  kept : ∀ cookie, a.call = .granted cookie → a.closeDelivered = false → a.cookie = cookie

namespace Coherent

variable {a : InhibitRequest}

lemma inhibitRequest_eq (n : InhibitCall) (ok : Bool) :
    (inhibitRequest n ok).request
      = { Request.requestNew n.sender n.appId n.handle with
            registered := ok, refCount := 2, exported := true } := by
  cases ok <;> rfl

lemma inhibitRequest (n : InhibitCall) (ok : Bool) : Coherent (inhibitRequest n ok) where
  owned := by
    rw [inhibitRequest_eq]
    exact ⟨rfl, rfl, rfl, fun _ => rfl⟩
  exported := by
    rw [inhibitRequest_eq]
    rfl
  granted h := absurd rfl h
  waiting _ := ⟨rfl, rfl⟩
  kept _ h := absurd h (by simp [Inhibit.inhibitRequest])

lemma closeDelivered_of_registered (h : Coherent a) (hreg : a.request.registered = true) :
    a.closeDelivered = false := by
  have := h.exported
  rw [h.owned.exported_of_registered hreg] at this
  simpa using this

/-- A `Close` call gives back the cookie, or leaves the note that the request is closed. -/
lemma dispatchClose_eq (h : Coherent a) (hreg : a.request.registered = true)
    (uninhibit : UInt32 → Message) :
    dispatchClose (handleClose uninhibit) a
      = ({ a with
            request := { a.request with
              exported := false, registered := false,
              refCount := if a.call = .inFlight then 1 else 0 }
            closed := a.closed || a.cookie == 0
            closeDelivered := true },
          (if a.cookie ≠ 0 then [uninhibit a.cookie] else []) ++ [.completeClose]) := by
  rw [← h.owned.close_eq hreg]
  by_cases hc : a.cookie = 0
  · simp [dispatchClose, handleClose, hc]
  · simp [dispatchClose, handleClose, hc]

lemma close (h : Coherent a) (hreg : a.request.registered = true) (u : UInt32 → Message) :
    Coherent (dispatchClose (handleClose u) a).1 := by
  rw [h.dispatchClose_eq hreg]
  refine ⟨h.owned.of_unexport _, rfl, h.granted, fun hcall => ?_, fun _ _ hopen => ?_⟩
  · obtain ⟨hcookie, -⟩ := h.waiting hcall
    exact ⟨hcookie, by simp [hcookie]⟩
  · simp at hopen

/-- The answer to a call in flight gives back the cookie of a closed request, or else stores it. -/
lemma inhibitDone_eq (h : Coherent a) (hcall : a.call = .inFlight) (u : UInt32 → Message)
    (reply : Reply) :
    inhibitDone u reply a
      = ({ a with
            request := { a.request with refCount := a.request.refCount - 1 }
            call := reply.outcome
            cookie := if a.closeDelivered then 0 else reply.cookie },
          if a.closeDelivered then [u reply.cookie] else []) := by
  obtain ⟨hcookie, hclosed⟩ := h.waiting hcall
  have howned : a.request.Owned (0 + 1) := by simpa [hcall] using h.owned
  rw [inhibitDone, if_pos hcall, ← howned.objectUnref_eq]
  cases hd : a.closeDelivered <;> simp [hclosed, hd, hcookie]

lemma inhibitDone_of_answered (hcall : a.call ≠ .inFlight) (u : UInt32 → Message)
    (reply : Reply) : inhibitDone u reply a = (a, []) := if_neg hcall

lemma done (h : Coherent a) (u : UInt32 → Message) (reply : Reply) :
    Coherent (inhibitDone u reply a).1 := by
  rcases eq_or_ne a.call .inFlight with hcall | hcall
  · obtain ⟨hcookie, hclosed⟩ := h.waiting hcall
    have howned : a.request.Owned (0 + 1) := by simpa [hcall] using h.owned
    rw [h.inhibitDone_eq hcall]
    cases reply with
    | failure =>
      exact ⟨howned.of_unref, h.exported, fun hne => absurd (by simp [Reply.cookie]) hne,
        fun hf => by simp [Reply.outcome] at hf, fun _ hf => by simp [Reply.outcome] at hf⟩
    | success c =>
      refine ⟨howned.of_unref, h.exported, fun hne => ?_, fun hf => by simp [Reply.outcome] at hf,
        fun c' hf hopen => ?_⟩
      · cases hd : a.closeDelivered <;> simp_all [Reply.outcome, Reply.cookie]
      · simp_all [Reply.outcome, Reply.cookie]
  · rw [inhibitDone_of_answered hcall]
    exact h

end Coherent

/-- The object data are coherent whatever happens. -/
lemma keeps_coherent (b : Backend) :
    (service b).Keeps (fun _ _ => True) (fun _ _ => True) fun a _ => Coherent a where
  call n ok a out hcall _ := by
    obtain ⟨-, rfl, -⟩ := service_call_eq_ok hcall
    exact Coherent.inhibitRequest n ok
  close a _ hreg h := by
    rw [service_request] at hreg
    rw [service_close]
    exact h.close hreg _
  deliver reply a _ h _ := by
    rw [service_deliver]
    exact h.done _ reply

lemma released_append (l₁ l₂ : List Message) :
    released (l₁ ++ l₂) = released l₁ ++ released l₂ := List.filterMap_append

/-- What a `Close` call gives back. -/
lemma released_close {a : InhibitRequest} (h : Coherent a)
    (hreg : a.request.registered = true) (b : Backend) :
    released (dispatchClose (handleClose (uninhibit b)) a).2
      = if a.cookie ≠ 0 then [a.cookie] else [] := by
  have hreply : released [Message.completeClose] = [] := rfl
  rw [h.dispatchClose_eq hreg, released_append, hreply, List.append_nil]
  split <;> simp [released]

/-- What the answer to a call in flight gives back. -/
lemma released_done {a : InhibitRequest} (h : Coherent a) (hcall : a.call = .inFlight)
    (b : Backend) (reply : Reply) :
    released (inhibitDone (uninhibit b) reply a).2
      = if a.closeDelivered then [reply.cookie] else [] := by
  rw [h.inhibitDone_eq hcall]
  split <;> simp [released]

/-! ## Every inhibitor is given back once -/

/-- The non-zero cookies given back for a request are the one it is due. -/
structure ReleasedOnce (a : InhibitRequest) (out : List Message) : Prop where
  coherent : Coherent a
  nonzero : a.call ≠ .granted 0
  released : (released out).filter (· ≠ 0) = a.due.toList

lemma keeps_releasedOnce (b : Backend) :
    (service b).Keeps (fun _ _ => True) (fun reply _ => reply ≠ .success 0) ReleasedOnce where
  call n ok a out hcall _ := by
    obtain ⟨-, rfl, hout⟩ := service_call_eq_ok hcall
    exact ⟨Coherent.inhibitRequest n ok, by simp [inhibitRequest], by rw [hout]; rfl⟩
  close a out hreg h := by
    rw [service_request] at hreg
    rw [service_close]
    have hopen := h.coherent.closeDelivered_of_registered hreg
    have hout : (Inhibit.released out).filter (· ≠ 0) = [] := by
      rw [h.released, InhibitRequest.due, hopen]
      rfl
    refine ⟨h.coherent.close hreg _, ?_, ?_⟩
    · rw [h.coherent.dispatchClose_eq hreg]
      exact h.nonzero
    · rw [released_append, List.filter_append, hout, released_close h.coherent hreg,
        h.coherent.dispatchClose_eq hreg]
      show _ = (Call.granted? a.call).toList
      -- the object data hold the cookie exactly if it was granted
      cases hcall : a.call with
      | inFlight => simp [(h.coherent.waiting hcall).1, Call.granted?]
      | failed =>
        have hcookie : a.cookie = 0 := by
          by_contra hne
          simp [h.coherent.granted hne] at hcall
        simp [hcookie, Call.granted?]
      | granted c =>
        have hc : c ≠ 0 := fun hc => h.nonzero (hc ▸ hcall)
        simp [h.coherent.kept c hcall hopen, hc, Call.granted?]
  deliver reply a out h hreply := by
    rw [service_deliver]
    rcases eq_or_ne a.call .inFlight with hcall | hcall
    · have hout : (Inhibit.released out).filter (· ≠ 0) = [] := by
        rw [h.released, InhibitRequest.due, hcall]
        split <;> rfl
      refine ⟨h.coherent.done _ reply, ?_, ?_⟩
      · rw [h.coherent.inhibitDone_eq hcall]
        cases reply with
        | failure => simp [Reply.outcome]
        | success c => simpa [Reply.outcome] using hreply
      · rw [released_append, List.filter_append, hout, released_done h.coherent hcall,
          h.coherent.inhibitDone_eq hcall]
        show _ = (if a.closeDelivered then reply.outcome.granted? else none).toList
        cases reply with
        | failure => cases a.closeDelivered <;> rfl
        | success c =>
          have hc : c ≠ 0 := fun hc => hreply (by rw [hc])
          cases a.closeDelivered <;> simp [Reply.outcome, Reply.cookie, Call.granted?, hc]
    · rw [Coherent.inhibitDone_of_answered hcall, List.append_nil]
      exact h

lemma releasedOnce_run (b : Backend) {evs : List Event} (h : ∀ i, .deliver i (.success 0) ∉ evs) :
    ((service b).machine.run evs).requests.Each ReleasedOnce := by
  refine Service.each_run (keeps_releasedOnce b) (Machine.along_of_mem fun e he s => ?_)
  cases e with
  | call n busOk => trivial
  | close path => trivial
  | deliver i reply => exact fun _ _ heq => h i (heq ▸ he)

/-- **The non-zero cookies given back are those of the requests that were granted and closed,
each once**; and they are given back for the request they were granted to, once it is closed. -/
theorem inhibitors_released_once (b : Backend) (evs : List Event)
    (h : ∀ i, .deliver i (.success 0) ∉ evs) :
    let s := (service b).machine.run evs
    ((released (s.requests.log.map Prod.snd)).filter (· ≠ 0) : Multiset UInt32)
      = (s.requests.objects.filterMap InhibitRequest.due : List UInt32) ∧
    ∀ (i : ℕ) (a : InhibitRequest), s.requests.objects[i]? = some a →
      (released (s.requests.outputsOf i)).filter (· ≠ 0) = a.due.toList := by
  intro s
  have heach := releasedOnce_run b h
  refine ⟨?_, fun i a ha => (heach i a ha).released⟩
  have hperm := Ensemble.perm_of_each (E := s.requests) (g := fun a => a.due.toList)
    (f := fun m => m.released.filter (· ≠ 0)) fun i a ha => by
      show List.filterMap _ _ = _
      rw [← List.filter_filterMap]
      exact (heach i a ha).released
  rw [← List.filter_filterMap, ← List.filterMap_eq_flatMap_toList] at hperm
  exact Multiset.coe_eq_coe.mpr hperm

/-- Two requests, one of which is closed before the backend grants its cookie, and one after. -/
theorem inhibitors_released_once_two_requests :
    let s := (service .gnome).machine.run
      [.call ⟨":1", "/a", "org.a", 8, none⟩ true, .call ⟨":1", "/b", "org.b", 8, none⟩ true,
        .close "/a", .deliver 1 (.success 5), .deliver 0 (.success 7), .close "/b"]
    ((released (s.requests.log.map Prod.snd)).filter (· ≠ 0) : Multiset UInt32)
      = (s.requests.objects.filterMap InhibitRequest.due : List UInt32) ∧
    s.requests.objects.filterMap InhibitRequest.due = [7, 5] :=
  ⟨(inhibitors_released_once .gnome _ (by simp)).1, by decide⟩

/-! ## Only granted cookies are given back -/

/-- Every cookie given back for a request was granted to it. -/
def ReleasesGranted (s : Service.State InhibitRequest Message) : Prop :=
  s.requests.Each fun a out => ∀ cookie ∈ released out, a.call = .granted cookie

/-- A failure of the backend is delivered to a request that has been closed. -/
def FailsAfterClose (reply : Reply) (a : InhibitRequest) : Prop :=
  reply = .failure ∧ a.call = .inFlight ∧ a.closeDelivered = true

instance (reply : Reply) (a : InhibitRequest) : Decidable (FailsAfterClose reply a) :=
  inferInstanceAs (Decidable (_ ∧ _ ∧ _))

/-- The cookies given back for a request were granted to it, and its object data are coherent. -/
structure OnlyGranted (a : InhibitRequest) (out : List Message) : Prop where
  coherent : Coherent a
  granted : ∀ cookie ∈ released out, a.call = .granted cookie

lemma OnlyGranted.released_eq_nil {a : InhibitRequest} {out : List Message}
    (h : OnlyGranted a out) (hcall : a.call = .inFlight) : released out = [] := by
  rw [List.eq_nil_iff_forall_not_mem]
  intro cookie hc
  have := h.granted cookie hc
  simp [hcall] at this

lemma keeps_onlyGranted (b : Backend) :
    (service b).Keeps (fun _ _ => True) (fun reply a => ¬ FailsAfterClose reply a)
      OnlyGranted where
  call n ok a out hcall _ := by
    obtain ⟨-, rfl, hout⟩ := service_call_eq_ok hcall
    exact ⟨Coherent.inhibitRequest n ok, by simp [hout]⟩
  close a out hreg h := by
    rw [service_request] at hreg
    rw [service_close]
    refine ⟨h.coherent.close hreg _, fun cookie hc => ?_⟩
    rw [released_append, List.mem_append, released_close h.coherent hreg] at hc
    rw [h.coherent.dispatchClose_eq hreg]
    rcases hc with hc | hc
    · exact h.granted cookie hc
    · split at hc
      · next hne =>
        obtain rfl := List.mem_singleton.mp hc
        exact h.coherent.granted hne
      · simp at hc
  deliver reply a out h hreply := by
    rw [service_deliver]
    rcases eq_or_ne a.call .inFlight with hcall | hcall
    · refine ⟨h.coherent.done _ reply, fun cookie hc => ?_⟩
      rw [released_append, h.released_eq_nil hcall, released_done h.coherent hcall] at hc
      rw [h.coherent.inhibitDone_eq hcall]
      cases hd : a.closeDelivered with
      | false => simp [hd] at hc
      | true =>
        cases reply with
        | failure => exact absurd ⟨rfl, hcall, hd⟩ hreply
        | success c =>
          obtain rfl : cookie = c := by simpa [hd, Reply.cookie] using hc
          rfl
    · rw [Coherent.inhibitDone_of_answered hcall, List.append_nil]
      exact h

/-- A failure delivered to a closed request gives back the cookie 0, which was not granted. -/
lemma not_releasesGranted_of_fail {b : Backend} {s : Service.State InhibitRequest Message}
    (h : s.requests.Each OnlyGranted) {e : Event}
    (he : ¬ (service b).Meets (fun _ _ => True) (fun reply a => ¬ FailsAfterClose reply a) s e) :
    ¬ ReleasesGranted ((service b).step s e) := by
  cases e with
  | call n busOk => exact absurd trivial he
  | close path => exact absurd trivial he
  | deliver i reply =>
    obtain ⟨a, ha, rfl, hcall, hclosed⟩ : ∃ a, s.requests.objects[i]? = some a ∧
        FailsAfterClose reply a := by
      simpa [Service.Meets] using he
    intro hgood
    have hstep : ((service b).step s (.deliver i .failure)).requests
        = s.requests.react i (inhibitDone (uninhibit b) .failure) := by
      rw [Service.step, service_deliver]
    rw [ReleasesGranted, hstep] at hgood
    have hzero := hgood i (inhibitDone (uninhibit b) .failure a).1
      (by rw [Ensemble.getElem?_objects_react, if_pos rfl, ha, Option.map_some]) 0
      (by
        rw [Ensemble.outputsOf_react ha, if_pos rfl, released_append,
          released_done (h i a ha).coherent hcall, hclosed]
        simp [Reply.cookie])
    rw [(h i a ha).coherent.inhibitDone_eq hcall] at hzero
    simp [Reply.outcome] at hzero

/-- **Only granted cookies are given back throughout a run exactly when no failure of the backend
is delivered to a closed request.** -/
theorem releasesGranted_iff (b : Backend) (evs : List Event) :
    (∀ pre, pre <+: evs → ReleasesGranted ((service b).machine.run pre)) ↔
      (service b).machine.Along
        ((service b).Meets (fun _ _ => True) fun reply a => ¬ FailsAfterClose reply a)
        Service.initial evs :=
  Machine.forall_prefix_iff_along (fun s => s.requests.Each OnlyGranted) ReleasesGranted
    (fun _ => True) Ensemble.Each.empty (fun _ h i a ha => (h i a ha).granted)
    (fun _ _ _ h he => Service.each_step (keeps_onlyGranted b) h he)
    (fun _ _ _ h he => not_releasesGranted_of_fail h he) (fun _ _ => trivial)

/-- The application closes the request, and then the backend fails to grant an inhibitor. -/
theorem not_releasesGranted : ¬ ∀ (b : Backend) (evs : List Event),
    ReleasesGranted ((service b).machine.run evs) := by
  intro h
  have hzero := h .gnome [.call ⟨":1", "/a", "org.a", 8, none⟩ true, .close "/a",
    .deliver 0 .failure] 0 _ rfl 0 (by decide)
  exact absurd hzero (by decide)

/-! ## No inhibitor is orphaned -/

/-- An inhibitor that has not been given back belongs to a request that `Close` calls on its
handle are delivered to, and exactly the registered requests are marked as exported. -/
def NoOrphans (b : Backend) (s : Service.State InhibitRequest Message) : Prop :=
  ∀ (i : ℕ) (a : InhibitRequest), s.requests.objects[i]? = some a →
    (∀ cookie, a.call = .granted cookie → cookie ∉ released (s.requests.outputsOf i) →
      (service b).route s a.request.id = some i) ∧
    (a.request.exported = true ↔ a.request.registered = true)

/-- The export of the request of a call succeeds, if the call is accepted. -/
def ExportSucceeds (b : Backend) (n : InhibitCall) (exportOk : Bool) : Prop :=
  accepts b n = true → exportOk = true

instance (b : Backend) (n : InhibitCall) (exportOk : Bool) :
    Decidable (ExportSucceeds b n exportOk) :=
  inferInstanceAs (Decidable (_ → _))

lemma lawful (b : Backend) : (service b).Lawful where
  call_id n ok a out hcall := by
    obtain ⟨-, rfl, -⟩ := service_call_eq_ok hcall
    rw [service_request, service_path, Coherent.inhibitRequest_eq]
    rfl
  call_registered n ok a out hcall hreg := by
    obtain ⟨-, rfl, -⟩ := service_call_eq_ok hcall
    rwa [service_request, Coherent.inhibitRequest_eq] at hreg
  close a := by
    rw [service_request, service_request, service_close]
    have hchain : a.request.LeadsTo
        (Request.objectUnref (Request.unexportIfExported (Request.objectRef a.request))) :=
      ((Request.LeadsTo.objectRef _).trans (.unexportIfExported _)).trans (.objectUnref _)
    rcases eq_or_ne a.cookie 0 with hc | hc <;> simpa [dispatchClose, handleClose, hc] using hchain
  deliver reply a := by
    rw [service_request, service_request, service_deliver, inhibitDone]
    split
    · cases hd : a.closed <;> simpa [hd] using Request.LeadsTo.objectUnref a.request
    · exact Request.LeadsTo.refl _

/-- The non-zero cookies given back for a request are the one it is due, and the request is
registered as long as it is marked as exported. -/
structure Reachable (a : InhibitRequest) (out : List Message) : Prop where
  once : ReleasedOnce a out
  registered : a.request.exported = true → a.request.registered = true

namespace Reachable

variable {a : InhibitRequest} {out : List Message}

/-- A granted inhibitor that has not been given back belongs to a registered request. -/
lemma registered_of_held (h : Reachable a out) {cookie : UInt32}
    (hcall : a.call = .granted cookie) (hheld : cookie ∉ released out) :
    a.request.registered = true := by
  refine h.registered ?_
  rw [h.once.coherent.exported]
  -- the cookie of a closed request would have been given back
  cases hd : a.closeDelivered with
  | false => rfl
  | true =>
    have hdue : (released out).filter (· ≠ 0) = [cookie] := by
      rw [h.once.released, InhibitRequest.due, hd, hcall]
      rfl
    have hmem : cookie ∈ (released out).filter (· ≠ 0) := by
      rw [hdue]
      exact List.mem_singleton_self cookie
    exact absurd (List.mem_of_mem_filter hmem) hheld

end Reachable

lemma keeps_reachable (b : Backend) :
    (service b).Keeps (ExportSucceeds b) (fun reply _ => reply ≠ .success 0) Reachable where
  call n ok a out hcall hok := by
    refine ⟨(keeps_releasedOnce b).call n ok a out hcall trivial, fun _ => ?_⟩
    obtain ⟨haccepts, rfl, -⟩ := service_call_eq_ok hcall
    rw [Coherent.inhibitRequest_eq]
    exact hok haccepts
  close a out hreg h := by
    refine ⟨(keeps_releasedOnce b).close a out hreg h.once, fun hexp => ?_⟩
    rw [service_request] at hreg
    rw [service_close, h.once.coherent.dispatchClose_eq hreg] at hexp
    exact absurd hexp (by simp)
  deliver reply a out h hreply := by
    refine ⟨(keeps_releasedOnce b).deliver reply a out h.once hreply, ?_⟩
    rw [service_deliver]
    rcases eq_or_ne a.call .inFlight with hcall | hcall
    · rw [h.once.coherent.inhibitDone_eq hcall]
      exact h.registered
    · rw [Coherent.inhibitDone_of_answered hcall]
      exact h.registered

/-- Every request is reachable at its handle. -/
def ReachableInv (b : Backend) (s : Service.State InhibitRequest Message) : Prop :=
  s.requests.Each Reachable ∧ (service b).Unambiguous s

lemma ReachableInv.noOrphans {b : Backend} {s : Service.State InhibitRequest Message}
    (h : ReachableInv b s) : NoOrphans b s := by
  intro i a ha
  have hreach := h.1 i a ha
  refine ⟨fun cookie hcall hheld => ?_, hreach.registered,
    hreach.once.coherent.owned.exported_of_registered⟩
  have hreg := hreach.registered_of_held hcall hheld
  simpa using Service.route_of_registered h.2 ha (by simpa using hreg)

/-- A request whose export failed is marked as exported all the same. -/
lemma not_noOrphans_of_fail {b : Backend} {s : Service.State InhibitRequest Message} {e : Event}
    (he : ¬ (service b).Meets (ExportSucceeds b) (fun _ _ => True) s e) :
    ¬ NoOrphans b ((service b).step s e) := by
  cases e with
  | call n busOk =>
    obtain ⟨haccepts, hfail⟩ : accepts b n = true ∧ (service b).exportOk s n busOk = false := by
      simpa [Service.Meets, ExportSucceeds] using he
    obtain ⟨out, hcall⟩ := exists_service_call_eq_ok haccepts false
    intro hgood
    rw [Service.step, hfail, hcall] at hgood
    have hiff := (hgood s.requests.objects.length (inhibitRequest n false) (by simp)).2
    rw [Coherent.inhibitRequest_eq] at hiff
    simp at hiff
  | close path => exact absurd trivial he
  | deliver i reply => exact absurd (fun _ _ => trivial) he

/-- **No inhibitor is orphaned throughout a run exactly when the exports of all the requests that
it creates succeed.** -/
theorem noOrphans_iff (b : Backend) (evs : List Event) (h : ∀ i, .deliver i (.success 0) ∉ evs) :
    (∀ pre, pre <+: evs → NoOrphans b ((service b).machine.run pre)) ↔
      (service b).machine.Along ((service b).Meets (ExportSucceeds b) fun _ _ => True)
        Service.initial evs := by
  refine Machine.forall_prefix_iff_along (ReachableInv b) (NoOrphans b)
    (fun e => ∀ i, e ≠ .deliver i (.success 0)) ⟨Ensemble.Each.empty, Service.unambiguous_initial⟩
    (fun _ h => h.noOrphans) (fun s e hA hI he => ⟨?_, Service.unambiguous_step (lawful b) hI.2 e⟩)
    (fun _ _ _ _ he => not_noOrphans_of_fail he) (fun e he i heq => h i (heq ▸ he))
  refine Service.each_step (keeps_reachable b) hI.1 ?_
  cases e with
  | call n busOk => exact he
  | close path => trivial
  | deliver i reply => exact fun _ _ heq => hA i (heq ▸ rfl)

/-- The handle is used again once the first request is closed. -/
theorem noOrphans_iff_reuse :
    (service .fdo).route ((service .fdo).machine.run
      [.call ⟨":1", "/a", "org.a", 8, none⟩ true, .close "/a",
        .call ⟨":1", "/a", "org.a", 8, none⟩ true, .deliver 1 (.success 7)]) "/a" = some 1 ∧
    ∀ pre, pre <+: [.call ⟨":1", "/a", "org.a", 8, none⟩ true, .close "/a",
        .call ⟨":1", "/a", "org.a", 8, none⟩ true, .deliver 1 (.success 7)] →
      NoOrphans .fdo ((service .fdo).machine.run pre) :=
  ⟨by decide, (noOrphans_iff .fdo _ (by simp)).mpr (by decide)⟩

/-- Two `Inhibit` calls with the same handle: nothing is registered for the second request, which
is granted an inhibitor. -/
theorem not_noOrphans : ¬ ∀ (b : Backend) (evs : List Event),
    (∀ i, .deliver i (.success 0) ∉ evs) → NoOrphans b ((service b).machine.run evs) := by
  intro h
  have hroute := (h .gnome [.call ⟨":1", "/a", "org.a", 8, none⟩ true,
    .call ⟨":1", "/a", "org.a", 8, none⟩ true, .deliver 1 (.success 7)] (by simp) 1 _ rfl).1 7
    (by decide) (by decide)
  exact absurd hroute (by decide)

end XappPortal.Inhibit
