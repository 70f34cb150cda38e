/-
# The inhibitors at the backend

The session manager (or the screensaver) is the other party of the protocol behind `Inhibit`: it
keeps the inhibitors that are in force, answers an `Inhibit` call with a cookie or with an error,
and gives up the inhibitor that a release names by its cookie, and no other.  It is taken to stay on
the bus and to grant no cookie 0 and none that another inhibitor in force has; a cookie that has been
given back may be granted again.

Calls, answers and releases overtake each other.  A call that is not answered in time fails for the
portal, while the backend goes on with it and may still grant an inhibitor: that answer is dropped.
-/
import XappPortal.Inhibit.Release

namespace XappPortal.Inhibit

open XappPortal.Lib

/-! ## The parties -/

/-- An inhibitor in force, with the number of the request that it was granted to. -/
structure Inhibitor where
  cookie : UInt32
  owner : ℕ
deriving DecidableEq, Repr

/-- A message asks the backend for an inhibitor. -/
def Message.asks : Message → Bool
  | .gnomeInhibit .. => true
  | .fdoInhibit .. => true
  | _ => false

/-- The portal, the backend, and the messages on their way between them, each with the number of
the request that it is about. -/
structure Exchange where
  portal : Service.State InhibitRequest Message
  /-- The `Inhibit` calls that the backend has not answered. -/
  asked : List ℕ
  /-- The answers of the backend. -/
  replies : List (ℕ × Reply)
  /-- The `Uninhibit` calls. -/
  releases : List (ℕ × UInt32)
  /-- The inhibitors in force at the backend. -/
  inhibitors : List Inhibitor
  /-- The calls that have timed out. -/
  timedOut : List ℕ

/-- What happens to the parties. -/
inductive ExchangeEvent where
  /-- An application calls `Inhibit`. -/
  | call (n : InhibitCall) (busOk : Bool)
  /-- An application closes a request. -/
  | close (path : String)
  /-- The backend grants an inhibitor. -/
  | grant (i : ℕ) (cookie : UInt32)
  /-- The backend answers with an error. -/
  | refuse (i : ℕ)
  /-- The backend handles an `Uninhibit` call. -/
  | release (i : ℕ) (cookie : UInt32)
  /-- An answer reaches the portal. -/
  | reply (i : ℕ) (reply : Reply)
  /-- A call of the portal times out. -/
  | timeout (i : ℕ)
deriving DecidableEq, Repr

namespace Exchange

variable (b : Backend)

/-- The portal handles an event, and what it sends to the backend is on its way. -/
def portalStep (e : Event) (s : Exchange) : Exchange :=
  let portal := (service b).step s.portal e
  let sent := portal.requests.log.drop s.portal.requests.log.length
  { s with
    portal := portal
    asked := s.asked ++ sent.filterMap fun m => if m.2.asks then some m.1 else none
    releases := s.releases ++ sent.filterMap fun m => m.2.released.map fun cookie => (m.1, cookie) }

/-- The reaction of the parties to an event; what is not on its way cannot be handled. -/
def step (s : Exchange) : ExchangeEvent → Exchange
  | .call n busOk => s.portalStep b (.call n busOk)
  | .close path => s.portalStep b (.close path)
  | .grant i cookie =>
      if i ∈ s.asked ∧ cookie ≠ 0 ∧ cookie ∉ s.inhibitors.map Inhibitor.cookie then
        { s with
          asked := s.asked.erase i
          replies := s.replies ++ [(i, .success cookie)]
          inhibitors := s.inhibitors ++ [⟨cookie, i⟩] }
      else s
  | .refuse i =>
      if i ∈ s.asked then
        { s with asked := s.asked.erase i, replies := s.replies ++ [(i, .failure)] }
      else s
  | .release i cookie =>
      -- the backend does not know which request the call was made for
      if (i, cookie) ∈ s.releases then
        { s with
          releases := s.releases.erase (i, cookie)
          inhibitors := s.inhibitors.filter fun x => x.cookie ≠ cookie }
      else s
  | .reply i reply =>
      if (i, reply) ∈ s.replies then
        let s := { s with replies := s.replies.erase (i, reply) }
        -- GDBus drops an answer that comes too late
        if i ∈ s.timedOut then s else s.portalStep b (.deliver i reply)
      else s
  | .timeout i =>
      if i ∈ s.asked ++ s.replies.map Prod.fst ∧ i ∉ s.timedOut then
        { s with timedOut := i :: s.timedOut }.portalStep b (.deliver i .failure)
      else s

/-- Before any call. -/
def initial : Exchange := ⟨Service.initial, [], [], [], [], []⟩

/-- The exchange as a machine. -/
def machine : Machine Exchange ExchangeEvent := ⟨initial, step b⟩

/-! ## What the portal adds to the messages on their way -/

variable {b} {s : Exchange}

/-- The state of a request, by its number. -/
def request? (s : Exchange) (i : ℕ) : Option InhibitRequest := s.portal.requests.objects[i]?

lemma asks_tagged (i : ℕ) (out : List Message) :
    ((out.map fun m => (i, m)).filterMap fun m => if m.2.asks then some m.1 else none)
      = (out.filter Message.asks).map fun _ => i := by
  induction out with
  | nil => rfl
  | cons m out ih =>
    rw [List.map_cons, List.filterMap_cons, List.filter_cons, ih]
    cases m.asks <;> simp

lemma releases_tagged (i : ℕ) (out : List Message) :
    ((out.map fun m => (i, m)).filterMap fun m => m.2.released.map fun cookie => (m.1, cookie))
      = (released out).map fun cookie => (i, cookie) := by
  rw [List.filterMap_map, released, List.map_filterMap]
  rfl

@[simp] lemma asks_uninhibit (b : Backend) (cookie : UInt32) :
    (uninhibit b cookie).asks = false := by
  cases b <;> rfl

/-- An event that one request reacts to without asking for an inhibitor. -/
lemma portalStep_of_react {e : Event} {i : ℕ} {a : InhibitRequest}
    {f : InhibitRequest → InhibitRequest × List Message}
    (hstep : (service b).step s.portal e
      = { s.portal with requests := s.portal.requests.react i f })
    (ha : s.request? i = some a) (hasks : ∀ m ∈ (f a).2, m.asks = false) :
    s.portalStep b e =
      { s with
        portal := { s.portal with requests := s.portal.requests.react i f }
        releases := s.releases ++ (released (f a).2).map fun cookie => (i, cookie) } := by
  have hfilter : (f a).2.filter Message.asks = [] := by
    rw [List.filter_eq_nil_iff]
    intro m hm
    simp [hasks m hm]
  rw [portalStep, hstep]
  simp only [Ensemble.log_react ha, List.drop_left, asks_tagged, releases_tagged, hfilter,
    List.map_nil, List.append_nil]

/-- A request that reacts is replaced, and the others stay. -/
lemma request?_react {s' : Exchange} {i : ℕ} {f : InhibitRequest → InhibitRequest × List Message}
    (hs' : s'.portal.requests = s.portal.requests.react i f) (j : ℕ) :
    s'.request? j = if i = j then (s.request? j).map fun a => (f a).1 else s.request? j := by
  rw [request?, hs', Ensemble.getElem?_objects_react]
  rfl

/-- An accepted call asks the backend once. -/
lemma asks_of_call {n : InhibitCall} {ok : Bool} {a : InhibitRequest} {out : List Message}
    (h : (service b).call n ok = .ok (a, out)) (i : ℕ) :
    ((out.filter Message.asks).map fun _ => i) = [i] := by
  cases b with
  | gnome =>
    obtain ⟨-, rfl⟩ : inhibitRequest n ok = a ∧ _ = out := by
      simpa [service, handleInhibitGnome] using h
    rfl
  | fdo =>
    simp only [service, handleInhibitFdo] at h
    split at h
    · simp at h
    · obtain ⟨-, rfl⟩ : inhibitRequest n ok = a ∧ _ = out := by simpa using h
      rfl

/-- An `Inhibit` call that is accepted asks for an inhibitor for a new request. -/
lemma portalStep_call (s : Exchange) (n : InhibitCall) (busOk : Bool) :
    (s.portalStep b (.call n busOk)).releases = s.releases ∧
    ((s.portalStep b (.call n busOk)).portal.requests = s.portal.requests ∧
      (s.portalStep b (.call n busOk)).asked = s.asked ∨
    ∃ ok out, (s.portalStep b (.call n busOk)).portal.requests
        = s.portal.requests.spawn (inhibitRequest n ok) out ∧
      (s.portalStep b (.call n busOk)).asked
        = s.asked ++ [s.portal.requests.objects.length]) := by
  rw [portalStep, Service.step]
  split
  · next a out hcall =>
    obtain ⟨-, rfl, hreleased⟩ := service_call_eq_ok hcall
    have hasks := asks_of_call hcall
    simp only [Ensemble.spawn, List.drop_left, asks_tagged, releases_tagged, hreleased, hasks]
    exact ⟨List.append_nil _, Or.inr ⟨(service b).exportOk s.portal n busOk, out, rfl, trivial⟩⟩
  · simp

/-- A `Close` call reaches an open request or none, and gives back the cookie of the request. -/
lemma portalStep_close (h : s.portal.requests.Each fun a _ => Coherent a) (path : String) :
    s.portalStep b (.close path) = s ∨
    ∃ i a, s.request? i = some a ∧ a.closeDelivered = false ∧ a.request.registered = true ∧
      (s.portalStep b (.close path)).portal.requests
        = s.portal.requests.react i (dispatchClose (handleClose (uninhibit b))) ∧
      s.portalStep b (.close path) =
        { s with
          portal := (s.portalStep b (.close path)).portal
          releases := s.releases ++ if a.cookie ≠ 0 then [(i, a.cookie)] else [] } := by
  cases hroute : (service b).route s.portal path with
  | none =>
    have hstep : (service b).step s.portal (.close path) = s.portal := by
      rw [Service.step, hroute]
    left
    rw [portalStep, hstep]
    simp
  | some i =>
    obtain ⟨a, ha, hreg, -⟩ := Service.registered_of_route hroute
    rw [service_request] at hreg
    have hcoherent := h i a ha
    have hstep : (service b).step s.portal (.close path) = { s.portal with
        requests := s.portal.requests.react i (dispatchClose (handleClose (uninhibit b))) } := by
      rw [Service.step, hroute, service_close]
    have hasks : ∀ m ∈ (dispatchClose (handleClose (uninhibit b)) a).2, m.asks = false := by
      rw [hcoherent.dispatchClose_eq hreg]
      intro m hm
      rcases List.mem_append.mp hm with hm | hm
      · split at hm
        · rw [List.mem_singleton.mp hm, asks_uninhibit]
        · exact absurd hm List.not_mem_nil
      · rw [List.mem_singleton.mp hm]
        rfl
    have heq := portalStep_of_react hstep ha hasks
    rw [released_close hcoherent hreg] at heq
    refine Or.inr
      ⟨i, a, ha, hcoherent.closeDelivered_of_registered hreg, hreg, by rw [heq], ?_⟩
    rw [heq]
    split <;> rfl

/-- An answer reaches the request that waits for it, and gives back the cookie of a closed one. -/
lemma portalStep_deliver (h : s.portal.requests.Each fun a _ => Coherent a) {i : ℕ}
    {a : InhibitRequest} (ha : s.request? i = some a) (hcall : a.call = .inFlight)
    (reply : Reply) :
    (s.portalStep b (.deliver i reply)).portal.requests
        = s.portal.requests.react i (inhibitDone (uninhibit b) reply) ∧
      s.portalStep b (.deliver i reply) =
        { s with
          portal := (s.portalStep b (.deliver i reply)).portal
          releases := s.releases ++ if a.closeDelivered then [(i, reply.cookie)] else [] } := by
  have hcoherent := h i a ha
  have hstep : (service b).step s.portal (.deliver i reply) = { s.portal with
      requests := s.portal.requests.react i (inhibitDone (uninhibit b) reply) } := by
    rw [Service.step, service_deliver]
  have hasks : ∀ m ∈ (inhibitDone (uninhibit b) reply a).2, m.asks = false := by
    rw [hcoherent.inhibitDone_eq hcall]
    intro m (hm : m ∈ if a.closeDelivered = true then [uninhibit b reply.cookie] else [])
    split at hm
    · rw [List.mem_singleton.mp hm, asks_uninhibit]
    · exact absurd hm List.not_mem_nil
  have heq := portalStep_of_react hstep ha hasks
  rw [released_done hcoherent hcall] at heq
  refine ⟨by rw [heq], ?_⟩
  rw [heq]
  split <;> rfl

end Exchange

end XappPortal.Inhibit
