/-
# The ownership of requests

References to a request are taken by its creation, by its export, by the call to a backend and by a
handle, and are given up in the `Close` handlers, in the functions that send a response, in the
callbacks and where the handlers of method calls return.  All of it adds up, whatever happens in
whatever order: between handlers a request is owned by its export and by what is outstanding for
it, and by nothing else (`ownership_balances`).

The three interfaces share the bus, so they are taken as one service here.
-/
import XappPortal.Inhibit.Release
import XappPortal.Screenshot.Completion
import XappPortal.Wallpaper.Phases

namespace XappPortal.Ownership

open XappPortal.Lib

/-- The requests of the three interfaces. -/
abbrev PortalRequest :=
  Inhibit.InhibitRequest ⊕ Screenshot.ScreenshotRequest ⊕ Wallpaper.WallpaperRequest

/-- The results of the operations. -/
abbrev Result := Inhibit.Reply ⊕ Screenshot.Result ⊕ Wallpaper.Delivery

/-- The method calls. -/
abbrev Call := Inhibit.InhibitCall ⊕ Screenshot.Call ⊕ Wallpaper.SetWallpaperCall

/-- What is sent. -/
abbrev Message := Inhibit.Message ⊕ Screenshot.Message ⊕ Wallpaper.Message

/-- The portal, with the inhibitor service it has found, in a desktop mode, and with or without a
proxy for Cinnamon. -/
def portal (backend : Inhibit.Backend) (mode : String) (cinnamon : Bool) :
    Service PortalRequest Call Result Message :=
  (Inhibit.service backend).sum
    ((Screenshot.service mode cinnamon).sum (Wallpaper.service mode))

/-! ## What is outstanding -/

/-- A request with a handle is outstanding as long as it has the handle or a callback is to be
called with it. -/
def outstandingHandle {η π ρ : Type} (x : Handled η π ρ) : Bool :=
  x.handle.isSome || !x.pending.isEmpty

/-- The asynchronous operation or the handle of a request is outstanding. -/
def outstanding : PortalRequest → Bool
  | .inl a => a.call = .inFlight
  | .inr (.inl x) => outstandingHandle x
  | .inr (.inr x) => outstandingHandle x

/-- The object of a request. -/
def request : PortalRequest → Request :=
  Sum.elim (·.request) (Sum.elim (·.request) (·.request))

@[simp] lemma portal_request (backend : Inhibit.Backend) (mode : String) (cinnamon : Bool)
    (a : PortalRequest) : (portal backend mode cinnamon).request a = request a := by
  rcases a with a | x | x
  · exact Inhibit.service_request backend a
  · rfl
  · rfl

/-- A handle has been accessed after it was freed. -/
def handleUseAfterFree : PortalRequest → Bool
  | .inl _ => false
  | .inr (.inl x) => x.useAfterFree
  | .inr (.inr x) => x.useAfterFree

/-- A result is awaited by a callback of a request. -/
def awaits : PortalRequest → Result → Bool
  | .inl a, .inl _ => a.call = .inFlight
  | .inr (.inl x), .inr (.inl result) => Screenshot.awaits x result
  | .inr (.inr x), .inr (.inr result) => Wallpaper.awaits x result
  | _, _ => false

/-- The reference count of a request is the number of its owners, and nothing happens to it after
it has been finalized. -/
structure Balanced (a : PortalRequest) : Prop where
  refCount : (request a).refCount =
    (if (request a).exported then 1 else 0) + if outstanding a then 1 else 0
  /-- The request is finalized exactly when it is not exported and nothing is outstanding. -/
  finalized : (request a).refCount = 0 ↔ (request a).exported = false ∧ outstanding a = false
  /-- It has only been unexported while it was exported. -/
  unexport : (request a).badUnexport = false
  /-- Neither the request nor its handle has been accessed after its end. -/
  safe : (request a).useAfterFree = false ∧ handleUseAfterFree a = false
  /-- A request that a `Close` call can reach is alive. -/
  close : (request a).registered = true → (request a).refCount ≠ 0
  /-- A request with a callback for a result is alive. -/
  deliver : ∀ result, awaits a result = true → (request a).refCount ≠ 0

/-- A request that is owned by its export and by what is outstanding. -/
lemma Balanced.of_owned {a : PortalRequest}
    (howned : (request a).Owned (if outstanding a then 1 else 0))
    (hsafe : handleUseAfterFree a = false)
    (hawaits : ∀ result, awaits a result = true → outstanding a = true) : Balanced a := by
  have hcount : (request a).refCount =
      (if (request a).exported then 1 else 0) + if outstanding a then 1 else 0 := by
    rw [howned.refCount, Nat.add_comm]
  refine ⟨hcount, ?_, howned.badUnexport, ⟨howned.useAfterFree, hsafe⟩, fun hreg => ?_,
    fun result hresult => ?_⟩
  · rw [hcount]
    cases (request a).exported <;> cases outstanding a <;> simp
  · rw [hcount, if_pos (howned.exported_of_registered hreg)]
    omega
  · rw [hcount, if_pos (hawaits result hresult)]
    omega

/-! ## The requests of each interface -/

lemma balanced_inhibit {a : Inhibit.InhibitRequest} (h : Inhibit.Coherent a) :
    Balanced (.inl a) := by
  refine .of_owned ?_ rfl fun result hresult => ?_
  · simpa [outstanding, request] using h.owned
  · cases result with
    | inl reply => exact hresult
    | inr result => exact absurd hresult (by simp [awaits])

lemma balanced_screenshot {x : Screenshot.ScreenshotRequest} {out : List Screenshot.Message}
    (h : Screenshot.Settled 0 x out) : Balanced (.inr (.inl x)) := by
  rcases h with ⟨handle, ho⟩ | hc
  · have hout : outstanding (.inr (.inl x)) = true := by
      simp [outstanding, outstandingHandle, ho.handle]
    exact .of_owned (by rw [if_pos hout]; exact ho.owned) ho.safe fun _ _ => hout
  · have hout : outstanding (.inr (.inl x)) = false := by
      simp [outstanding, outstandingHandle, hc.handle, hc.pending]
    refine .of_owned (by rw [hout]; exact hc.owned) hc.safe fun result hresult => ?_
    rcases result with reply | result | delivery
    · exact absurd hresult (by simp [awaits])
    · cases result <;> simp [awaits, Screenshot.awaits, hc.pending] at hresult
    · exact absurd hresult (by simp [awaits])

/-- A wallpaper request either has its handle or has been answered. -/
lemma balanced_wallpaper {x : Wallpaper.WallpaperRequest} {out : List Wallpaper.Message}
    (h : Wallpaper.Settled 0 x out) : Balanced (.inr (.inr x)) := by
  have hopen : ∀ handle, Wallpaper.Open 0 x out handle → Balanced (.inr (.inr x)) := by
    intro handle ho
    have hout : outstanding (.inr (.inr x)) = true := by
      simp [outstanding, outstandingHandle, ho.handle]
    exact .of_owned (by rw [if_pos hout]; exact ho.owned) ho.safe fun _ _ => hout
  cases h with
  | loading handle ho _ => exact hopen handle ho
  | decoding handle _ _ ho _ => exact hopen handle ho
  | shown handle _ ho _ => exact hopen handle ho
  | closing handle ho _ => exact hopen handle ho
  | answered ha =>
    have hout : outstanding (.inr (.inr x)) = false := by
      simp [outstanding, outstandingHandle, ha.handle, ha.pending]
    refine .of_owned (by rw [hout]; exact ha.owned) ha.safe fun result hresult => ?_
    rcases result with reply | result | delivery
    · exact absurd hresult (by simp [awaits])
    · exact absurd hresult (by simp [awaits])
    · rw [awaits, ha.not_awaits] at hresult
      exact absurd hresult (by simp)

/-! ## All runs -/

/-- A result that no callback of a request awaits is not handled. -/
lemma deliver_of_not_awaits (backend : Inhibit.Backend) (mode : String) (cinnamon : Bool)
    {a : PortalRequest} {result : Result} (h : awaits a result = false) :
    (portal backend mode cinnamon).deliver result a = (a, []) := by
  rcases a with a | x | x <;> rcases result with reply | result | delivery <;> try rfl
  · have hcall : a.call ≠ .inFlight := by simpa [awaits] using h
    simp only [portal, Service.sum, Inhibit.service_deliver,
      Inhibit.Coherent.inhibitDone_of_answered hcall, List.map_nil]
  · have hnone := Screenshot.deliver_of_not_awaits h
    simp only [portal, Service.sum, Screenshot.service, hnone, List.map_nil]
  · have hnone := Wallpaper.deliver_of_not_awaits h mode
    simp only [portal, Service.sum, Wallpaper.service, hnone, List.map_nil]

/-- **The ownership of every request balances in every state of every run**, and nothing that is
delivered to a finalized request is handled. -/
theorem ownership_balances (backend : Inhibit.Backend) (mode : String) (cinnamon : Bool)
    (evs : List (Service.Event Call Result)) :
    ((portal backend mode cinnamon).machine.run evs).requests.Each fun a _ =>
      Balanced a ∧ ((request a).refCount = 0 →
        ∀ result, (portal backend mode cinnamon).deliver result a = (a, [])) := by
  intro i a ha
  have hkeeps := (Inhibit.keeps_coherent backend).sum
    ((Screenshot.keeps_settled mode cinnamon).sum (Wallpaper.keeps_settled mode))
  have hrun := Service.each_run hkeeps (Service.along_trivial evs) i a ha
  have hbalanced : Balanced a := by
    rcases a with a | x | x
    · obtain ⟨_, -, h⟩ := hrun
      exact balanced_inhibit h
    · obtain ⟨_, -, _, -, h⟩ := hrun
      exact balanced_screenshot h
    · obtain ⟨_, -, _, -, h⟩ := hrun
      exact balanced_wallpaper h
  refine ⟨hbalanced, fun hzero result => deliver_of_not_awaits backend mode cinnamon ?_⟩
  cases hresult : awaits a result with
  | false => rfl
  | true => exact absurd hzero (hbalanced.deliver result hresult)

end XappPortal.Ownership
