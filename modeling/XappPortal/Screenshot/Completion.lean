/-
# Every screenshot request is answered once

What a caller of `Screenshot` and `PickColor` may rely on, whatever happens to its request: there
is one answer, it is given as soon as nothing is outstanding any more, it is a success only if the
operation succeeded and the request was not closed, and the handle is freed with it and never
touched again (`screenshots_answered_once`).

An object is outstanding, with its handle and one pending callback, or completed; every handler
leads from one to the other.
-/
import XappPortal.Screenshot.Requests

namespace XappPortal.Screenshot

open XappPortal.Lib

/-- The response and the results by which a message completes an invocation. -/
def Message.answer : Message → Option (ℤ × List (String × Value))
  | .completeScreenshot response results => some (response, results)
  | .completePickColor response results => some (response, results)
  | _ => none

/-- The answers among the messages of a list. -/
def answers (out : List Message) : List (ℤ × List (String × Value)) :=
  out.filterMap Message.answer

/-- Whether a result is one of success. -/
def Result.succeeded : Result → Bool
  | .wait (.exited successful) => successful
  | .pickColor (.color _ _ _) => true
  | _ => false

/-- What holds of a request together with the messages that were sent for it. -/
structure AnsweredOnce (x : ScreenshotRequest) (out : List Message) : Prop where
  /-- A started operation is outstanding until its result is delivered. -/
  outstanding : x.pending = [] ∨ (∃ callback, x.pending = [callback]) ∧ x.delivered = []
  /-- The invocation is completed once, when nothing is outstanding any more. -/
  answered : (answers out).length = if x.pending = [] then 1 else 0
  freed : x.handle = none ↔ x.pending = []
  /-- No `Close` call can reach a completed request. -/
  unregistered : x.pending = [] → x.request.registered = false
  safe : x.useAfterFree = false ∧ x.request.useAfterFree = false
  /-- A success tells that the operation succeeded and the request was not closed. -/
  truthful : ∀ results, (0, results) ∈ answers out →
    x.closeDelivered = false ∧ ∃ result, x.delivered = [result] ∧ result.succeeded = true
  /-- Results come with a success only. -/
  withheld : ∀ response results, (response, results) ∈ answers out → response ≠ 0 → results = []

/-! ## The two states of a request -/

/-- A request whose operation is outstanding; `n` references to it are held by a handler. -/
structure Outstanding (n : ℕ) (x : ScreenshotRequest) (out : List Message)
    (h : ScreenshotHandle) : Prop where
  handle : x.handle = some h
  owned : x.request.Owned (n + 1)
  exported : x.request.exported = !x.closeDelivered
  safe : x.useAfterFree = false
  closed : h.closed = x.closeDelivered
  pending : ∃ callback, x.pending = [callback] ∧
    (callback = .cinnamonColorPickDone → h.cancellable = some ⟨x.closeDelivered⟩)
  delivered : x.delivered = []
  answers : answers out = []

/-- A request whose invocation has been completed; `n` references to it are held by a handler. -/
structure Completed (n : ℕ) (x : ScreenshotRequest) (out : List Message) : Prop where
  handle : x.handle = none
  owned : x.request.Owned n
  unregistered : x.request.registered = false
  safe : x.useAfterFree = false
  pending : x.pending = []
  answers : ∃ response results, answers out = [(response, results)] ∧
    (response = 0 → x.closeDelivered = false ∧
      ∃ result, x.delivered = [result] ∧ result.succeeded = true) ∧
    (response ≠ 0 → results = [])

/-- Every request is in one of the two states. -/
def Settled (n : ℕ) (x : ScreenshotRequest) (out : List Message) : Prop :=
  (∃ h, Outstanding n x out h) ∨ Completed n x out

variable {n : ℕ} {x : ScreenshotRequest} {out : List Message} {h : ScreenshotHandle}

lemma Settled.answeredOnce (hs : Settled 0 x out) : AnsweredOnce x out := by
  rcases hs with ⟨h, ho⟩ | hc
  · obtain ⟨callback, hp, -⟩ := ho.pending
    have hne : x.pending ≠ [] := by simp [hp]
    exact {
      outstanding := Or.inr ⟨⟨callback, hp⟩, ho.delivered⟩
      answered := by rw [ho.answers, if_neg hne]; rfl
      freed := by simp [ho.handle, hne]
      unregistered := fun he => absurd he hne
      safe := ⟨ho.safe, ho.owned.useAfterFree⟩
      truthful := fun results hr => by simp [ho.answers] at hr
      withheld := fun response results hr => by simp [ho.answers] at hr }
  · obtain ⟨response, results, heq, hzero, hres⟩ := hc.answers
    exact {
      outstanding := Or.inl hc.pending
      answered := by rw [heq, if_pos hc.pending]; rfl
      freed := by simp [hc.handle, hc.pending]
      unregistered := fun _ => hc.unregistered
      safe := ⟨hc.safe, hc.owned.useAfterFree⟩
      truthful := fun results' hr => by
        obtain ⟨rfl, -⟩ : 0 = response ∧ results' = results := by simpa [heq] using hr
        exact hzero rfl
      withheld := fun response' results' hr hne => by
        obtain ⟨rfl, rfl⟩ : response' = response ∧ results' = results := by simpa [heq] using hr
        exact hres hne }

/-- A handler that returns gives up its reference. -/
lemma Settled.leave (hs : Settled (n + 1) x out) : Settled n x.leave out := by
  rcases hs with ⟨h, ho⟩ | hc
  · rw [Handled.leave_eq ho.owned]
    exact Or.inl ⟨h, ho.handle, ho.owned.of_unref, ho.exported, ho.safe, ho.closed, ho.pending,
      ho.delivered, ho.answers⟩
  · rw [Handled.leave_eq hc.owned]
    exact Or.inr ⟨hc.handle, hc.owned.of_unref, hc.unregistered, hc.safe, hc.pending, hc.answers⟩

/-! ## The response -/

lemma answers_append (l₁ l₂ : List Message) : answers (l₁ ++ l₂) = answers l₁ ++ answers l₂ :=
  List.filterMap_append

/-- The answer has the response of the handle, and no results unless that is 0. -/
lemma answer_completion (h : ScreenshotHandle) :
    ∃ results, answers [completion h] = [(h.response, results)] ∧
      (h.response ≠ 0 → results = []) := by
  rw [completion]
  split
  · refine ⟨_, rfl, fun hne => ?_⟩
    cases h.uri with
    | none => rfl
    | some uri => exact if_neg hne
  · exact ⟨_, rfl, fun hne => if_neg hne⟩

/-- Responding completes a request that nothing is outstanding for. -/
lemma completed_respond {response : ℤ} (hh : x.handle = some h) (howned : x.request.Owned (n + 1))
    (hsafe : x.useAfterFree = false) (hp : x.pending = []) (hout : answers out = [])
    (hzero : response = 0 → x.closeDelivered = false ∧
      ∃ result, x.delivered = [result] ∧ result.succeeded = true) :
    Completed n (respond response x).1 (out ++ (respond response x).2) := by
  have heq := Handled.sendResponse_eq (x := { x with handle := some { h with response := response } })
    rfl howned completion
  rw [respond, sendResponse, Handled.write_eq hh, heq]
  obtain ⟨results, hans, hres⟩ := answer_completion { h with response := response }
  refine ⟨rfl, howned.of_unexport n, rfl, hsafe, hp, response, results, ?_, hzero, hres⟩
  rw [answers_append, hout, hans, List.nil_append]

/-! ## The callbacks -/

/-- A request whose callback has been called with a result and has not responded yet. -/
structure Called (result : Result) (x : ScreenshotRequest) (out : List Message)
    (h : ScreenshotHandle) : Prop where
  handle : x.handle = some h
  owned : x.request.Owned 1
  safe : x.useAfterFree = false
  closed : h.closed = x.closeDelivered
  pending : x.pending = []
  delivered : x.delivered = [result]
  answers : answers out = []

namespace Called

variable {result : Result}

lemma respond (hc : Called result x out h) {response : ℤ}
    (hzero : response = 0 → x.closeDelivered = false ∧ result.succeeded = true) :
    Completed 0 (Screenshot.respond response x).1 (out ++ (Screenshot.respond response x).2) := by
  refine completed_respond hc.handle hc.owned hc.safe hc.pending hc.answers fun h0 => ?_
  obtain ⟨hclose, hsucc⟩ := hzero h0
  exact ⟨hclose, result, hc.delivered, hsucc⟩

lemma fail (hc : Called result x out h) {response : ℤ} (hne : response ≠ 0) :
    Completed 0 (Screenshot.respond response x).1 (out ++ (Screenshot.respond response x).2) :=
  hc.respond fun h0 => absurd h0 hne

/-- The end of a screenshot program completes the request. -/
lemma screenshotFinished {result : WaitResult} (hc : Called (.wait result) x out h)
    {unsuccessful : ℤ} (hne : unsuccessful ≠ 0) :
    Completed 0 (screenshotFinished unsuccessful result x).1
      (out ++ (screenshotFinished unsuccessful result x).2) := by
  rw [Screenshot.screenshotFinished, Handled.access_eq hc.handle]
  cases result with
  | waitError => exact hc.fail (by decide)
  | exited successful =>
    dsimp only
    split
    · exact hc.fail (by decide)
    · next hopen =>
      cases successful with
      | false => exact hc.fail hne
      | true => exact hc.respond fun _ => ⟨by rw [← hc.closed]; simpa using hopen, rfl⟩

/-- The reply of `PickColor` completes the request; it is an error if the request was closed. -/
lemma cinnamonColorPickDone {result : PickColorResult} (hc : Called (.pickColor result) x out h)
    (hcancel : x.closeDelivered = true → result = .error true) :
    Completed 0 (cinnamonColorPickDone result x).1
      (out ++ (cinnamonColorPickDone result x).2) := by
  cases result with
  | error cancelled =>
    cases cancelled with
    | true => exact hc.fail (by decide)
    | false => exact hc.fail (by decide)
  | noColor => exact hc.fail (by decide)
  | color red green blue =>
    have hopen : x.closeDelivered = false := by
      cases hd : x.closeDelivered with
      | false => rfl
      | true => simpa using hcancel hd
    dsimp only [Screenshot.cinnamonColorPickDone]
    rw [Handled.write_eq hc.handle]
    have hcolor : Called (.pickColor (.color red green blue))
        { x with handle := some { h with red := red, green := green, blue := blue } } out
        { h with red := red, green := green, blue := blue } :=
      ⟨rfl, hc.owned, hc.safe, hc.closed, hc.pending, hc.delivered, hc.answers⟩
    exact hcolor.respond fun _ => ⟨hopen, rfl⟩

end Called

/-- A pending callback is called. -/
lemma Outstanding.called (ho : Outstanding 0 x out h) (result : Result) :
    Called result { x with pending := [], delivered := x.delivered ++ [result] } out h :=
  ⟨ho.handle, ho.owned, ho.safe, ho.closed, rfl, by simp [ho.delivered], ho.answers⟩

lemma settled_deliver (hs : Settled 0 x out) (result : Result) :
    Settled 0 (deliver result x).1 (out ++ (deliver result x).2) := by
  rcases hs with ⟨h, ho⟩ | hc
  · obtain ⟨callback, hp, hcancel⟩ := ho.pending
    -- a result that no callback waits for is dropped
    have hstay : Settled 0 x (out ++ []) := by
      rw [List.append_nil]
      exact Or.inl ⟨h, ho⟩
    cases result with
    | wait result =>
      cases callback with
      | xfce4ScreenshooterFinished =>
        rw [deliver, if_pos (by simp [hp]), Handled.receive_eq hp]
        exact Or.inr ((ho.called _).screenshotFinished (by decide))
      | cinnamonScreenshotFinished =>
        rw [deliver, if_neg (by simp [hp]), Handled.receive_eq hp]
        exact Or.inr ((ho.called _).screenshotFinished (by decide))
      | cinnamonColorPickDone =>
        rw [deliver, if_neg (by simp [hp]), Handled.receive_of_notMem (by simp [hp])]
        exact hstay
    | pickColor result =>
      cases callback with
      | cinnamonColorPickDone =>
        dsimp only [deliver]
        rw [Handled.receive_eq hp]
        refine Or.inr ((ho.called _).cinnamonColorPickDone fun hclosed => ?_)
        -- the call was cancelled by the `Close` call
        simp [finishPickColor, ho.handle, hcancel rfl, show x.closeDelivered = true from hclosed]
      | _ =>
        dsimp only [deliver]
        rw [Handled.receive_of_notMem (by simp [hp])]
        exact hstay
  · have hstay : deliver result x = (x, []) := by
      cases result <;> simp [deliver, Handled.receive, hc.pending]
    rw [hstay, List.append_nil]
    exact Or.inr hc

/-- Whether a result is outstanding for a request. -/
def awaits (x : ScreenshotRequest) : Result → Bool
  | .wait _ => .xfce4ScreenshooterFinished ∈ x.pending ∨ .cinnamonScreenshotFinished ∈ x.pending
  | .pickColor _ => .cinnamonColorPickDone ∈ x.pending

/-- A result that is not outstanding for a request does nothing. -/
lemma deliver_of_not_awaits {result : Result} (h : awaits x result = false) :
    deliver result x = (x, []) := by
  cases result with
  | wait result =>
    have hnone : ¬ .xfce4ScreenshooterFinished ∈ x.pending ∧
        ¬ .cinnamonScreenshotFinished ∈ x.pending := by
      simpa [awaits] using h
    rw [deliver, if_neg hnone.1, Handled.receive_of_notMem hnone.2]
  | pickColor result =>
    exact Handled.receive_of_notMem (by simpa [awaits] using h) _ _

/-! ## Closing -/

/-- A `Close` call leaves the operation outstanding, as one that cannot succeed any more. -/
lemma settled_close (hs : Settled 0 x out) (hreg : x.request.registered = true) :
    Settled 0 (Handled.dispatchClose handleClose .completeClose x).1
      (out ++ (Handled.dispatchClose handleClose .completeClose x).2) := by
  rcases hs with ⟨h, ho⟩ | hc
  · obtain ⟨callback, hp, hcancel⟩ := ho.pending
    have hhandler : handleClose
          { x with request := Request.objectRef x.request, closeDelivered := true }
        = ({ x with
              request := Request.objectRef x.request
              handle := some { h with
                closed := true, cancellable := h.cancellable.map fun _ => ⟨true⟩ }
              pending := x.pending
              closeDelivered := true },
            if h.proc.isSome then [.terminate] else []) := by
      simp only [handleClose, Handled.access, Handled.write, ho.handle]
    have hans : answers ((if h.proc.isSome then [.terminate] else []) ++ [.completeClose]) = [] := by
      split <;> rfl
    rw [Handled.dispatchClose_eq ho.owned hreg hhandler]
    refine Or.inl ⟨_, rfl, ho.owned.of_unexport 1, rfl, ho.safe, rfl,
      ⟨callback, hp, fun hcall => ?_⟩, ho.delivered, ?_⟩
    · rw [hcancel hcall]
      rfl
    · rw [answers_append, ho.answers, hans, List.nil_append]
  · rw [hc.unregistered] at hreg
    exact absurd hreg (by simp)

/-! ## The method calls -/

/-- The request of a new call, before an operation is started for it. -/
structure Created (x : ScreenshotRequest) (h : ScreenshotHandle) : Prop where
  handle : x.handle = some h
  owned : x.request.Owned 2
  exported : x.request.exported = true
  safe : x.useAfterFree = false
  closed : h.closed = false
  pending : x.pending = []
  delivered : x.delivered = []
  notClosed : x.closeDelivered = false

namespace Created

lemma create (sender appId id : String) (exportOk : Bool) (hclosed : h.closed = false) :
    Created (.create (Request.requestNew sender appId id) exportOk h) h :=
  ⟨rfl, Handled.create_owned .., Handled.create_exported .., rfl, hclosed, rfl, rfl, rfl⟩

/-- A call for which no operation could be started is answered at once. -/
lemma fail (hc : Created x h) (out : List Message) (hout : answers out = []) :
    Settled 1 (respond 2 x).1 (out ++ (respond 2 x).2) :=
  Or.inr (completed_respond hc.handle hc.owned hc.safe hc.pending hout
    fun h0 => absurd h0 (by decide))

/-- A call for which an operation has been started is outstanding. -/
lemma start (hc : Created x h) {callback : Callback} {f : ScreenshotHandle → ScreenshotHandle}
    (hout : answers out = []) (hclosed : (f h).closed = h.closed)
    (hcancel : callback = .cinnamonColorPickDone → (f h).cancellable = some ⟨false⟩) :
    Settled 1 ((x.write f).start callback) out := by
  rw [Handled.write_eq hc.handle]
  refine Or.inl ⟨f h, rfl, hc.owned, ?_, hc.safe, ?_, ⟨callback, ?_, fun hcb => ?_⟩,
    hc.delivered, hout⟩
  · show x.request.exported = !x.closeDelivered
    rw [hc.exported, hc.notClosed]
    rfl
  · show (f h).closed = x.closeDelivered
    rw [hclosed, hc.closed, hc.notClosed]
  · show callback :: x.pending = [callback]
    rw [hc.pending]
  · show (f h).cancellable = some ⟨x.closeDelivered⟩
    rw [hcancel hcb, hc.notClosed]

lemma runProgram (hc : Created x h) (argv : List String) {callback : Callback}
    (hcallback : callback ≠ .cinnamonColorPickDone) (env : Environment) :
    Settled 1 (runProgram argv callback env x).1 (runProgram argv callback env x).2 := by
  rw [Screenshot.runProgram]
  split
  · split
    · exact hc.fail [.spawn argv] rfl
    · exact hc.start rfl rfl fun hcb => absurd hcb hcallback
  · exact hc.fail [] rfl

end Created

lemma settled_call {mode : String} {cinnamon : Bool} {n : Call} {exportOk : Bool}
    (hcall : (service mode cinnamon).call n exportOk = .ok (x, out)) : Settled 0 x out := by
  cases n with
  | screenshot arg env =>
    obtain ⟨rfl, rfl⟩ : (handleScreenshot mode arg env exportOk).1 = x ∧
        (handleScreenshot mode arg env exportOk).2 = out := by
      simpa [service, Prod.ext_iff] using hcall
    rw [handleScreenshot]
    refine Settled.leave ?_
    split
    · exact (Created.create _ _ _ _ rfl).runProgram _ (by decide) env
    · split
      · exact (Created.create _ _ _ _ rfl).runProgram _ (by decide) env
      · exact (Created.create _ _ _ _ rfl).fail [] rfl
  | pickColor arg =>
    obtain ⟨rfl, rfl⟩ : (handlePickColor mode cinnamon arg exportOk).1 = x ∧
        (handlePickColor mode cinnamon arg exportOk).2 = out := by
      simpa [service, Prod.ext_iff] using hcall
    rw [handlePickColor]
    refine Settled.leave ?_
    split
    · exact (Created.create _ _ _ _ rfl).fail [] rfl
    · exact (Created.create _ _ _ _ rfl).start rfl rfl fun _ => rfl

/-! ## All runs -/

lemma keeps_settled (mode : String) (cinnamon : Bool) :
    (service mode cinnamon).Keeps (fun _ _ => True) (fun _ _ => True) (Settled 0) where
  call _ _ _ _ hcall _ := settled_call hcall
  close _ _ hreg hs := settled_close hs hreg
  deliver result _ _ hs _ := settled_deliver hs result

/-- **Every screenshot and pick-color request is answered once, truthfully, as soon as nothing is
outstanding for it, and its handle is freed with the answer.** -/
theorem screenshots_answered_once (mode : String) (cinnamon : Bool) (evs : List Event) :
    ((service mode cinnamon).machine.run evs).requests.Each AnsweredOnce := by
  intro i x hx
  have hsettled := Service.each_run (keeps_settled mode cinnamon) (Service.along_trivial evs)
  exact (hsettled i x hx).answeredOnce

end XappPortal.Screenshot
