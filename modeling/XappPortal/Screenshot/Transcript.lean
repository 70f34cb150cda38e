/-
# The course of a request

What is sent for a screenshot request is, in this order: the start of its operation, if it has one;
the acknowledgement of a `Close` call, and before it a signal to the program if one was started for
the request; and the answer.  So a program is started at most once for a request, and is signalled
at most once, after it was started and as long as its end has not been reported; and nothing is
started, signalled or acknowledged after the answer (`screenshot_transcripts`).
-/
import XappPortal.Screenshot.Completion

namespace XappPortal.Screenshot

open XappPortal.Lib

/-- The arguments of the program that is started by a message. -/
def Message.program : Message → Option (List String)
  | .spawn argv => some argv
  | _ => none

/-- The starts of operations: nothing, a program, or a call of Cinnamon's `PickColor`. -/
inductive Start : List Message → Prop
  | nothing : Start []
  | program (argv : List String) : Start [.spawn argv]
  | pickColor : Start [.callPickColor]

/-- What is sent when a request is closed whose operation was started by `start`. -/
def closing (start : List Message) : List Message :=
  ((start.filterMap Message.program).map fun _ => .terminate) ++ [.completeClose]

/-- The messages that have been sent for a request, in their order. -/
structure Transcript (x : ScreenshotRequest) (out start answer : List Message) : Prop where
  out_eq : out = start ++ (if x.closeDelivered then closing start else []) ++ answer
  starts : Start start
  /-- A result is awaited, or the answer has been sent. -/
  answers : x.pending ≠ [] ∧ answer = [] ∨
    x.pending = [] ∧ ∃ m r, answer = [m] ∧ m.answer = some r
  /-- Only an operation that was started has a result or is closed. -/
  started : x.pending ≠ [] ∨ x.delivered ≠ [] ∨ x.closeDelivered = true → start ≠ []
  /-- The handle has the program, as long as its end is awaited. -/
  proc : ∀ h, x.handle = some h → h.proc = (start.filterMap Message.program).head?

variable {x : ScreenshotRequest} {out start : List Message} {h : ScreenshotHandle}

/-! ## Answers -/

lemma isAnswer_completion (h : ScreenshotHandle) : ∃ r, (completion h).answer = some r := by
  rw [completion]
  split <;> exact ⟨_, rfl⟩

/-- A response is all that `send_response` sends. -/
lemma answer_of_mem_respond {response : ℤ} {x : ScreenshotRequest} {m : Message}
    (hm : m ∈ (respond response x).2) : m.answer.isSome = true := by
  rw [respond, sendResponse, Handled.sendResponse, Handled.access] at hm
  split at hm
  · exact absurd hm List.not_mem_nil
  · obtain rfl := List.mem_singleton.mp hm
    exact Option.isSome_iff_exists.mpr (isAnswer_completion _)

lemma answer_of_mem_deliver {result : Result} {x : ScreenshotRequest}
    {m : Message} (hm : m ∈ (deliver result x).2) :
    m.answer.isSome = true := by
  have hreceive : ∀ (p : Callback) (r : Result)
      (callback : ScreenshotRequest → ScreenshotRequest × List Message),
      (∀ y, ∀ m ∈ (callback y).2, m.answer.isSome = true) →
      ∀ m ∈ (x.receive p r callback).2, m.answer.isSome = true := by
    intro p r callback hcallback m hm
    rw [Handled.receive] at hm
    split at hm
    · exact hcallback _ m hm
    · exact absurd hm List.not_mem_nil
  have hfinished : ∀ unsuccessful result y,
      ∀ m ∈ (screenshotFinished unsuccessful result y).2, m.answer.isSome = true := by
    intro unsuccessful result y m hm
    rw [screenshotFinished, Handled.access] at hm
    split at hm
    · exact absurd hm List.not_mem_nil
    · cases result with
      | waitError => exact answer_of_mem_respond hm
      | exited successful =>
        dsimp only at hm
        split at hm
        · exact answer_of_mem_respond hm
        · split at hm <;> exact answer_of_mem_respond hm
  have hpicked : ∀ result y,
      ∀ m ∈ (cinnamonColorPickDone result y).2, m.answer.isSome = true := by
    intro result y m hm
    cases result with
    | error cancelled => cases cancelled <;> exact answer_of_mem_respond hm
    | noColor => exact answer_of_mem_respond hm
    | color red green blue => exact answer_of_mem_respond hm
  cases result with
  | wait result =>
    rw [deliver] at hm
    split at hm
    · exact hreceive _ _ _ (hfinished 2 result) m hm
    · exact hreceive _ _ _ (hfinished 1 result) m hm
  | pickColor result => exact hreceive _ _ _ (hpicked _) m hm

/-- Responding frees the handle and sends the answer, and that is all. -/
lemma respond_eq {n : ℕ} (hh : x.handle = some h) (howned : x.request.Owned (n + 1))
    (response : ℤ) :
    respond response x = (x.answered n, [completion { h with response := response }]) := by
  have hsend := Handled.sendResponse_eq
    (x := { x with handle := some { h with response := response } }) rfl howned completion
  rw [respond, sendResponse, Handled.write_eq hh, hsend]
  rfl

lemma screenshotFinished_eq (hh : x.handle = some h) (howned : x.request.Owned 1)
    (unsuccessful : ℤ) (result : WaitResult) :
    ∃ h', screenshotFinished unsuccessful result x = (x.answered 0, [completion h']) := by
  rw [screenshotFinished, Handled.access_eq hh]
  cases result with
  | waitError => exact ⟨_, respond_eq hh howned 2⟩
  | exited successful =>
    dsimp only
    split
    · exact ⟨_, respond_eq hh howned 1⟩
    · split
      · exact ⟨_, respond_eq hh howned unsuccessful⟩
      · exact ⟨_, respond_eq hh howned 0⟩

lemma cinnamonColorPickDone_eq (hh : x.handle = some h) (howned : x.request.Owned 1)
    (result : PickColorResult) :
    ∃ h', cinnamonColorPickDone result x = (x.answered 0, [completion h']) := by
  cases result with
  | error cancelled =>
    cases cancelled with
    | true => exact ⟨_, respond_eq hh howned 1⟩
    | false => exact ⟨_, respond_eq hh howned 2⟩
  | noColor => exact ⟨_, respond_eq hh howned 2⟩
  | color red green blue =>
    rw [cinnamonColorPickDone, Handled.write_eq hh]
    exact ⟨_, respond_eq (x := { x with
      handle := some { h with red := red, green := green, blue := blue } }) rfl howned 0⟩

/-- A result that is awaited is answered. -/
lemma Outstanding.deliver_eq (ho : Outstanding 0 x out h) {result : Result}
    (hawaits : awaits x result = true) :
    ∃ r h', deliver result x
      = (Handled.answered 0 { x with pending := [], delivered := x.delivered ++ [r] },
        [completion h']) := by
  obtain ⟨callback, hp, -⟩ := ho.pending
  cases result with
  | wait result =>
    cases callback with
    | xfce4ScreenshooterFinished =>
      rw [deliver, if_pos (by simp [hp]), Handled.receive_eq hp]
      exact ⟨.wait result, screenshotFinished_eq (ho.called _).handle (ho.called _).owned 2 result⟩
    | cinnamonScreenshotFinished =>
      rw [deliver, if_neg (by simp [hp]), Handled.receive_eq hp]
      exact ⟨.wait result, screenshotFinished_eq (ho.called _).handle (ho.called _).owned 1 result⟩
    | cinnamonColorPickDone => simp [awaits, hp] at hawaits
  | pickColor result =>
    cases callback with
    | cinnamonColorPickDone =>
      dsimp only [deliver]
      rw [Handled.receive_eq hp]
      exact ⟨_, cinnamonColorPickDone_eq (ho.called _).handle (ho.called _).owned _⟩
    | _ => simp [awaits, hp] at hawaits

/-! ## The method calls -/

/-- The answer to a call for which no operation is outstanding. -/
lemma Created.transcript_fail (hc : Created x h) (hstart : Start start) :
    Transcript (respond 2 x).1.leave (start ++ (respond 2 x).2) start (respond 2 x).2 := by
  obtain ⟨r, hr⟩ := isAnswer_completion { h with response := 2 }
  rw [respond_eq hc.handle hc.owned 2]
  refine ⟨?_, hstart, Or.inr ⟨hc.pending, _, r, rfl, hr⟩, fun hsome => ?_, fun k hk => ?_⟩
  · show start ++ _ = start ++ (if x.closeDelivered then closing start else []) ++ _
    rw [hc.notClosed]
    simp
  · rcases hsome with hp | hd | hclose
    · exact absurd hc.pending hp
    · exact absurd hc.delivered hd
    · exact absurd (hc.notClosed.symm.trans hclose) Bool.false_ne_true
  · cases hk

/-- A call for which an operation has been started. -/
lemma Created.transcript_start (hc : Created x h) {callback : Callback}
    {f : ScreenshotHandle → ScreenshotHandle} (hstart : Start start) (hne : start ≠ [])
    (hproc : (f h).proc = (start.filterMap Message.program).head?) :
    Transcript ((x.write f).start callback).leave start start [] := by
  rw [Handled.write_eq hc.handle]
  refine ⟨?_, hstart, Or.inl ⟨List.cons_ne_nil _ _, rfl⟩, fun _ => hne, fun k hk => ?_⟩
  · show start = start ++ (if x.closeDelivered then closing start else []) ++ []
    rw [hc.notClosed]
    simp
  · obtain rfl := Option.some.inj hk
    exact hproc

/-- The messages of a request are in order. -/
def InOrder (x : ScreenshotRequest) (out : List Message) : Prop :=
  Settled 0 x out ∧ ∃ start answer, Transcript x out start answer

lemma Created.transcript_runProgram (hc : Created x h) (argv : List String) (callback : Callback)
    (env : Environment) :
    ∃ start answer, Transcript (Screenshot.runProgram argv callback env x).1.leave
      (Screenshot.runProgram argv callback env x).2 start answer := by
  rw [Screenshot.runProgram]
  split
  · split
    · exact ⟨_, _, hc.transcript_fail (.program argv)⟩
    · exact ⟨_, _, hc.transcript_start (.program argv) (List.cons_ne_nil _ _) rfl⟩
  · exact ⟨_, _, hc.transcript_fail .nothing⟩

lemma inOrder_call {mode : String} {cinnamon : Bool} {n : Call} {exportOk : Bool}
    (hcall : (service mode cinnamon).call n exportOk = .ok (x, out)) : InOrder x out := by
  refine ⟨settled_call hcall, ?_⟩
  cases n with
  | screenshot arg env =>
    obtain ⟨rfl, rfl⟩ : (handleScreenshot mode arg env exportOk).1 = x ∧
        (handleScreenshot mode arg env exportOk).2 = out := by
      simpa [service, Prod.ext_iff] using hcall
    rw [handleScreenshot]
    dsimp only
    split
    · exact (Created.create _ _ _ _ rfl).transcript_runProgram _ _ env
    · split
      · exact (Created.create _ _ _ _ rfl).transcript_runProgram _ _ env
      · exact ⟨_, _, (Created.create _ _ _ _ rfl).transcript_fail .nothing⟩
  | pickColor arg =>
    obtain ⟨rfl, rfl⟩ : (handlePickColor mode cinnamon arg exportOk).1 = x ∧
        (handlePickColor mode cinnamon arg exportOk).2 = out := by
      simpa [service, Prod.ext_iff] using hcall
    rw [handlePickColor]
    dsimp only
    split
    · exact ⟨_, _, (Created.create _ _ _ _ rfl).transcript_fail .nothing⟩
    · exact ⟨_, _, (Created.create _ _ _ _ rfl).transcript_start .pickColor
        (List.cons_ne_nil _ _) rfl⟩

/-! ## Closing, and the results -/

/-- A `Close` call signals the program that the handle has. -/
lemma Outstanding.dispatchClose_eq (ho : Outstanding 0 x out h)
    (hreg : x.request.registered = true) :
    Handled.dispatchClose handleClose .completeClose x
      = ({ x with
            request := { x.request with exported := false, registered := false, refCount := 1 }
            handle := some { h with
              closed := true, cancellable := h.cancellable.map fun _ => ⟨true⟩ }
            pending := x.pending
            closeDelivered := true },
          (if h.proc.isSome then [.terminate] else []) ++ [.completeClose]) := by
  have hhandler : handleClose
        { x with request := Request.objectRef x.request, closeDelivered := true }
      = ({ x with
            request := Request.objectRef x.request
            handle := some { h with
              closed := true, cancellable := h.cancellable.map fun _ => ⟨true⟩ }
            pending := x.pending
            closeDelivered := true },
          if h.proc.isSome then [.terminate] else []) := by
    simp only [handleClose, Handled.access, Handled.write, ho.handle]
  exact Handled.dispatchClose_eq ho.owned hreg hhandler _

lemma inOrder_close (hs : InOrder x out) (hreg : x.request.registered = true) :
    InOrder (Handled.dispatchClose handleClose .completeClose x).1
      (out ++ (Handled.dispatchClose handleClose .completeClose x).2) := by
  obtain ⟨hsettled, start, answer, ht⟩ := hs
  refine ⟨settled_close hsettled hreg, start, [], ?_⟩
  rcases hsettled with ⟨h, ho⟩ | hc
  · obtain ⟨callback, hp, -⟩ := ho.pending
    have hne : x.pending ≠ [] := by simp [hp]
    have hopen : x.closeDelivered = false := by
      have hexported := ho.exported
      rw [ho.owned.exported_of_registered hreg] at hexported
      simpa using hexported.symm
    obtain rfl : answer = [] := by
      rcases ht.answers with ⟨-, hnil⟩ | ⟨hnil, -⟩
      · exact hnil
      · exact absurd hnil hne
    have hout : out = start := by
      rw [ht.out_eq, hopen]
      simp
    have hsignal : (if h.proc.isSome then [Message.terminate] else [])
        = (start.filterMap Message.program).map fun _ => .terminate := by
      rw [ht.proc h ho.handle]
      cases ht.starts <;> rfl
    rw [ho.dispatchClose_eq hreg]
    refine ⟨?_, ht.starts, Or.inl ⟨hne, rfl⟩, fun _ => ht.started (Or.inl hne), fun k hk => ?_⟩
    · rw [hout, hsignal]
      simp [closing]
    · obtain rfl := Option.some.inj hk
      exact ht.proc h ho.handle
  · rw [hc.unregistered] at hreg
    exact absurd hreg (by simp)

lemma inOrder_deliver (hs : InOrder x out) (result : Result) :
    InOrder (deliver result x).1 (out ++ (deliver result x).2) := by
  cases hawaits : awaits x result with
  | false =>
    rw [deliver_of_not_awaits hawaits, List.append_nil]
    exact hs
  | true =>
    obtain ⟨hsettled, start, answer, ht⟩ := hs
    refine ⟨settled_deliver hsettled result, start, ?_⟩
    rcases hsettled with ⟨h, ho⟩ | hc
    · obtain ⟨callback, hp, -⟩ := ho.pending
      have hne : x.pending ≠ [] := by simp [hp]
      obtain rfl : answer = [] := by
        rcases ht.answers with ⟨-, hnil⟩ | ⟨hnil, -⟩
        · exact hnil
        · exact absurd hnil hne
      obtain ⟨r, h', hdeliver⟩ := ho.deliver_eq hawaits
      obtain ⟨a, ha⟩ := isAnswer_completion h'
      rw [hdeliver]
      refine ⟨[completion h'], ?_, ht.starts, Or.inr ⟨rfl, _, a, rfl, ha⟩,
        fun _ => ht.started (Or.inl hne), fun k hk => ?_⟩
      · rw [ht.out_eq, List.append_nil]
        rfl
      · cases hk
    · cases result <;> simp [awaits, hc.pending] at hawaits

/-- **What is sent for a request is its start, what a `Close` call makes of it, and its answer**, in
every state of every run: a program that has been started for a request is signalled once if the
request is closed, before its end has been reported, and never otherwise. -/
theorem screenshot_transcripts (mode : String) (cinnamon : Bool) (evs : List Event) :
    ((service mode cinnamon).machine.run evs).requests.Each fun x out =>
      ∃ start answer, Transcript x out start answer := by
  have hkeeps : (service mode cinnamon).Keeps (fun _ _ => True) (fun _ _ => True) InOrder :=
    { call := fun _ _ _ _ hcall _ => inOrder_call hcall
      close := fun _ _ hreg hs => inOrder_close hs hreg
      deliver := fun result _ _ hs _ => inOrder_deliver hs result }
  intro i x hx
  exact (Service.each_run hkeeps (Service.along_trivial evs) i x hx).2

end XappPortal.Screenshot
