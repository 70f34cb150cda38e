/-
# The phases of a wallpaper request

A request that has not been answered is loading its image, decoding it, showing its preview, or
closing; in each phase exactly one event is outstanding for it.  This file proves what each event
does to a request in each phase (`Settled.call`, `Settled.close`, `Settled.deliver`).
-/
import XappPortal.Wallpaper.Requests

namespace XappPortal.Wallpaper

open XappPortal.Lib

/-! ## What has been sent and loaded -/

/-- The responses that complete the invocation. -/
def answers (out : List Message) : List ℕ :=
  out.filterMap fun
    | .completeSetWallpaperUri response => some response
    | _ => none

/-- The contents that have been stored, or could not be stored, by `store_wallpaper`. -/
def stores (out : List Message) : List Bytes :=
  out.filterMap fun
    | .setContents _ contents _ => some contents
    | _ => none

/-- The contents that have been returned by loads. -/
def loads (delivered : List Delivery) : List Bytes :=
  delivered.filterMap fun
    | .loaded (.contents bytes) _ => some bytes
    | _ => none

lemma answers_append (l₁ l₂ : List Message) : answers (l₁ ++ l₂) = answers l₁ ++ answers l₂ :=
  List.filterMap_append

lemma stores_append (l₁ l₂ : List Message) : stores (l₁ ++ l₂) = stores l₁ ++ stores l₂ :=
  List.filterMap_append

lemma setBackground_sends (schema key value : String) (zoomed : ℤ) (env : Environment) :
    answers (setBackground schema key value zoomed env).2 = [] ∧
      stores (setBackground schema key value zoomed env).2 = [] := by
  rw [setBackground]
  split <;> exact ⟨rfl, rfl⟩

lemma setGsettings_sends (mode uri : String) (env : Environment) :
    answers (setGsettings mode uri env).2 = [] ∧ stores (setGsettings mode uri env).2 = [] := by
  rw [setGsettings]
  split
  · exact ⟨rfl, rfl⟩
  · split
    · exact setBackground_sends _ _ _ _ env
    · split
      · exact setBackground_sends _ _ _ _ env
      · split <;> exact ⟨rfl, rfl⟩

/-- Storing the wallpaper writes the image of the handle. -/
lemma storeWallpaper_sends (mode : String) (env : Environment) (h : WallpaperDialogHandle) :
    answers (storeWallpaper mode env h).2 = [] ∧
      stores (storeWallpaper mode env h).2 = [h.image.getD []] := by
  rw [storeWallpaper]
  dsimp only
  split
  · exact ⟨rfl, rfl⟩
  · cases env.uri with
    | none => exact ⟨rfl, rfl⟩
    | some uri =>
      obtain ⟨hans, hst⟩ := setGsettings_sends mode uri env
      exact ⟨hans, congrArg (h.image.getD [] :: ·) hst⟩

/-! ## Requests that have not been answered -/

/-- A request that has not been answered; `n` references to it are held by a handler. -/
structure Open (n : ℕ) (x : WallpaperRequest) (out : List Message)
    (h : WallpaperDialogHandle) : Prop where
  handle : x.handle = some h
  owned : x.request.Owned (n + 1)
  exported : x.request.exported = !x.closeDelivered
  safe : x.useAfterFree = false
  cancelled : h.cancellable.cancelled = x.closeDelivered
  answers : answers out = []
  stores : stores out = []

/-- The image is being loaded. -/
structure Loading (x : WallpaperRequest) (h : WallpaperDialogHandle) : Prop where
  pending : x.pending = [.onImageLoaded]
  dialog : h.dialog = none
  delivered : x.delivered = []

/-- The image has been loaded and is being decoded. -/
structure Decoding (x : WallpaperRequest) (h : WallpaperDialogHandle) (image : Bytes)
    (display : ℕ) : Prop where
  pending : x.pending = [.onDialogReady image display]
  dialog : h.dialog = none
  image_eq : h.image = some image
  preview : h.showPreview = true
  loads : loads x.delivered = [image]

/-- The preview of the image is shown. -/
structure Shown (x : WallpaperRequest) (h : WallpaperDialogHandle) (dialog : Dialog) : Prop where
  pending : x.pending = []
  dialog_eq : h.dialog = some dialog
  image_eq : h.image = some dialog.image
  preview : h.showPreview = true
  loads : loads x.delivered = [dialog.image]
  notClosed : x.closeDelivered = false

/-- The preview has been closed, and the response is about to be sent. -/
structure Closing (x : WallpaperRequest) (h : WallpaperDialogHandle) : Prop where
  pending : x.pending = [.sendResponseIdle]
  dialog : h.dialog = none
  response : h.response = 2
  closed : x.closeDelivered = true

/-- A request that has been answered; `n` references to it are held by a handler. -/
structure Answered (n : ℕ) (x : WallpaperRequest) (out : List Message) : Prop where
  handle : x.handle = none
  owned : x.request.Owned n
  unregistered : x.request.registered = false
  safe : x.useAfterFree = false
  pending : x.pending = []
  answers : ∃ response, answers out = [response] ∧ (response = 0 → x.closeDelivered = false)
  /-- Only what has been loaded has been stored, and that once. -/
  stores : stores out = [] ∨
    ∃ bytes, stores out = [bytes] ∧ loads x.delivered = [bytes] ∧ x.closeDelivered = false

/-- A request is in one of the phases or has been answered. -/
inductive Settled (n : ℕ) (x : WallpaperRequest) (out : List Message) : Prop where
  | loading (h : WallpaperDialogHandle) (ho : Open n x out h) (hl : Loading x h)
  | decoding (h : WallpaperDialogHandle) (image : Bytes) (display : ℕ) (ho : Open n x out h)
      (hd : Decoding x h image display)
  | shown (h : WallpaperDialogHandle) (dialog : Dialog) (ho : Open n x out h)
      (hs : Shown x h dialog)
  | closing (h : WallpaperDialogHandle) (ho : Open n x out h) (hc : Closing x h)
  | answered (ha : Answered n x out)

variable {n : ℕ} {x : WallpaperRequest} {out : List Message} {h : WallpaperDialogHandle}

/-! ## The response -/

namespace Open

lemma sendResponse_eq (ho : Open n x out h) :
    sendResponse x = (x.answered n, [.completeSetWallpaperUri h.response]) :=
  Handled.sendResponse_eq ho.handle ho.owned _

/-- Sending the response answers a request that nothing is outstanding for. -/
lemma sendResponse (ho : Open n x out h) (hp : x.pending = [])
    (hclose : h.response = 0 → x.closeDelivered = false) :
    Answered n (sendResponse x).1 (out ++ (sendResponse x).2) := by
  rw [ho.sendResponse_eq]
  refine ⟨rfl, ho.owned.of_unexport n, rfl, ho.safe, hp, ⟨h.response, ?_, hclose⟩, Or.inl ?_⟩
  · rw [answers_append, ho.answers]
    rfl
  · rw [stores_append, ho.stores]
    rfl

/-- A write to the handle of an open request. -/
lemma write (ho : Open n x out h) (f : WallpaperDialogHandle → WallpaperDialogHandle)
    (hf : (f h).cancellable = h.cancellable) : Open n (x.write f) out (f h) := by
  rw [Handled.write_eq ho.handle]
  refine ⟨rfl, ho.owned, ho.exported, ho.safe, ?_, ho.answers, ho.stores⟩
  rw [hf]
  exact ho.cancelled

lemma respond (ho : Open n x out h) (hp : x.pending = []) {response : ℕ}
    (hclose : response = 0 → x.closeDelivered = false) :
    Answered n (respond response x).1 (out ++ (respond response x).2) := by
  have ho' := ho.write (fun handle => { handle with response := response }) rfl
  exact ho'.sendResponse (by simpa using hp) (by simpa using hclose)

/-- Storing the loaded image of an open request answers it. -/
lemma storeAndRespond (ho : Open n x out h) (hp : x.pending = []) {bytes : Bytes}
    (himage : h.image = some bytes) (hloads : loads x.delivered = [bytes])
    (hclose : x.closeDelivered = false) (mode : String) (env : Environment) :
    Answered n (storeAndRespond mode env x).1 (out ++ (storeAndRespond mode env x).2) := by
  obtain ⟨hans, hst⟩ := storeWallpaper_sends mode env h
  have ho' := ho.write
    (fun handle => { handle with response := (storeWallpaper mode env h).1 }) rfl
  rw [Wallpaper.storeAndRespond, Handled.access_eq ho.handle]
  dsimp only [Wallpaper.respond]
  rw [ho'.sendResponse_eq, Handled.write_eq ho.handle]
  refine ⟨rfl, ho.owned.of_unexport n, rfl, ho.safe, hp,
    ⟨(storeWallpaper mode env h).1, ?_, fun _ => hclose⟩, Or.inr ⟨bytes, ?_, hloads, hclose⟩⟩
  · rw [answers_append, answers_append, ho.answers, hans]
    rfl
  · rw [stores_append, stores_append, ho.stores, hst, himage]
    rfl

end Open

/-! ## The method call -/

/-- An operation is started for an open request. -/
lemma Open.start (ho : Open n x out h) (callback : Callback) : Open n (x.start callback) out h :=
  ⟨ho.handle, ho.owned, ho.exported, ho.safe, ho.cancelled, ho.answers, ho.stores⟩

/-- A handler that returns gives up its reference. -/
lemma Open.leave (ho : Open (n + 1) x out h) : Open n x.leave out h := by
  rw [Handled.leave_eq ho.owned]
  exact ⟨ho.handle, ho.owned.of_unref, ho.exported, ho.safe, ho.cancelled, ho.answers, ho.stores⟩

/-- A new request is loading. -/
lemma Settled.call {mode : String} {c : SetWallpaperCall} {exportOk : Bool}
    (hcall : (service mode).call c exportOk = .ok (x, out)) : Settled 0 x out := by
  obtain ⟨rfl, rfl⟩ : (handleSetWallpaperUri c exportOk).1 = x ∧
      (handleSetWallpaperUri c exportOk).2 = out := by
    simpa [service, Prod.ext_iff] using hcall
  have hopen : ∀ h : WallpaperDialogHandle, h.cancellable = ⟨false⟩ →
      Open 1 (.create (Request.requestNew c.sender c.appId c.handle) exportOk h)
        [.loadContents c.uri] h := by
    intro h hcancel
    refine ⟨rfl, Handled.create_owned .., ?_, rfl, congrArg Cancellable.cancelled hcancel, rfl, rfl⟩
    rw [Handled.create_exported]
    rfl
  rw [handleSetWallpaperUri]
  exact .loading _ ((hopen _ rfl).start _).leave ⟨rfl, rfl, rfl⟩

/-! ## Closing -/

lemma dispatchClose_eq (ho : Open 0 x out h) (hreg : x.request.registered = true) :
    Handled.dispatchClose handleClose .completeClose x
      = ({ x with
            request := { x.request with exported := false, registered := false, refCount := 1 }
            handle := some { h with
              cancellable := ⟨true⟩
              dialog := none
              response := if h.dialog.isSome then 2 else h.response }
            pending := if h.dialog.isSome then .sendResponseIdle :: x.pending else x.pending
            closeDelivered := true },
          [.completeClose]) := by
  have hhandler : handleClose
        { x with request := Request.objectRef x.request, closeDelivered := true }
      = ({ x with
            request := Request.objectRef x.request
            handle := some { h with
              cancellable := ⟨true⟩
              dialog := none
              response := if h.dialog.isSome then 2 else h.response }
            pending := if h.dialog.isSome then .sendResponseIdle :: x.pending else x.pending
            closeDelivered := true },
          []) := by
    cases hd : h.dialog <;>
      simp [handleClose, Handled.access, Handled.write, Handled.start, ho.handle, hd]
  exact Handled.dispatchClose_eq ho.owned hreg hhandler _

/-- A `Close` call leaves a load or a decoding outstanding, which cannot succeed any more, and
destroys a preview. -/
lemma Settled.close (hs : Settled 0 x out) (hreg : x.request.registered = true) :
    Settled 0 (Handled.dispatchClose handleClose .completeClose x).1
      (out ++ (Handled.dispatchClose handleClose .completeClose x).2) := by
  have hopen : ∀ {h h' : WallpaperDialogHandle} {pending : List Callback}, Open 0 x out h →
      h'.cancellable.cancelled = true →
      Open 0 { x with
          request := { x.request with exported := false, registered := false, refCount := 1 }
          handle := some h', pending := pending, closeDelivered := true }
        (out ++ [.completeClose]) h' := by
    intro h h' pending ho hcancel
    refine ⟨rfl, ho.owned.of_unexport 1, rfl, ho.safe, hcancel, ?_, ?_⟩
    · rw [answers_append, ho.answers]
      rfl
    · rw [stores_append, ho.stores]
      rfl
  -- the callbacks stay pending; a dialog is replaced by the idle callback
  cases hs with
  | loading h ho hl =>
    rw [dispatchClose_eq ho hreg]
    refine .loading _ (hopen ho rfl) ⟨?_, rfl, hl.delivered⟩
    simp [hl.dialog, hl.pending]
  | decoding h image display ho hd =>
    rw [dispatchClose_eq ho hreg]
    refine .decoding _ image display (hopen ho rfl) ⟨?_, rfl, hd.image_eq, hd.preview, hd.loads⟩
    simp [hd.dialog, hd.pending]
  | shown h dialog ho hs =>
    rw [dispatchClose_eq ho hreg]
    refine .closing _ (hopen ho rfl) ⟨?_, rfl, ?_, rfl⟩ <;> simp [hs.dialog_eq, hs.pending]
  | closing h ho hc =>
    -- the request was unexported when it was closed
    have hexp := ho.owned.exported_of_registered hreg
    rw [ho.exported, hc.closed] at hexp
    exact absurd hexp (by simp)
  | answered ha =>
    rw [ha.unregistered] at hreg
    exact absurd hreg (by simp)

/-! ## The callbacks -/

/-- A result is delivered to an open request. -/
lemma Open.called (ho : Open n x out h) (pending : List Callback) (d : Delivery) :
    Open n { x with pending := pending, delivered := x.delivered ++ [d] } out h :=
  ⟨ho.handle, ho.owned, ho.exported, ho.safe, ho.cancelled, ho.answers, ho.stores⟩

lemma loads_append (l₁ l₂ : List Delivery) : loads (l₁ ++ l₂) = loads l₁ ++ loads l₂ :=
  List.filterMap_append

lemma Decoding.decoding_eq {image : Bytes} {display : ℕ} (hd : Decoding x h image display) :
    decoding x = some (image, display) := by
  simp [decoding, hd.pending]

lemma Shown.liveDialog_eq {dialog : Dialog} (ho : Open n x out h) (hs : Shown x h dialog) :
    liveDialog x = some dialog := by
  simp [liveDialog, ho.handle, hs.dialog_eq]

lemma isCancelled_eq (ho : Open n x out h) : isCancelled x = x.closeDelivered := by
  rw [isCancelled, ho.handle]
  exact ho.cancelled

lemma Open.onImageLoaded (ho : Open 0 x out h) (hp : x.pending = []) (hdialog : h.dialog = none)
    {result : LoadResult} (hclose : x.closeDelivered = true → result = .error true)
    (hloads : ∀ bytes, result = .contents bytes → loads x.delivered = [bytes])
    (mode : String) (env : Environment) :
    Answered 0 (onImageLoaded mode env result x).1 (out ++ (onImageLoaded mode env result x).2) ∨
      ∃ h' image display,
        Open 0 (onImageLoaded mode env result x).1
          (out ++ (onImageLoaded mode env result x).2) h' ∧
        Decoding (onImageLoaded mode env result x).1 h' image display := by
  cases result with
  | error cancelled => exact Or.inl (ho.respond hp (by simp))
  | contents bytes =>
    have hopen : x.closeDelivered = false := by
      cases hd : x.closeDelivered with
      | false => rfl
      | true => simpa using hclose hd
    have ho' := ho.write (fun handle => { handle with image := some bytes }) rfl
    rw [Wallpaper.onImageLoaded, Handled.access_eq ho'.handle]
    cases hpreview : h.showPreview with
    | false =>
      refine Or.inl (ho'.storeAndRespond ?_ rfl ?_ ?_ mode env)
      · simpa using hp
      · simpa using hloads bytes rfl
      · simpa using hopen
    | true =>
      rw [if_neg (by simp)]
      split
      · exact Or.inl (ho'.respond (by simpa using hp) (by simp))
      · next display _ =>
        refine Or.inr ⟨{ h with image := some bytes }, bytes, display, ?_,
          ⟨?_, hdialog, rfl, hpreview, ?_⟩⟩
        · rw [List.append_nil]
          exact ho'.start _
        · simp [Handled.start, hp]
        · simpa [Handled.start] using hloads bytes rfl

/-- A loaded image is stored, or decoded if a preview is wanted. -/
lemma deliver_loaded (ho : Open 0 x out h) (hl : Loading x h) (mode : String)
    (result : LoadResult) (env : Environment) :
    let y := deliver mode (.loaded result env) x
    Answered 0 y.1 (out ++ y.2) ∨
      ∃ h' image display, Open 0 y.1 (out ++ y.2) h' ∧ Decoding y.1 h' image display := by
  dsimp only [deliver]
  rw [Handled.receive_eq hl.pending, isCancelled_eq ho]
  refine (ho.called _ _).onImageLoaded rfl hl.dialog (fun hclose => ?_) (fun bytes hr => ?_) mode env
  · exact if_pos hclose
  · rw [hr, hl.delivered]
    rfl

lemma Open.onDialogReady {image : Bytes} {display : ℕ} (ho : Open 0 x out h)
    (hp : x.pending = []) (himage : h.image = some image) (hpreview : h.showPreview = true)
    (hloads : loads x.delivered = [image]) {result : DecodeResult}
    (hclose : x.closeDelivered = true → result = .error true) :
    Answered 0 (onDialogReady image display result x).1
        (out ++ (onDialogReady image display result x).2) ∨
      ∃ h' dialog,
        Open 0 (onDialogReady image display result x).1
          (out ++ (onDialogReady image display result x).2) h' ∧
        Shown (onDialogReady image display result x).1 h' dialog := by
  cases result with
  | error cancelled =>
    have ho' := ho.write (fun handle => { handle with dialog := none }) rfl
    exact Or.inl (ho'.respond (by simpa using hp) (by simp))
  | pixbuf =>
    have hopen : x.closeDelivered = false := by
      cases hd : x.closeDelivered with
      | false => rfl
      | true => simpa using hclose hd
    have ho' := ho.write (fun handle => { handle with dialog := some ⟨image, display⟩ }) rfl
    refine Or.inr ⟨{ h with dialog := some ⟨image, display⟩ }, ⟨image, display⟩, ?_,
      ⟨?_, rfl, himage, hpreview, ?_, ?_⟩⟩
    · dsimp only [Wallpaper.onDialogReady]
      rw [List.append_nil]
      exact ho'
    · simpa [Wallpaper.onDialogReady] using hp
    · simpa [Wallpaper.onDialogReady] using hloads
    · simpa [Wallpaper.onDialogReady] using hopen

/-- A decoded image is shown. -/
lemma deliver_decoded {image : Bytes} {display : ℕ} (ho : Open 0 x out h)
    (hd : Decoding x h image display) (mode : String) (result : DecodeResult) :
    let y := deliver mode (.decoded result) x
    Answered 0 y.1 (out ++ y.2) ∨
      ∃ h' dialog, Open 0 y.1 (out ++ y.2) h' ∧ Shown y.1 h' dialog := by
  dsimp only [deliver]
  rw [hd.decoding_eq]
  dsimp only
  rw [Handled.receive_eq hd.pending, isCancelled_eq ho]
  refine (ho.called _ _).onDialogReady rfl hd.image_eq hd.preview ?_ fun hclose => if_pos hclose
  rw [loads_append, hd.loads]
  rfl

/-- The response of the dialog answers the request. -/
lemma deliver_dialogResponse {dialog : Dialog} (ho : Open 0 x out h) (hs : Shown x h dialog)
    (mode : String) (response : ℤ) (env : Environment) :
    let y := deliver mode (.dialogResponse response env) x
    Answered 0 y.1 (out ++ y.2) := by
  have ho' := ho.called x.pending (.dialogResponse response env)
  have hloads : loads (x.delivered ++ [.dialogResponse response env]) = [dialog.image] := by
    rw [loads_append, hs.loads]
    rfl
  dsimp only [deliver]
  rw [hs.liveDialog_eq ho]
  dsimp only [onDialogResponse]
  split
  · exact ho'.storeAndRespond hs.pending hs.image_eq hloads hs.notClosed mode env
  · split
    · exact ho'.respond hs.pending (by simp)
    · exact ho'.respond hs.pending (by simp)

/-- The idle callback answers the request. -/
lemma deliver_idle (ho : Open 0 x out h) (hc : Closing x h) (mode : String) :
    Answered 0 (deliver mode .idle x).1 (out ++ (deliver mode .idle x).2) := by
  dsimp only [deliver]
  rw [Handled.receive_eq hc.pending]
  exact (ho.called _ _).sendResponse rfl (by simp [hc.response])

/-! ## The outstanding events -/

/-- Whether an event is outstanding for a request. -/
def awaits (x : WallpaperRequest) : Delivery → Bool
  | .loaded _ _ => .onImageLoaded ∈ x.pending
  | .decoded _ => (decoding x).isSome
  | .dialogResponse _ _ => (liveDialog x).isSome
  | .idle => .sendResponseIdle ∈ x.pending

/-- The number of phases that are still to come for a request. -/
def remaining (x : WallpaperRequest) : ℕ :=
  match x.handle with
  | none => 0
  | some h =>
      if .onImageLoaded ∈ x.pending then 4
      else if (decoding x).isSome then 3
      else if h.dialog.isSome then 2
      else 1

/-- An event that is not outstanding for a request does nothing. -/
lemma deliver_of_not_awaits {d : Delivery} (hd : awaits x d = false) (mode : String) :
    deliver mode d x = (x, []) := by
  cases d with
  | loaded result env => exact Handled.receive_of_notMem (by simpa [awaits] using hd) _ _
  | decoded result =>
    have hnone : decoding x = none := by simpa [awaits] using hd
    dsimp only [deliver]
    rw [hnone]
  | dialogResponse response env =>
    have hnone : liveDialog x = none := by simpa [awaits] using hd
    dsimp only [deliver]
    rw [hnone]
  | idle => exact Handled.receive_of_notMem (by simpa [awaits] using hd) _ _

lemma Loading.remaining_eq (ho : Open n x out h) (hl : Loading x h) : remaining x = 4 := by
  rw [remaining, ho.handle]
  exact if_pos (by simp [hl.pending])

lemma Decoding.remaining_eq {image : Bytes} {display : ℕ} (ho : Open n x out h)
    (hd : Decoding x h image display) : remaining x = 3 := by
  simp [remaining, ho.handle, decoding, hd.pending]

lemma Shown.remaining_eq {dialog : Dialog} (ho : Open n x out h) (hs : Shown x h dialog) :
    remaining x = 2 := by
  simp [remaining, ho.handle, decoding, hs.pending, hs.dialog_eq]

lemma Closing.remaining_eq (ho : Open n x out h) (hc : Closing x h) : remaining x = 1 := by
  simp [remaining, ho.handle, decoding, hc.pending, hc.dialog]

lemma Answered.remaining_eq (ha : Answered n x out) : remaining x = 0 := by
  rw [remaining, ha.handle]

/-! In each phase, only one kind of event is outstanding. -/

lemma Loading.of_awaits (ho : Open n x out h) (hl : Loading x h) {d : Delivery}
    (hd : awaits x d = true) : ∃ result env, d = .loaded result env := by
  cases d with
  | loaded result env => exact ⟨result, env, rfl⟩
  | _ => simp [awaits, decoding, liveDialog, ho.handle, hl.pending, hl.dialog] at hd

lemma Decoding.of_awaits {image : Bytes} {display : ℕ} (ho : Open n x out h)
    (hdec : Decoding x h image display) {d : Delivery} (hd : awaits x d = true) :
    ∃ result, d = .decoded result := by
  cases d with
  | decoded result => exact ⟨result, rfl⟩
  | _ => simp [awaits, liveDialog, ho.handle, hdec.pending, hdec.dialog] at hd

lemma Shown.of_awaits {dialog : Dialog} (hs : Shown x h dialog) {d : Delivery}
    (hd : awaits x d = true) : ∃ response env, d = .dialogResponse response env := by
  cases d with
  | dialogResponse response env => exact ⟨response, env, rfl⟩
  | _ => simp [awaits, decoding, hs.pending] at hd

lemma Closing.of_awaits (ho : Open n x out h) (hc : Closing x h) {d : Delivery}
    (hd : awaits x d = true) : d = .idle := by
  cases d with
  | idle => rfl
  | _ => simp [awaits, decoding, liveDialog, ho.handle, hc.pending, hc.dialog] at hd

lemma Answered.not_awaits (ha : Answered n x out) (d : Delivery) : awaits x d = false := by
  cases d <;> simp [awaits, decoding, liveDialog, ha.handle, ha.pending]

/-- An outstanding event answers a request or leads it to a later phase. -/
lemma Settled.deliver_of_awaits (hs : Settled 0 x out) (mode : String) {d : Delivery}
    (hd : awaits x d = true) :
    Settled 0 (deliver mode d x).1 (out ++ (deliver mode d x).2) ∧
      remaining (deliver mode d x).1 < remaining x := by
  cases hs with
  | loading h ho hl =>
    obtain ⟨result, env, rfl⟩ := hl.of_awaits ho hd
    rw [hl.remaining_eq ho]
    rcases deliver_loaded ho hl mode result env with ha | ⟨h', image, display, ho', hd'⟩
    · exact ⟨.answered ha, by rw [ha.remaining_eq]; omega⟩
    · exact ⟨.decoding h' image display ho' hd', by rw [hd'.remaining_eq ho']; omega⟩
  | decoding h image display ho hdec =>
    obtain ⟨result, rfl⟩ := hdec.of_awaits ho hd
    rw [hdec.remaining_eq ho]
    rcases deliver_decoded ho hdec mode result with ha | ⟨h', dialog, ho', hs'⟩
    · exact ⟨.answered ha, by rw [ha.remaining_eq]; omega⟩
    · exact ⟨.shown h' dialog ho' hs', by rw [hs'.remaining_eq ho']; omega⟩
  | shown h dialog ho hsh =>
    obtain ⟨response, env, rfl⟩ := hsh.of_awaits hd
    rw [hsh.remaining_eq ho]
    have ha := deliver_dialogResponse ho hsh mode response env
    exact ⟨.answered ha, by rw [Answered.remaining_eq ha]; omega⟩
  | closing h ho hc =>
    obtain rfl := hc.of_awaits ho hd
    rw [hc.remaining_eq ho]
    have ha := deliver_idle ho hc mode
    exact ⟨.answered ha, by rw [ha.remaining_eq]; omega⟩
  | answered ha =>
    rw [ha.not_awaits] at hd
    exact absurd hd (by simp)

lemma Settled.deliver (hs : Settled 0 x out) (mode : String) (d : Delivery) :
    Settled 0 (deliver mode d x).1 (out ++ (deliver mode d x).2) := by
  cases hd : awaits x d with
  | true => exact (hs.deliver_of_awaits mode hd).1
  | false =>
    rw [deliver_of_not_awaits hd, List.append_nil]
    exact hs

lemma keeps_settled (mode : String) :
    (service mode).Keeps (fun _ _ => True) (fun _ _ => True) (Settled 0) where
  call _ _ _ _ hcall _ := Settled.call hcall
  close _ _ hreg hs := hs.close hreg
  deliver d _ _ hs _ := hs.deliver mode d

/-- Every request of every run is in one of the phases or has been answered. -/
theorem settled_run (mode : String) (evs : List Event) :
    ((service mode).machine.run evs).requests.Each (Settled 0) :=
  Service.each_run (keeps_settled mode) (Service.along_trivial evs)

end XappPortal.Wallpaper
