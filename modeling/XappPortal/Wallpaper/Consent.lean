/-
# Answers and consent

What the caller of `SetWallpaperURI` and the user may rely on.

* The caller gets one answer: as long as there is none, exactly one event is outstanding that
  leads the request on, and a closed request is not answered with success
  (`wallpapers_answered_once`).
* The user decides: an image is stored at most once for a request, only while the request has not
  been closed, and, if the call asks for a preview, only when the user applies the dialog that shows
  the image; what is stored are the bytes that were loaded (`wallpaper_consent`).
-/
import XappPortal.Wallpaper.Phases

namespace XappPortal.Wallpaper

open XappPortal.Lib

variable {n : ℕ} {x : WallpaperRequest} {out : List Message}

/-! ## One answer -/

/-- The number of outstanding events: pending callbacks, and a dialog that can respond. -/
def outstanding (x : WallpaperRequest) : ℕ := x.pending.length + (liveDialog x).toList.length

/-- What holds of a request together with the messages that were sent for it. -/
structure AnsweredOnce (mode : String) (x : WallpaperRequest) (out : List Message) : Prop where
  /-- The invocation is completed once, when the handle is freed. -/
  answered : (answers out).length = if x.handle = none then 1 else 0
  /-- Exactly one event is outstanding for a request that has not been answered, and nothing
  refers to the handle of one that has. -/
  outstanding : outstanding x = if x.handle = none then 0 else 1
  /-- The outstanding event answers the request or leads it to a later phase. -/
  advances : ∀ d, awaits x d = true → remaining (deliver mode d x).1 < remaining x
  unregistered : x.handle = none → x.request.registered = false
  safe : x.useAfterFree = false ∧ x.request.useAfterFree = false
  refused : x.closeDelivered = true → 0 ∉ answers out

/-- A request that has not been answered, with one event outstanding. -/
lemma Open.answeredOnce {h : WallpaperDialogHandle} (ho : Open 0 x out h) {mode : String}
    (hout : outstanding x = 1)
    (hadv : ∀ d, awaits x d = true → remaining (deliver mode d x).1 < remaining x) :
    AnsweredOnce mode x out where
  answered := by rw [ho.answers, ho.handle]; rfl
  outstanding := by rw [hout, ho.handle]; rfl
  advances := hadv
  unregistered hnone := by simp [ho.handle] at hnone
  safe := ⟨ho.safe, ho.owned.useAfterFree⟩
  refused _ := by simp [ho.answers]

lemma Settled.answeredOnce (hs : Settled 0 x out) (mode : String) : AnsweredOnce mode x out := by
  have hadv : ∀ d, awaits x d = true → remaining (Wallpaper.deliver mode d x).1 < remaining x :=
    fun d hd => (hs.deliver_of_awaits mode hd).2
  cases hs with
  | loading h ho hl =>
    exact ho.answeredOnce (by simp [outstanding, liveDialog, ho.handle, hl.pending, hl.dialog]) hadv
  | decoding h image display ho hd =>
    exact ho.answeredOnce (by simp [outstanding, liveDialog, ho.handle, hd.pending, hd.dialog]) hadv
  | shown h dialog ho hsh =>
    exact ho.answeredOnce (by simp [outstanding, liveDialog, ho.handle, hsh.pending, hsh.dialog_eq])
      hadv
  | closing h ho hc =>
    exact ho.answeredOnce (by simp [outstanding, liveDialog, ho.handle, hc.pending, hc.dialog]) hadv
  | answered ha =>
    obtain ⟨response, hans, hzero⟩ := ha.answers
    exact {
      answered := by rw [hans, ha.handle]; rfl
      outstanding := by simp [outstanding, liveDialog, ha.handle, ha.pending]
      advances := hadv
      unregistered := fun _ => ha.unregistered
      safe := ⟨ha.safe, ha.owned.useAfterFree⟩
      refused := fun hclose hmem => by
        obtain rfl : 0 = response := by simpa [hans] using hmem
        simp [hclose] at hzero }

/-- **Every wallpaper request is answered once**: until then exactly one event is outstanding that
leads it on, and afterwards nothing can reach it or its handle. -/
theorem wallpapers_answered_once (mode : String) (evs : List Event) :
    ((service mode).machine.run evs).requests.Each (AnsweredOnce mode) :=
  fun i x hx => (settled_run mode evs i x hx).answeredOnce mode

/-! ## Consent -/

/-- The conditions under which `store_wallpaper` may run for a request and write some bytes: the
request has not been closed, and either the bytes are being delivered by its load and it wants no
preview, or they have been, and the user applies the dialog that was decoded from them. -/
structure Consented (x : WallpaperRequest) (d : Delivery) (bytes : Bytes) : Prop where
  notClosed : x.closeDelivered = false
  decided : ∃ h, x.handle = some h ∧
    ((h.showPreview = false ∧ .onImageLoaded ∈ x.pending ∧ loads x.delivered = [] ∧
        ∃ env, d = .loaded (.contents bytes) env) ∨
      (h.showPreview = true ∧ loads x.delivered = [bytes] ∧ h.image = some bytes ∧
        (∃ dialog, h.dialog = some dialog ∧ dialog.image = bytes) ∧
        ∃ env, d = .dialogResponse gtkResponseApply env))

namespace Open

variable {h : WallpaperDialogHandle}

lemma stores_respond (ho : Open n x out h) (response : ℕ) :
    Wallpaper.stores (Wallpaper.respond response x).2 = [] := by
  have ho' := ho.write (fun handle => { handle with response := response }) rfl
  rw [Wallpaper.respond, ho'.sendResponse_eq]
  rfl

lemma stores_storeAndRespond (ho : Open n x out h) {bytes : Bytes} (himage : h.image = some bytes)
    (mode : String) (env : Environment) :
    Wallpaper.stores (Wallpaper.storeAndRespond mode env x).2 = [bytes] := by
  rw [Wallpaper.storeAndRespond, Handled.access_eq ho.handle, stores_append, ho.stores_respond,
    (storeWallpaper_sends mode env h).2, himage]
  rfl

/-- The end of a load stores its bytes, if no preview is wanted. -/
lemma stores_onImageLoaded (ho : Open n x out h) (mode : String) (env : Environment)
    (result : LoadResult) :
    Wallpaper.stores (Wallpaper.onImageLoaded mode env result x).2 = [] ∨
      ∃ bytes, Wallpaper.stores (Wallpaper.onImageLoaded mode env result x).2 = [bytes] ∧
        result = .contents bytes ∧ h.showPreview = false := by
  cases result with
  | error cancelled => exact Or.inl (ho.stores_respond 2)
  | contents bytes =>
    have ho' := ho.write (fun handle => { handle with image := some bytes }) rfl
    rw [Wallpaper.onImageLoaded, Handled.access_eq ho'.handle]
    cases hpreview : h.showPreview with
    | false => exact Or.inr ⟨bytes, ho'.stores_storeAndRespond rfl mode env, rfl, rfl⟩
    | true =>
      refine Or.inl ?_
      rw [if_neg (by simp)]
      split
      · exact ho'.stores_respond 2
      · rfl

/-- The response of a dialog stores the image of the handle, if it is to apply. -/
lemma stores_onDialogResponse (ho : Open n x out h) {bytes : Bytes} (himage : h.image = some bytes)
    (mode : String) (env : Environment) (response : ℤ) :
    Wallpaper.stores (Wallpaper.onDialogResponse mode env response x).2
      = if response = gtkResponseApply then [bytes] else [] := by
  rw [Wallpaper.onDialogResponse]
  split
  · exact ho.stores_storeAndRespond himage mode env
  · split
    · exact ho.stores_respond 1
    · exact ho.stores_respond 2

end Open

/-- A delivery stores nothing without consent. -/
lemma Settled.stores_deliver (hs : Settled 0 x out) (mode : String) (d : Delivery) :
    stores (Wallpaper.deliver mode d x).2 = [] ∨
      ∃ bytes, stores (Wallpaper.deliver mode d x).2 = [bytes] ∧ Consented x d bytes := by
  cases hd : awaits x d with
  | false =>
    rw [deliver_of_not_awaits hd]
    exact Or.inl rfl
  | true =>
    cases hs with
    | loading h ho hl =>
      obtain ⟨result, env, rfl⟩ := hl.of_awaits ho hd
      dsimp only [Wallpaper.deliver]
      rw [Handled.receive_eq hl.pending, isCancelled_eq ho]
      rcases (ho.called _ _).stores_onImageLoaded mode env _ with hnone | ⟨bytes, hst, hres, hprev⟩
      · exact Or.inl hnone
      · -- the load has not failed, so that it was not cancelled
        obtain ⟨hclose, rfl⟩ : x.closeDelivered = false ∧ result = .contents bytes := by
          cases hclose : x.closeDelivered <;> simp_all
        refine Or.inr ⟨bytes, hst, hclose, h, ho.handle, Or.inl ⟨hprev, ?_, ?_, env, rfl⟩⟩
        · simp [hl.pending]
        · rw [hl.delivered]
          rfl
    | decoding h image display ho hdec =>
      obtain ⟨result, rfl⟩ := hdec.of_awaits ho hd
      dsimp only [Wallpaper.deliver]
      rw [hdec.decoding_eq]
      dsimp only
      rw [Handled.receive_eq hdec.pending]
      refine Or.inl ?_
      cases (if isCancelled x = true then DecodeResult.error true else result) with
      | error cancelled =>
        exact ((ho.called _ _).write (fun handle => { handle with dialog := none })
          rfl).stores_respond 2
      | pixbuf => rfl
    | shown h dialog ho hsh =>
      obtain ⟨response, env, rfl⟩ := hsh.of_awaits hd
      have ho' := ho.called x.pending (.dialogResponse response env)
      dsimp only [Wallpaper.deliver]
      rw [hsh.liveDialog_eq ho]
      dsimp only
      rw [ho'.stores_onDialogResponse hsh.image_eq]
      split
      · next hr =>
        refine Or.inr ⟨dialog.image, rfl, hsh.notClosed, h, ho.handle, Or.inr ?_⟩
        exact ⟨hsh.preview, hsh.loads, hsh.image_eq, ⟨dialog, hsh.dialog_eq, rfl⟩, env, by rw [hr]⟩
      · exact Or.inl rfl
    | closing h ho hc =>
      obtain rfl := hc.of_awaits ho hd
      dsimp only [Wallpaper.deliver]
      rw [Handled.receive_eq hc.pending, Wallpaper.sendResponseIdle,
        (ho.called _ _).sendResponse_eq]
      exact Or.inl rfl
    | answered ha =>
      rw [ha.not_awaits] at hd
      exact absurd hd (by simp)

lemma Settled.open_of_registered (hs : Settled 0 x out) (hreg : x.request.registered = true) :
    ∃ h, Open 0 x out h := by
  cases hs with
  | loading h ho _ => exact ⟨h, ho⟩
  | decoding h _ _ ho _ => exact ⟨h, ho⟩
  | shown h _ ho _ => exact ⟨h, ho⟩
  | closing h ho _ => exact ⟨h, ho⟩
  | answered ha =>
    rw [ha.unregistered] at hreg
    exact absurd hreg (by simp)

/-- A `Close` call stores nothing. -/
lemma Settled.stores_close (hs : Settled 0 x out) (hreg : x.request.registered = true) :
    stores (Handled.dispatchClose handleClose .completeClose x).2 = [] := by
  obtain ⟨h, ho⟩ := hs.open_of_registered hreg
  rw [dispatchClose_eq ho hreg]
  rfl

lemma Settled.stores_length_le (hs : Settled 0 x out) : (stores out).length ≤ 1 := by
  cases hs with
  | loading h ho _ => simp [ho.stores]
  | decoding h _ _ ho _ => simp [ho.stores]
  | shown h _ ho _ => simp [ho.stores]
  | closing h ho _ => simp [ho.stores]
  | answered ha =>
    rcases ha.stores with hst | ⟨bytes, hst, -⟩ <;> simp [hst]

lemma stores_length_le_run (mode : String) (evs : List Event) (i : ℕ) :
    (stores (((service mode).machine.run evs).requests.outputsOf i)).length ≤ 1 := by
  cases hx : ((service mode).machine.run evs).requests.objects[i]? with
  | none =>
    rw [Ensemble.outputsOf_of_length_le (List.getElem?_eq_none_iff.mp hx)]
    exact Nat.zero_le 1
  | some x => exact (settled_run mode evs i x hx).stores_length_le

/-! ### The option of the call -/

/-- The option `show-preview` that the handle has kept. -/
abbrev KeepsPreview (x y : WallpaperRequest) : Prop := x.Keeps WallpaperDialogHandle.showPreview y

namespace KeepsPreview

lemma respond (response : ℕ) : KeepsPreview x (Wallpaper.respond response x).1 := by
  have hset : KeepsPreview x (x.write fun handle => { handle with response := response }) :=
    .write fun _ => rfl
  exact hset.trans (.sendResponse _)

lemma storeAndRespond (mode : String) (env : Environment) :
    KeepsPreview x (Wallpaper.storeAndRespond mode env x).1 :=
  .access fun _ => respond _

lemma onImageLoaded (mode : String) (env : Environment) (result : LoadResult) :
    KeepsPreview x (Wallpaper.onImageLoaded mode env result x).1 := by
  cases result with
  | error cancelled => exact respond 2
  | contents bytes =>
    have hloaded : KeepsPreview x (x.write fun handle => { handle with image := some bytes }) :=
      .write fun _ => rfl
    refine hloaded.trans (.access fun handle => ?_)
    split
    · exact storeAndRespond mode env
    · split
      · exact respond 2
      · exact .of_handle rfl

lemma onDialogReady (image : Bytes) (display : ℕ) (result : DecodeResult) :
    KeepsPreview x (Wallpaper.onDialogReady image display result x).1 := by
  cases result with
  | error cancelled =>
    have hnone : KeepsPreview x (x.write fun handle => { handle with dialog := none }) :=
      .write fun _ => rfl
    exact hnone.trans (respond 2)
  | pixbuf => exact .write fun _ => rfl

lemma onDialogResponse (mode : String) (env : Environment) (response : ℤ) :
    KeepsPreview x (Wallpaper.onDialogResponse mode env response x).1 := by
  rw [Wallpaper.onDialogResponse]
  split
  · exact storeAndRespond mode env
  · split
    · exact respond 1
    · exact respond 2

lemma deliver (mode : String) (d : Delivery) :
    KeepsPreview x (Wallpaper.deliver mode d x).1 := by
  cases d with
  | loaded result env => exact .receive fun _ => onImageLoaded mode env _
  | decoded result =>
    dsimp only [Wallpaper.deliver]
    split
    · exact .of_handle rfl
    · exact .receive fun _ => onDialogReady _ _ _
  | dialogResponse response env =>
    dsimp only [Wallpaper.deliver]
    split
    · exact .of_handle rfl
    · have hcalled : KeepsPreview x
          { x with delivered := x.delivered ++ [.dialogResponse response env] } := .of_handle rfl
      exact hcalled.trans (onDialogResponse mode env response)
  | idle => exact .receive fun _ => .sendResponse _

lemma handleClose : KeepsPreview x (Wallpaper.handleClose x).1 := by
  refine .access fun handle => ?_
  have hcancelled : KeepsPreview x
      (x.write fun handle => { handle with cancellable := ⟨true⟩ }) := .write fun _ => rfl
  dsimp only
  split
  · have hdestroyed : KeepsPreview x
        ((x.write fun handle => { handle with cancellable := ⟨true⟩ }).write
          fun handle => { handle with dialog := none, response := 2 }) :=
      hcancelled.trans (.write fun _ => rfl)
    exact hdestroyed.trans (.of_handle rfl)
  · exact hcancelled

end KeepsPreview

/-- The handle of a request wants a preview exactly if its call does. -/
def PreviewAsked (n : SetWallpaperCall) (x : WallpaperRequest) : Prop :=
  ∀ h, x.handle = some h → h.showPreview = n.showPreview.getD false

lemma PreviewAsked.keep {c : SetWallpaperCall} {y : WallpaperRequest} (h : PreviewAsked c x)
    (hxy : KeepsPreview x y) : PreviewAsked c y := by
  intro h' hh'
  obtain ⟨handle, hh, heq⟩ := hxy h' hh'
  exact heq.symm.trans (h handle hh)

lemma keepsOrigin_previewAsked (mode : String) :
    (service mode).KeepsOrigin fun n x _ => PreviewAsked n x where
  accepts n ok := ⟨_, _, rfl⟩
  call n ok x out hcall := by
    obtain ⟨rfl, -⟩ : (handleSetWallpaperUri n ok).1 = x ∧
        (handleSetWallpaperUri n ok).2 = out := by
      simpa [service, Prod.ext_iff] using hcall
    intro h hh
    obtain rfl := Option.some.inj hh
    rfl
  close _ _ _ h := h.keep (.dispatchClose fun _ => KeepsPreview.handleClose)
  deliver _ d _ _ h := h.keep (KeepsPreview.deliver mode d)

/-- Every request of a run comes from a call, and wants a preview exactly if that does. -/
lemma previewAsked_run (mode : String) (evs : List Event) (i : ℕ) {x : WallpaperRequest}
    (hx : ((service mode).machine.run evs).requests.objects[i]? = some x) :
    ∃ n, (Service.calls evs)[i]? = some n ∧ PreviewAsked n x := by
  obtain ⟨hlength, heach⟩ := Service.origin_run (keepsOrigin_previewAsked mode) evs
  have hlt : i < (Service.calls evs).length := by
    rw [← hlength]
    exact (List.getElem?_eq_some_iff.mp hx).1
  have hcall := List.getElem?_eq_getElem hlt
  exact ⟨_, hcall, heach i x hx _ hcall⟩

/-! ### All runs -/

/-- **An image is stored for a request at most once, and only with consent**: in every run, a step
that stores something for a request delivers to it what it waits for, in a state in which the
request was not closed and the load has returned exactly the bytes that are stored; and whether the
user has to apply a preview is what the option of the call says. -/
theorem wallpaper_consent (mode : String) (evs : List Event) (e : Event) (i : ℕ) :
    let s := (service mode).machine.run evs
    let s' := (service mode).machine.run (evs ++ [e])
    (stores (s'.requests.outputsOf i)).length ≤ 1 ∧
    (stores (s'.requests.outputsOf i) = stores (s.requests.outputsOf i) ∨
      ∃ n d x bytes, (Service.calls evs)[i]? = some n ∧ e = .deliver i d ∧
        s.requests.objects[i]? = some x ∧ PreviewAsked n x ∧
        stores (s'.requests.outputsOf i) = [bytes] ∧ Consented x d bytes) := by
  intro s s'
  have hlength : (stores (s'.requests.outputsOf i)).length ≤ 1 :=
    stores_length_le_run mode (evs ++ [e]) i
  refine ⟨hlength, ?_⟩
  have hs' : s' = (service mode).step s e := Machine.run_concat _ evs e
  rw [hs']
  rcases Service.outputsOf_step_cases (S := service mode) s e i with
    hsame | ⟨c, ok, x, hcall, hnew⟩ | ⟨x, hx, hreg, hclose⟩ | ⟨d, x, rfl, hx, hdeliver⟩
  · exact Or.inl (by rw [hsame])
  · -- a new request is loading, for which nothing has been stored
    obtain ⟨rfl, hout⟩ : (handleSetWallpaperUri c ok).1 = x ∧
        (handleSetWallpaperUri c ok).2 = ((service mode).step s e).requests.outputsOf i := by
      simpa [service, Prod.ext_iff] using hcall
    rw [← hout, hnew]
    exact Or.inl rfl
  · have hsettled := settled_run mode evs i x hx
    refine Or.inl ?_
    rw [hclose, stores_append]
    exact (congrArg _ (hsettled.stores_close hreg)).trans (List.append_nil _)
  · have hsettled := settled_run mode evs i x hx
    rcases hsettled.stores_deliver mode d with hnone | ⟨bytes, hst, hconsent⟩
    · refine Or.inl ?_
      rw [hdeliver, stores_append]
      exact (congrArg _ hnone).trans (List.append_nil _)
    · obtain ⟨n, hn, hasked⟩ := previewAsked_run mode evs i hx
      refine Or.inr ⟨n, d, x, bytes, hn, rfl, hx, hasked, ?_, hconsent⟩
      have hall : stores (((service mode).step s (.deliver i d)).requests.outputsOf i)
          = stores (s.requests.outputsOf i) ++ [bytes] := by
        rw [hdeliver, stores_append]
        exact congrArg _ hst
      -- nothing had been stored before
      rw [hs', hall, List.length_append, List.length_singleton] at hlength
      have hnil : stores (s.requests.outputsOf i) = [] :=
        List.eq_nil_of_length_eq_zero (by omega)
      rw [hall, hnil, List.nil_append]

end XappPortal.Wallpaper
