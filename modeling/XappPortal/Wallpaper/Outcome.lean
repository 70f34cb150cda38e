/-
# What the answers say

The answer to `SetWallpaperURI` and the desktop of the user go together: over all the requests of a
run, the desktop changes only in a step that answers a request, the answer is 0 exactly when the
image that the caller's URI has yielded has been set in that step, 1 exactly when the user has
dismissed the preview, and 2 otherwise (`wallpaper_outcomes`).  In Cinnamon and MATE the settings
then name the stored image; in Xfce it is stored and the program that sets it has been started, and
what comes of that the portal does not wait for.
-/
import XappPortal.Wallpaper.Consent
import XappPortal.Wallpaper.Effects

namespace XappPortal.Wallpaper

open XappPortal XappPortal.Lib

/-! ## A wallpaper that is set -/

/-- All that is done for the wallpaper in a desktop mode succeeds: storing the image, and then the
two writes of Cinnamon and MATE, or in Xfce the start of the program. -/
def Succeeds (mode : String) (env : Environment) : Bool :=
  env.stored && env.uri.isSome && env.native &&
    if cinnamonMode mode || mateMode mode then env.stringSet && env.enumSet
    else xfceMode mode && env.spawned

/-- The desktop after the image was set: it is stored, and in Cinnamon and MATE both keys are
written; in Xfce the program that is to set it has been started, and no more than that. -/
def Desktop.withWallpaper (d : Desktop) (mode : String) (env : Environment) (image : Bytes) :
    Desktop :=
  { d.halfStored mode env image with
    enums :=
      if cinnamonMode mode then
        Function.update d.enums ("org.cinnamon.desktop.background", "picture-options")
          cinnamonZoomedWallpaperEnum
      else if mateMode mode then
        Function.update d.enums ("org.mate.background", "picture-options") mateZoomedWallpaperEnum
      else d.enums
    started :=
      if cinnamonMode mode || mateMode mode then d.started
      else d.started ++ [["xfce4-set-wallpaper", env.path]] }

section Store

variable {mode : String} {env : Environment} {handle : WallpaperDialogHandle} {d : Desktop}

lemma setGsettings_fst {uri : String} (hstored : env.stored = true) (huri : env.uri = some uri) :
    (setGsettings mode uri env).1 = Succeeds mode env := by
  have hback : ∀ schema key value zoomed,
      (setBackground schema key value zoomed env).1 = (env.stringSet && env.enumSet) := by
    intro schema key value zoomed
    rw [setBackground]
    cases env.stringSet <;> rfl
  rw [setGsettings, Succeeds, hstored, huri]
  cases env.native with
  | false => simp
  | true =>
    cases hcinnamon : cinnamonMode mode with
    | true => simp [hback]
    | false =>
      cases hmate : mateMode mode with
      | true => simp [hback]
      | false => cases hxfce : xfceMode mode <;> simp

/-- `store_wallpaper` reports success exactly when all of it succeeds. -/
lemma storeWallpaper_fst :
    (storeWallpaper mode env handle).1 = if Succeeds mode env then 0 else 2 := by
  rw [storeWallpaper]
  cases hstored : env.stored with
  | false => simp [Succeeds, hstored]
  | true =>
    cases huri : env.uri with
    | none => simp [Succeeds, huri]
    | some uri => simp [setGsettings_fst hstored huri]

/-- A success has set the image. -/
lemma store_of_succeeds (h : Succeeds mode env = true) :
    d.store mode env handle = d.withWallpaper mode env (handle.image.getD []) := by
  have hparts := h
  simp only [Succeeds, Bool.and_eq_true, Option.isSome_iff_exists] at hparts
  obtain ⟨⟨⟨hstored, uri, huri⟩, hnative⟩, hsettings⟩ := hparts
  rw [Desktop.store, storeWallpaper]
  simp only [hstored, huri, Bool.not_true, Bool.false_eq_true, if_false, Desktop.applyAll_cons,
    setGsettings, hnative]
  cases hcinnamon : cinnamonMode mode with
  | true =>
    simp only [hcinnamon, Bool.true_or, if_true, Bool.and_eq_true] at hsettings
    obtain ⟨hstring, henum⟩ := hsettings
    simp [setBackground, hstring, henum, Desktop.apply, Desktop.withWallpaper, Desktop.halfStored,
      pictureWritten, huri, hnative, hcinnamon]
  | false =>
    cases hmate : mateMode mode with
    | true =>
      simp only [hmate, Bool.or_true, if_true, Bool.and_eq_true] at hsettings
      obtain ⟨hstring, henum⟩ := hsettings
      simp [setBackground, hstring, henum, Desktop.apply, Desktop.withWallpaper,
        Desktop.halfStored, pictureWritten, huri, hnative, hcinnamon, hmate]
    | false =>
      simp only [hcinnamon, hmate, Bool.or_false, Bool.false_eq_true, if_false,
        Bool.and_eq_true] at hsettings
      obtain ⟨hxfce, hspawned⟩ := hsettings
      simp [hxfce, hspawned, Desktop.apply, Desktop.withWallpaper, Desktop.halfStored,
        pictureWritten, huri, hcinnamon, hmate]

end Store

/-! ## What a delivery sends -/

/-- What a callback finds in its environment when a result is delivered. -/
def Delivery.environment : Delivery → Option Environment
  | .loaded _ env | .dialogResponse _ env => some env
  | .decoded _ | .idle => none

/-- The user cancels the preview or closes its window. -/
def Dismisses (x : WallpaperRequest) (d : Delivery) : Prop :=
  (liveDialog x).isSome = true ∧
    ∃ env, d = .dialogResponse gtkResponseCancel env ∨ d = .dialogResponse gtkResponseDeleteEvent env

/-- What is sent when `d` is delivered to the request. -/
inductive Sends (mode : String) (x : WallpaperRequest) (d : Delivery) (sent : List Message) : Prop
  | nothing (hsent : sent = [])
  /-- The image is stored, and the answer is the result of that. -/
  | stored (bytes : Bytes) (env : Environment) (h : WallpaperDialogHandle)
      (hconsent : Consented x d bytes) (henv : d.environment = some env)
      (himage : h.image = some bytes)
      (hsent : sent = (storeWallpaper mode env h).2 ++
        [.completeSetWallpaperUri (storeWallpaper mode env h).1])
  | dismissed (hdismiss : Dismisses x d) (hsent : sent = [.completeSetWallpaperUri 1])
  | failed (hconsent : ∀ bytes, ¬ Consented x d bytes) (hdismiss : ¬ Dismisses x d)
      (hsent : sent = [.completeSetWallpaperUri 2])

section Sends

variable {mode : String} {n : ℕ} {x : WallpaperRequest} {out : List Message} {d : Delivery}
  {h : WallpaperDialogHandle}

lemma Open.respond_sends (ho : Open n x out h) (response : ℕ) :
    (Wallpaper.respond response x).2 = [.completeSetWallpaperUri response] := by
  have ho' := ho.write (fun handle => { handle with response := response }) rfl
  rw [Wallpaper.respond, ho'.sendResponse_eq]

lemma Open.storeAndRespond_sends (ho : Open n x out h) (mode : String) (env : Environment) :
    (Wallpaper.storeAndRespond mode env x).2
      = (storeWallpaper mode env h).2 ++
        [.completeSetWallpaperUri (storeWallpaper mode env h).1] := by
  rw [Wallpaper.storeAndRespond, Handled.access_eq ho.handle]
  dsimp only
  rw [ho.respond_sends]

/-- Only what is being delivered can be consented to. -/
lemma Consented.eq_loaded {bytes : Bytes} {result : LoadResult} {env : Environment}
    (hc : Consented x (.loaded result env) bytes) (hh : x.handle = some h) :
    x.closeDelivered = false ∧ h.showPreview = false ∧ result = .contents bytes := by
  obtain ⟨h', hh', ⟨hprev, -, -, env', heq⟩ | ⟨-, -, -, -, env', heq⟩⟩ := hc.decided
  · obtain rfl : h' = h := Option.some.inj (hh'.symm.trans hh)
    cases heq
    exact ⟨hc.notClosed, hprev, rfl⟩
  · cases heq

lemma Consented.response_eq {bytes : Bytes} {response : ℤ} {env : Environment}
    (hc : Consented x (.dialogResponse response env) bytes) : response = gtkResponseApply := by
  obtain ⟨h', -, ⟨-, -, -, env', heq⟩ | ⟨-, -, -, -, env', heq⟩⟩ := hc.decided
  · cases heq
  · cases heq
    rfl

/-- Consent is to one image. -/
lemma Consented.unique {bytes bytes' : Bytes} (hc : Consented x d bytes)
    (hc' : Consented x d bytes') : bytes = bytes' := by
  obtain ⟨h, hh, hdecided⟩ := hc.decided
  obtain ⟨h', hh', hdecided'⟩ := hc'.decided
  obtain rfl : h = h' := Option.some.inj (hh.symm.trans hh')
  rcases hdecided with ⟨-, -, -, env, rfl⟩ | ⟨-, -, himage, -, env, rfl⟩
  · rcases hdecided' with ⟨-, -, -, env', heq⟩ | ⟨-, -, -, -, env', heq⟩
    · cases heq
      rfl
    · cases heq
  · rcases hdecided' with ⟨-, -, -, env', heq⟩ | ⟨-, -, himage', -, env', heq⟩
    · cases heq
    · exact Option.some.inj (himage.symm.trans himage')

lemma not_consented_decoded {bytes : Bytes} {result : DecodeResult} :
    ¬ Consented x (.decoded result) bytes := by
  intro hc
  obtain ⟨h', -, ⟨-, -, -, env', heq⟩ | ⟨-, -, -, -, env', heq⟩⟩ := hc.decided <;> cases heq

lemma not_consented_idle {bytes : Bytes} : ¬ Consented x .idle bytes := by
  intro hc
  obtain ⟨h', -, ⟨-, -, -, env', heq⟩ | ⟨-, -, -, -, env', heq⟩⟩ := hc.decided <;> cases heq

lemma Dismisses.eq_dialogResponse (hd : Dismisses x d) :
    ∃ response env, d = .dialogResponse response env ∧
      (response = gtkResponseCancel ∨ response = gtkResponseDeleteEvent) := by
  obtain ⟨-, env, rfl | rfl⟩ := hd
  · exact ⟨_, env, rfl, Or.inl rfl⟩
  · exact ⟨_, env, rfl, Or.inr rfl⟩

/-- The end of a load. -/
lemma Loading.sends (ho : Open 0 x out h) (hl : Loading x h) (mode : String) (result : LoadResult)
    (env : Environment) :
    Sends mode x (.loaded result env) (Wallpaper.deliver mode (.loaded result env) x).2 := by
  have hdismiss : ¬ Dismisses x (.loaded result env) := by
    intro hd
    obtain ⟨response, env', heq, -⟩ := hd.eq_dialogResponse
    cases heq
  dsimp only [Wallpaper.deliver]
  rw [Handled.receive_eq hl.pending, isCancelled_eq ho]
  have ho' := ho.called [] (.loaded (if x.closeDelivered = true then .error true else result) env)
  by_cases hok : x.closeDelivered = false ∧ ∃ bytes, result = .contents bytes
  · obtain ⟨hopen, bytes, rfl⟩ := hok
    rw [hopen] at ho' ⊢
    have ho'' := ho'.write (fun handle => { handle with image := some bytes }) rfl
    rw [if_neg (by simp), Wallpaper.onImageLoaded]
    rw [if_neg (by simp)] at ho''
    rw [Handled.access_eq ho''.handle]
    cases hpreview : h.showPreview with
    | false =>
      refine .stored bytes env { h with image := some bytes } ⟨hopen, h, ho.handle, Or.inl ?_⟩ rfl
        rfl ?_
      · exact ⟨hpreview, by simp [hl.pending], by rw [hl.delivered]; rfl, env, rfl⟩
      · exact ho''.storeAndRespond_sends mode env
    | true =>
      have hconsent : ∀ b, ¬ Consented x (.loaded (.contents bytes) env) b := by
        intro b hc
        have := (hc.eq_loaded ho.handle).2.1
        rw [hpreview] at this
        exact absurd this (by simp)
      rw [if_neg (by simp)]
      split
      · exact .failed hconsent hdismiss (ho''.respond_sends 2)
      · exact .nothing rfl
  · have hconsent : ∀ b, ¬ Consented x (.loaded result env) b := fun b hc =>
      hok ⟨(hc.eq_loaded ho.handle).1, b, (hc.eq_loaded ho.handle).2.2⟩
    have herror : ∃ cancelled, (if x.closeDelivered = true then LoadResult.error true else result)
        = .error cancelled := by
      cases hclose : x.closeDelivered with
      | true => exact ⟨true, rfl⟩
      | false =>
        cases hresult : result with
        | error cancelled => exact ⟨cancelled, rfl⟩
        | contents bytes => exact absurd ⟨hclose, bytes, hresult⟩ hok
    obtain ⟨cancelled, herror⟩ := herror
    rw [herror] at ho' ⊢
    exact .failed hconsent hdismiss (ho'.respond_sends 2)

/-- The end of a decoding. -/
lemma Decoding.sends {image : Bytes} {display : ℕ} (ho : Open 0 x out h)
    (hdec : Decoding x h image display) (mode : String) (result : DecodeResult) :
    Sends mode x (.decoded result) (Wallpaper.deliver mode (.decoded result) x).2 := by
  dsimp only [Wallpaper.deliver]
  rw [hdec.decoding_eq]
  dsimp only
  rw [Handled.receive_eq hdec.pending]
  cases (if isCancelled x = true then DecodeResult.error true else result) with
  | error cancelled =>
    refine .failed (fun _ => not_consented_decoded) (fun hd => ?_)
      (((ho.called _ _).write (fun handle => { handle with dialog := none }) rfl).respond_sends 2)
    obtain ⟨response, env, heq, -⟩ := hd.eq_dialogResponse
    cases heq
  | pixbuf => exact .nothing rfl

/-- The response of the dialog. -/
lemma Shown.sends {dialog : Dialog} (ho : Open 0 x out h) (hsh : Shown x h dialog) (mode : String)
    (response : ℤ) (env : Environment) :
    Sends mode x (.dialogResponse response env)
      (Wallpaper.deliver mode (.dialogResponse response env) x).2 := by
  have ho' := ho.called x.pending (.dialogResponse response env)
  have hlive : (liveDialog x).isSome = true := by rw [hsh.liveDialog_eq ho]; rfl
  dsimp only [Wallpaper.deliver]
  rw [hsh.liveDialog_eq ho]
  dsimp only [Wallpaper.onDialogResponse]
  split
  · next hr =>
    refine .stored dialog.image env h ⟨hsh.notClosed, h, ho.handle, Or.inr ?_⟩ rfl hsh.image_eq
      (ho'.storeAndRespond_sends mode env)
    exact ⟨hsh.preview, hsh.loads, hsh.image_eq, ⟨dialog, hsh.dialog_eq, rfl⟩, env, by rw [hr]⟩
  · next hr =>
    split
    · next hcancel =>
      refine .dismissed ⟨hlive, env, ?_⟩ (ho'.respond_sends 1)
      rcases hcancel with rfl | rfl
      · exact Or.inl rfl
      · exact Or.inr rfl
    · next hcancel =>
      refine .failed (fun _ hc => hr hc.response_eq) (fun hd => ?_) (ho'.respond_sends 2)
      obtain ⟨response', env', heq, hresponse⟩ := hd.eq_dialogResponse
      cases heq
      exact hcancel hresponse

/-- The idle callback of a closed preview. -/
lemma Closing.sends (ho : Open 0 x out h) (hc : Closing x h) (mode : String) :
    Sends mode x .idle (Wallpaper.deliver mode .idle x).2 := by
  refine .failed (fun _ => not_consented_idle) (fun hd => ?_) ?_
  · obtain ⟨response, env, heq, -⟩ := hd.eq_dialogResponse
    cases heq
  · dsimp only [Wallpaper.deliver]
    rw [Handled.receive_eq hc.pending, Wallpaper.sendResponseIdle, (ho.called _ _).sendResponse_eq,
      hc.response]

/-- What is sent when something is delivered to a request, in every phase. -/
lemma Settled.sends (hs : Settled 0 x out) (mode : String) (d : Delivery) :
    Sends mode x d (Wallpaper.deliver mode d x).2 := by
  cases hd : awaits x d with
  | false =>
    rw [deliver_of_not_awaits hd]
    exact .nothing rfl
  | true =>
    cases hs with
    | loading h ho hl =>
      obtain ⟨result, env, rfl⟩ := hl.of_awaits ho hd
      exact hl.sends ho mode result env
    | decoding h image display ho hdec =>
      obtain ⟨result, rfl⟩ := hdec.of_awaits ho hd
      exact hdec.sends ho mode result
    | shown h dialog ho hsh =>
      obtain ⟨response, env, rfl⟩ := hsh.of_awaits hd
      exact hsh.sends ho mode response env
    | closing h ho hc =>
      obtain rfl := hc.of_awaits ho hd
      exact hc.sends ho mode
    | answered ha =>
      rw [ha.not_awaits] at hd
      exact absurd hd (by simp)

end Sends

/-! ## Answers and the desktop -/

/-- The desktop after all that has been sent in a run. -/
def Desktop.after (d : Desktop) (s : Service.State WallpaperRequest Message) : Desktop :=
  d.applyAll (s.requests.log.map Prod.snd)

/-- The answer `r` to the request `x`, given when `d` was delivered to it, says what has become of
the desktop meanwhile. -/
structure Truthful (mode : String) (x : WallpaperRequest) (d : Delivery) (r : ℕ)
    (before after : Desktop) : Prop where
  /-- Success: an image has been consented to, and every write, or in Xfce the start of the program,
  has succeeded. -/
  set_iff : r = 0 ↔ ∃ bytes env, Consented x d bytes ∧ d.environment = some env ∧
    Succeeds mode env = true
  dismissed_iff : r = 1 ↔ Dismisses x d
  failed : r ≠ 0 → r ≠ 1 → r = 2
  /-- An image that has been consented to is set, or as much of it as could be written. -/
  stored : ∀ bytes env, Consented x d bytes → d.environment = some env →
    after = if Succeeds mode env then before.withWallpaper mode env bytes
      else if env.stored then before.halfStored mode env bytes else before
  /-- Without consent nothing changes. -/
  unchanged : (∀ bytes, ¬ Consented x d bytes) → after = before

lemma Desktop.applyAll_append (d : Desktop) (l₁ l₂ : List Message) :
    d.applyAll (l₁ ++ l₂) = (d.applyAll l₁).applyAll l₂ := List.foldl_append

section Runs

variable {mode : String} {x : WallpaperRequest} {out : List Message} {d : Delivery}
  {sent : List Message}

/-- An answered delivery is truthful, and another one changes nothing. -/
lemma Sends.truthful (hs : Sends mode x d sent) (before : Desktop) :
    (answers sent = [] ∧ before.applyAll sent = before) ∨
      ∃ r, answers sent = [r] ∧ Truthful mode x d r before (before.applyAll sent) := by
  cases hs with
  | nothing hsent =>
    subst hsent
    exact Or.inl ⟨rfl, rfl⟩
  | stored bytes env h hconsent henv himage hsent =>
    subst hsent
    refine Or.inr ⟨(storeWallpaper mode env h).1, ?_, ?_⟩
    · rw [answers_append, (storeWallpaper_sends mode env h).1]
      rfl
    · have hdismiss : ¬ Dismisses x d := by
        intro hd
        obtain ⟨response, env', rfl, hresponse⟩ := hd.eq_dialogResponse
        obtain rfl := hconsent.response_eq
        exact absurd hresponse (by decide)
      have hafter : before.applyAll ((storeWallpaper mode env h).2 ++
          [.completeSetWallpaperUri (storeWallpaper mode env h).1])
          = before.store mode env h := Desktop.applyAll_append ..
      have hbytes : h.image.getD [] = bytes := by rw [himage]; rfl
      refine ⟨?_, ?_, ?_, fun bytes' env' hc henv' => ?_, fun hnone => absurd hconsent (hnone _)⟩
      · rw [storeWallpaper_fst]
        constructor
        · intro hzero
          refine ⟨bytes, env, hconsent, henv, ?_⟩
          by_contra hfail
          rw [if_neg hfail] at hzero
          exact absurd hzero (by decide)
        · rintro ⟨bytes', env', -, henv', hok⟩
          obtain rfl : env = env' := Option.some.inj (henv.symm.trans henv')
          exact if_pos hok
      · refine iff_of_false ?_ hdismiss
        rw [storeWallpaper_fst]
        split <;> decide
      · rw [storeWallpaper_fst]
        split
        · exact fun h0 => absurd rfl h0
        · exact fun _ _ => rfl
      · obtain rfl : env = env' := Option.some.inj (henv.symm.trans henv')
        obtain rfl := hc.unique hconsent
        rw [hafter]
        cases hok : Succeeds mode env with
        | true => rw [store_of_succeeds hok, hbytes, if_pos rfl]
        | false =>
          have hne : (storeWallpaper mode env h).1 ≠ 0 := by
            rw [storeWallpaper_fst, hok]
            decide
          rw [store_of_failed hne, hbytes]
          simp
  | dismissed hdismiss hsent =>
    subst hsent
    have hconsent : ∀ bytes, ¬ Consented x d bytes := by
      intro bytes hc
      obtain ⟨response, env, rfl, hresponse⟩ := hdismiss.eq_dialogResponse
      rw [hc.response_eq] at hresponse
      exact absurd hresponse (by decide)
    refine Or.inr ⟨1, rfl, ?_, ?_, fun _ h => absurd rfl h, fun b env hc => absurd hc (hconsent b),
      fun _ => rfl⟩
    · exact iff_of_false (by decide) fun ⟨b, env, hc, _⟩ => hconsent b hc
    · exact iff_of_true rfl hdismiss
  | failed hconsent hdismiss hsent =>
    subst hsent
    refine Or.inr ⟨2, rfl, ?_, ?_, fun _ _ => rfl, fun b env hc => absurd hc (hconsent b),
      fun _ => rfl⟩
    · exact iff_of_false (by decide) fun ⟨b, env, hc, _⟩ => hconsent b hc
    · exact iff_of_false (by decide) hdismiss

/-- What is sent for a new request, or for one that is closed, answers nothing and changes
nothing. -/
lemma quiet_of_not_deliver (mode : String) {before : Desktop}
    (h : (∃ n ok a, (service mode).call n ok = .ok (a, sent)) ∨
      ∃ a out, Settled 0 a out ∧ a.request.registered = true ∧
        sent = (Handled.dispatchClose handleClose .completeClose a).2) :
    answers sent = [] ∧ before.applyAll sent = before := by
  rcases h with ⟨n, ok, a, hcall⟩ | ⟨a, out, hs, hreg, rfl⟩
  · obtain ⟨-, rfl⟩ : (handleSetWallpaperUri n ok).1 = a ∧
        (handleSetWallpaperUri n ok).2 = sent := by
      simpa [service, Prod.ext_iff] using hcall
    exact ⟨rfl, rfl⟩
  · obtain ⟨h, ho⟩ := hs.open_of_registered hreg
    rw [dispatchClose_eq ho hreg]
    exact ⟨rfl, rfl⟩

end Runs

/-- **The answers say what has become of the desktop**: a step of a run either answers no request
and leaves the desktop alone, or answers the one request that something is delivered to, truthfully;
whatever requests there are beside it. -/
theorem wallpaper_outcomes (mode : String) (d₀ : Desktop) (evs : List Event) (e : Event) :
    let s := (service mode).machine.run evs
    let s' := (service mode).machine.run (evs ++ [e])
    ((∀ i, answers (s'.requests.outputsOf i) = answers (s.requests.outputsOf i)) ∧
      d₀.after s' = d₀.after s) ∨
    ∃ i d x r, e = .deliver i d ∧ s.requests.objects[i]? = some x ∧
      (∀ j, answers (s'.requests.outputsOf j)
        = answers (s.requests.outputsOf j) ++ if i = j then [r] else []) ∧
      Truthful mode x d r (d₀.after s) (d₀.after s') := by
  intro s s'
  have hs' : s' = (service mode).step s e := Machine.run_concat _ evs e
  obtain ⟨i, added, hlog, hadded⟩ := Service.log_step_cases (S := service mode) s e
  rw [← hs'] at hlog
  have hdesktop : d₀.after s' = (d₀.after s).applyAll added := by
    rw [Desktop.after, hlog, List.map_append, Desktop.applyAll_append, List.map_map]
    congr 1
    exact List.map_id added
  have hanswers : ∀ j, answers (s'.requests.outputsOf j)
      = answers (s.requests.outputsOf j) ++ if i = j then answers added else [] := by
    intro j
    rw [Ensemble.outputsOf_of_log hlog, answers_append]
    split <;> rfl
  have hquiet : answers added = [] ∧ (d₀.after s).applyAll added = d₀.after s →
      (∀ i, answers (s'.requests.outputsOf i) = answers (s.requests.outputsOf i)) ∧
        d₀.after s' = d₀.after s := by
    rintro ⟨hnone, hsame⟩
    refine ⟨fun j => ?_, hdesktop.trans hsame⟩
    rw [hanswers, hnone]
    simp
  rcases hadded with rfl | ⟨n, ok, a, hcall⟩ | ⟨x, hx, hreg, rfl⟩ | ⟨d, x, he, hx, rfl⟩
  · exact Or.inl (hquiet ⟨rfl, rfl⟩)
  · exact Or.inl (hquiet (quiet_of_not_deliver mode (Or.inl ⟨n, ok, a, hcall⟩)))
  · exact Or.inl (hquiet (quiet_of_not_deliver mode
      (Or.inr ⟨x, _, settled_run mode evs i x hx, hreg, rfl⟩)))
  · rcases ((settled_run mode evs i x hx).sends mode d).truthful (d₀.after s) with
      hnone | ⟨r, hr, htruth⟩
    · exact Or.inl (hquiet hnone)
    · refine Or.inr ⟨i, d, x, r, he, hx, fun j => ?_, ?_⟩
      · rw [hanswers j]
        congr 2
      · rw [hdesktop]
        exact htruth

end XappPortal.Wallpaper
