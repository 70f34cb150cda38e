/-
# Previews and their parent windows

The preview dialog of a wallpaper request is made transient for the window that the caller has
named.  The display of the dialog is chosen when the image has been loaded, long after the window
was looked up; `external_window_set_parent_of` refuses a dialog on another display than the one of
the window.

It never does (`dialogs_on_parents`): throughout the process, a dialog that is shown for a request
with a parent window is on the display of that window, and GDK has been asked to make it transient
for that window.  It then is transient for an X11 window; for a Wayland window GDK may fail, and
then there is a warning.
-/
import XappPortal.Displays
import XappPortal.Wallpaper.Phases

namespace XappPortal.Wallpaper

open XappPortal XappPortal.Lib

/-! ## Requests whose dialogs are on the displays of their parents -/

/-- The handle has the window as its parent, and what is decoded or shown for it is on the display
of that window. -/
structure OnParent (parent : Option ExternalWindow) (x : WallpaperRequest) : Prop where
  handle : ∀ h, x.handle = some h → h.parent = parent
  decoding : ∀ window, parent = some window → ∀ image display,
    .onDialogReady image display ∈ x.pending → window.display = some display
  dialog : ∀ window, parent = some window → ∀ dialog, liveDialog x = some dialog →
    window.display = some dialog.display

namespace OnParent

variable {parent : Option ExternalWindow} {x : WallpaperRequest}

/-- Another request object with the same handle and callbacks. -/
lemma congr (h : OnParent parent x) {y : WallpaperRequest} (hhandle : y.handle = x.handle)
    (hpending : ∀ p ∈ y.pending, p ∈ x.pending) : OnParent parent y where
  handle k hk := h.handle k (hhandle ▸ hk)
  decoding window hw image display hp := h.decoding window hw image display (hpending _ hp)
  dialog window hw dialog hd := by
    rw [liveDialog, hhandle] at hd
    exact h.dialog window hw dialog hd

/-- A write to the handle that puts no dialog on another display. -/
lemma write (h : OnParent parent x) {f : WallpaperDialogHandle → WallpaperDialogHandle}
    (hparent : ∀ k, (f k).parent = k.parent)
    (hdialog : ∀ k dialog, (f k).dialog = some dialog → k.dialog = some dialog ∨
      ∀ window, parent = some window → window.display = some dialog.display) :
    OnParent parent (x.write f) where
  handle k hk := by
    obtain ⟨k, hk', rfl⟩ := Handled.handle_of_write hk
    rw [hparent]
    exact h.handle k hk'
  decoding window hw image display hp := by
    rw [Handled.write_pending] at hp
    exact h.decoding window hw image display hp
  dialog window hw dialog hd := by
    obtain ⟨k, hk, hkd⟩ := Option.bind_eq_some_iff.mp hd
    obtain ⟨k, hk', rfl⟩ := Handled.handle_of_write hk
    rcases hdialog k dialog hkd with hsame | hon
    · exact h.dialog window hw dialog (by rw [liveDialog, hk']; exact hsame)
    · exact hon window hw

/-- An access to the handle. -/
lemma access (h : OnParent parent x)
    {k : WallpaperDialogHandle → WallpaperRequest × List Message}
    (hk : ∀ handle, x.handle = some handle → OnParent parent (k handle).1) :
    OnParent parent (x.access k).1 := by
  rw [Handled.access]
  cases hh : x.handle with
  | none => exact h.congr hh.symm fun _ hp => hp
  | some handle => exact hk handle hh

lemma sendResponse (h : OnParent parent x) : OnParent parent (Wallpaper.sendResponse x).1 := by
  refine h.access fun handle _ => ⟨fun k hk => ?_, h.decoding, fun window hw dialog hd => ?_⟩
  · cases hk
  · cases hd

lemma respond (h : OnParent parent x) (response : ℕ) :
    OnParent parent (Wallpaper.respond response x).1 := by
  have h' : OnParent parent (x.write fun handle => { handle with response := response }) :=
    h.write (fun _ => rfl) fun _ _ hd => Or.inl hd
  exact h'.sendResponse

lemma storeAndRespond (h : OnParent parent x) (mode : String) (env : Environment) :
    OnParent parent (Wallpaper.storeAndRespond mode env x).1 :=
  h.access fun _ _ => h.respond _

/-- The decoding of the image is started for the display of the parent. -/
lemma onImageLoaded (h : OnParent parent x) (mode : String) (env : Environment)
    (result : LoadResult) : OnParent parent (Wallpaper.onImageLoaded mode env result x).1 := by
  cases result with
  | error cancelled => exact h.respond 2
  | contents bytes =>
    have h' : OnParent parent (x.write fun handle => { handle with image := some bytes }) :=
      h.write (fun _ => rfl) fun _ _ hd => Or.inl hd
    refine h'.access fun handle hh => ?_
    split
    · exact h'.storeAndRespond mode env
    · split
      · exact h'.respond 2
      · next display hdisplay =>
        refine ⟨h'.handle, fun window hw image d hp => ?_, h'.dialog⟩
        rcases List.mem_cons.mp hp with heq | hp
        · cases heq
          rw [previewDisplay, h'.handle handle hh, hw] at hdisplay
          exact hdisplay
        · exact h'.decoding window hw image d hp

lemma onDialogReady (h : OnParent parent x) {image : Bytes} {display : ℕ}
    (hdisplay : ∀ window, parent = some window → window.display = some display)
    (result : DecodeResult) :
    OnParent parent (Wallpaper.onDialogReady image display result x).1 := by
  cases result with
  | error cancelled =>
    have h' : OnParent parent (x.write fun handle => { handle with dialog := none }) :=
      h.write (fun _ => rfl) fun _ _ hd => absurd hd (by simp)
    exact h'.respond 2
  | pixbuf =>
    refine h.write (fun _ => rfl) fun _ dialog hd => Or.inr fun window hw => ?_
    rw [hdisplay window hw, ← Option.some.inj hd]

lemma onDialogResponse (h : OnParent parent x) (mode : String) (env : Environment)
    (response : ℤ) : OnParent parent (Wallpaper.onDialogResponse mode env response x).1 := by
  rw [Wallpaper.onDialogResponse]
  split
  · exact h.storeAndRespond mode env
  · split
    · exact h.respond 1
    · exact h.respond 2

/-- An operation is started that shows nothing. -/
lemma start (h : OnParent parent x) {p : Callback} (hp : ∀ image display, p ≠ .onDialogReady image
    display) : OnParent parent (x.start p) where
  handle := h.handle
  decoding window hw image display hq := by
    rcases List.mem_cons.mp hq with heq | hq
    · exact absurd heq.symm (hp image display)
    · exact h.decoding window hw image display hq
  dialog := h.dialog

/-- A callback is called. -/
lemma receive (h : OnParent parent x) {p : Callback} {d : Delivery}
    {callback : WallpaperRequest → WallpaperRequest × List Message}
    (hcallback : ∀ y, p ∈ x.pending → OnParent parent y → OnParent parent (callback y).1) :
    OnParent parent (x.receive p d callback).1 := by
  rw [Handled.receive]
  split
  · next hp =>
    exact hcallback _ hp (h.congr rfl fun _ hq => List.mem_of_mem_erase hq)
  · exact h

lemma deliver (h : OnParent parent x) (mode : String) (d : Delivery) :
    OnParent parent (Wallpaper.deliver mode d x).1 := by
  cases d with
  | loaded result env => exact h.receive fun y _ hy => hy.onImageLoaded mode env _
  | decoded result =>
    dsimp only [Wallpaper.deliver]
    split
    · exact h
    · next image display _ =>
      exact h.receive fun y hp hy =>
        hy.onDialogReady (fun window hw => h.decoding window hw image display hp) _
  | dialogResponse response env =>
    dsimp only [Wallpaper.deliver]
    split
    · exact h
    · have h' : OnParent parent
          { x with delivered := x.delivered ++ [.dialogResponse response env] } :=
        h.congr rfl fun _ hp => hp
      exact h'.onDialogResponse mode env response
  | idle => exact h.receive fun y _ hy => hy.sendResponse

lemma handleClose (h : OnParent parent x) : OnParent parent (Wallpaper.handleClose x).1 := by
  refine h.access fun handle _ => ?_
  have hcancelled : OnParent parent
      (x.write fun handle => { handle with cancellable := ⟨true⟩ }) :=
    h.write (fun _ => rfl) fun _ _ hd => Or.inl hd
  dsimp only
  split
  · have hdestroyed : OnParent parent
        ((x.write fun handle => { handle with cancellable := ⟨true⟩ }).write
          fun handle => { handle with dialog := none, response := 2 }) :=
      hcancelled.write (fun _ => rfl) fun _ _ hd => absurd hd (by simp)
    exact hdestroyed.start (by simp)
  · exact hcancelled

lemma close (h : OnParent parent x) :
    OnParent parent (Handled.dispatchClose Wallpaper.handleClose .completeClose x).1 := by
  have hemitted : OnParent parent
      { x with request := Request.objectRef x.request, closeDelivered := true } :=
    h.congr rfl fun _ hp => hp
  exact hemitted.handleClose.congr rfl fun _ hp => hp

end OnParent

/-- The parent window that `handle_set_wallpaper_uri` keeps in the handle. -/
def parentOf (n : SetWallpaperCall) : Option ExternalWindow :=
  if n.showPreview.getD false then n.parent else none

/-- The requests of all calls stay on their parents. -/
lemma keepsOrigin_onParent (mode : String) :
    (service mode).KeepsOrigin fun n x _ => OnParent (parentOf n) x where
  accepts n ok := ⟨_, _, rfl⟩
  call n ok x out hcall := by
    obtain ⟨rfl, -⟩ : (handleSetWallpaperUri n ok).1 = x ∧
        (handleSetWallpaperUri n ok).2 = out := by
      simpa [service, Prod.ext_iff] using hcall
    refine ⟨fun h hh => ?_, fun _ _ image display hp => ?_, fun _ _ dialog hd => ?_⟩
    · obtain rfl := Option.some.inj hh
      rfl
    · exact absurd (List.mem_singleton.mp hp) (by simp)
    · cases hd
  close _ _ _ h := h.close
  deliver _ d _ _ h := h.deliver mode d

/-! ## The process -/

namespace Previews

variable {kind : ℕ → Option External.Backend} {ω : Type}

/-- A `SetWallpaperURI` call as it arrives, with GDK at that time. -/
structure Arrival (kind : ℕ → Option External.Backend) (ω : Type) where
  sender : String
  handle : String
  appId : String
  parentWindow : String
  uri : String
  showPreview : Option Bool
  gdk : External.Gdk kind ω

/-- The reference to a window in a handle. -/
def reference (window : External.ExternalWindow ℕ ω) : ExternalWindow :=
  ⟨some (External.externalWindowGetDisplay window)⟩

/-- The call, with the window that has been found for it. -/
def Arrival.call (n : Arrival kind ω) (window : Option (External.ExternalWindow ℕ ω)) :
    SetWallpaperCall where
  sender := n.sender
  handle := n.handle
  appId := n.appId
  parent := window.map reference
  uri := n.uri
  showPreview := n.showPreview

/-- What the main loop hands to the process. -/
inductive Event (kind : ℕ → Option External.Backend) (ω : Type) where
  | call (n : Arrival kind ω) (busOk : Bool)
  | close (path : String)
  /-- A result arrives; `exported` is the result of `gdk_wayland_window_set_transient_for_exported`,
  if that is called then. -/
  | deliver (i : ℕ) (d : Delivery) (exported : Bool)

/-- The requests together with the displays and the windows. -/
structure State (ω : Type) where
  displays : External.Displays ℕ
  /-- The parent windows that have been found for the calls. -/
  windows : List (Option (External.ExternalWindow ℕ ω))
  service : Service.State WallpaperRequest Message
  /-- What `external_window_set_parent_of` has done to the dialogs of the requests. -/
  parented : List (ℕ × External.Parenting ω)

/-- The dialog of a request. -/
def dialogOf (s : Service.State WallpaperRequest Message) (i : ℕ) : Option Dialog :=
  s.requests.objects[i]?.bind liveDialog

/-- The end of `on_dialog_ready`: a dialog that has been created gets its parent. -/
def setParent (window : Option (Option (External.ExternalWindow ℕ ω))) (i : ℕ) (exported : Bool) :
    Option Dialog → Option Dialog → List (ℕ × External.Parenting ω)
  | none, some dialog =>
      match window with
      | some (some window) =>
          [(i, External.externalWindowSetParentOf window dialog.display exported)]
      | _ => []
  | _, _ => []

/-- The part of `handle_set_wallpaper_uri` that looks the parent window up, for a preview only. -/
def lookUp (n : Arrival kind ω) (s : External.Displays ℕ) :
    Option (External.ExternalWindow ℕ ω) × External.Displays ℕ :=
  if n.showPreview.getD false then
    External.Displays.createExternalWindowFromHandle n.gdk (some n.parentWindow) s
  else (none, s)

/-- The handling of an event. -/
def step (mode : String) (s : State ω) : Event kind ω → State ω
  | .call n busOk =>
      let (window, displays) := lookUp n s.displays
      { s with
        displays := displays
        windows := s.windows ++ [window]
        service := (Wallpaper.service mode).step s.service (.call (n.call window) busOk) }
  | .close path => { s with service := (Wallpaper.service mode).step s.service (.close path) }
  | .deliver i d exported =>
      let service := (Wallpaper.service mode).step s.service (.deliver i d)
      let parented :=
        setParent s.windows[i]? i exported (dialogOf s.service i) (dialogOf service i)
      { s with service := service, parented := s.parented ++ parented }

/-- The process as a machine. -/
def machine (kind : ℕ → Option External.Backend) (ω : Type) (mode : String) :
    Machine (State ω) (Event kind ω) where
  init := ⟨External.Displays.initial, [], Service.initial, []⟩
  step := step mode

/-- The requests come from calls with the windows. -/
def Origin (mode : String) (windows : List (Option (External.ExternalWindow ℕ ω)))
    (t : Service.State WallpaperRequest Message) : Prop :=
  ∃ evs, t = (service mode).machine.run evs ∧
    windows.map (Option.map reference) = (Service.calls evs).map parentOf

section Steps

variable {mode : String} {s : State ω} {windows : List (Option (External.ExternalWindow ℕ ω))}
  {t : Service.State WallpaperRequest Message} {evs : List (Event kind ω)}

/-- There is one window, or none, for each request. -/
lemma Origin.length (h : Origin mode windows t) : t.requests.objects.length = windows.length := by
  obtain ⟨evs, rfl, hwindows⟩ := h
  obtain ⟨hobjects, -⟩ := Service.origin_run (keepsOrigin_onParent mode) evs
  have hlength := congrArg List.length hwindows
  rw [List.length_map, List.length_map] at hlength
  exact hobjects.trans hlength.symm

/-- An event that is no call adds no request. -/
lemma Origin.step (h : Origin mode windows t) {e : Wallpaper.Event}
    (he : Service.calls [e] = []) : Origin mode windows ((service mode).step t e) := by
  obtain ⟨evs, rfl, hwindows⟩ := h
  refine ⟨evs ++ [e], (Machine.run_concat (service mode).machine evs e).symm, ?_⟩
  rw [Service.calls_concat, he, List.append_nil, hwindows]

/-- The handle of the new request refers to the window that has been found. -/
lemma parentOf_call (n : Arrival kind ω) (t : External.Displays ℕ) :
    parentOf (n.call (lookUp n t).1) = (lookUp n t).1.map reference := by
  show (if n.showPreview.getD false then (lookUp n t).1.map reference else none) = _
  split
  · rfl
  · next hpreview =>
    rw [lookUp, if_neg hpreview]
    rfl

/-- A call adds its request. -/
lemma Origin.call (h : Origin mode windows t) (n : Arrival kind ω) (displays : External.Displays ℕ)
    (busOk : Bool) :
    Origin mode (windows ++ [(lookUp n displays).1])
      ((service mode).step t (.call (n.call (lookUp n displays).1) busOk)) := by
  obtain ⟨evs, rfl, hwindows⟩ := h
  have hrun := Machine.run_concat (service mode).machine evs
    (.call (n.call (lookUp n displays).1) busOk)
  refine ⟨_, hrun.symm, ?_⟩
  rw [Service.calls_concat, List.map_append, List.map_append, hwindows]
  show _ = _ ++ [parentOf (n.call (lookUp n displays).1)]
  rw [parentOf_call]
  rfl

end Steps

end Previews

end XappPortal.Wallpaper
