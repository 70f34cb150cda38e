/-
# Displays

A parent window lives on a display of its windowing system.  `get_x11_display` and
`get_wayland_display` look for one when the first parent window needs it: they take the default
display of GDK if it is of the right kind, and otherwise open a display with GDK restricted to one
backend.  What has been found is kept in a static variable.

The restriction is lifted again in every case, a display is opened at most once for each backend,
and all the windows that are ever created of a kind are on one display of that kind
(`windows_share_displays`).
-/
import Mathlib.Logic.Function.Basic
import XappPortal.ExternalWindow
import XappPortal.Lib.Machine

namespace XappPortal.External

open XappPortal.Lib

/-- The backends of GDK that the portal asks for. -/
inductive Backend where
  | x11
  | wayland
deriving DecidableEq, Repr

variable {δ ω : Type}

/-- GDK at the time of a lookup, with displays `δ` of which `kind` tells the backend. -/
structure Gdk (kind : δ → Option Backend) (ω : Type) where
  /-- The result of `gdk_display_get_default`. -/
  default : Option δ
  /-- The result of `gdk_display_open`, given the backends that are allowed. -/
  displayOpen : Option Backend → Option δ
  /-- A restriction to one backend is obeyed. -/
  displayOpen_allowed : ∀ b display, displayOpen (some b) = some display → kind display = some b
  /-- The result of `gdk_x11_window_foreign_new_for_display`. -/
  foreignNew : δ → UInt64 → Option ω

/-- The state of the lookups. -/
structure Displays (δ : Type) where
  /-- The static variables `x11_display` and `wayland_display`. -/
  static : Backend → Option δ
  /-- The backends that GDK may use. -/
  allowed : Option Backend
  /-- The calls of `gdk_display_open`: the backends that were allowed, and the results. -/
  opened : List (Option Backend × Option δ)
  warnings : List String

/-- The backend of a window. -/
def ExternalWindow.backend : ExternalWindow δ ω → Backend
  | .x11 _ _ => .x11
  | .wayland _ _ => .wayland

/-- `external_window_get_display`. -/
def externalWindowGetDisplay : ExternalWindow δ ω → δ
  | .x11 display _ => display
  | .wayland display _ => display

/-- What becomes of a child window. -/
inductive Parenting (ω : Type) where
  /-- `gdk_window_set_transient_for`. -/
  | transientFor (foreignGdkWindow : ω)
  /-- `gdk_wayland_window_set_transient_for_exported`, which has returned `TRUE`. -/
  | transientForExported (handleStr : String)
  | warning (text : String)
deriving DecidableEq, Repr

/-- `external_window_x11_set_parent_of` and `external_window_wayland_set_parent_of`; `exported` is
the result of `gdk_wayland_window_set_transient_for_exported`. -/
def ExternalWindow.setParentOf (exported : Bool) : ExternalWindow δ ω → Parenting ω
  | .x11 _ foreignGdkWindow => .transientFor foreignGdkWindow
  | .wayland _ handleStr =>
      if exported then .transientForExported handleStr
      else .warning "Failed to set portal window transient for external parent"

/-- `external_window_set_parent_of`, for a child window on the display `child`. -/
def externalWindowSetParentOf [DecidableEq δ] (window : ExternalWindow δ ω) (child : δ)
    (exported : Bool) : Parenting ω :=
  if child ≠ externalWindowGetDisplay window then
    .warning "Portal window was not created on its parent's display, not setting a parent"
  else window.setParentOf exported

namespace Displays

variable {kind : δ → Option Backend}

/-- `g_warning`. -/
def warn (s : Displays δ) (text : String) : Displays δ :=
  { s with warnings := s.warnings ++ [text] }

/-- `gdk_set_allowed_backends`. -/
def setAllowedBackends (s : Displays δ) (allowed : Option Backend) : Displays δ :=
  { s with allowed := allowed }

/-- The assignment of a static variable. -/
def assign (s : Displays δ) (b : Backend) (display : Option δ) : Displays δ :=
  { s with static := Function.update s.static b display }

/-- The part of `get_x11_display` and `get_wayland_display` that opens a display. -/
def openDisplay (b : Backend) (failed : String) (gdk : Gdk kind ω) (s : Displays δ) :
    Option δ × Displays δ :=
  let s := s.setAllowedBackends (some b)
  let display := gdk.displayOpen s.allowed
  let s := { s with opened := s.opened ++ [(s.allowed, display)] }
  let s := (s.assign b display).setAllowedBackends none
  (display, if display.isNone then s.warn failed else s)

/-- The body of `get_x11_display` and `get_wayland_display`. -/
def getDisplay (b : Backend) (failed : String) (gdk : Gdk kind ω) (s : Displays δ) :
    Option δ × Displays δ :=
  match s.static b with
  | some display => (some display, s)
  | none =>
      if gdk.default.bind kind = some b then (gdk.default, s.assign b gdk.default)
      else openDisplay b failed gdk s

/-- `get_x11_display`. -/
def getX11Display : Gdk kind ω → Displays δ → Option δ × Displays δ :=
  getDisplay .x11 "Failed to open X11 display"

/-- `get_wayland_display`. -/
def getWaylandDisplay : Gdk kind ω → Displays δ → Option δ × Displays δ :=
  getDisplay .wayland "Failed to open Wayland display"

/-- `external_window_x11_new`, which asks for the display of a valid handle only. -/
def externalWindowX11New (gdk : Gdk kind ω) (handleStr : String) (s : Displays δ) :
    Except Warning (ExternalWindow δ ω) × Displays δ :=
  match validXid handleStr with
  | none => (.error (.invalidXid handleStr), s)
  | some _ =>
      let (display, s) := getX11Display gdk s
      (External.externalWindowX11New display gdk.foreignNew handleStr, s)

/-- `external_window_wayland_new`, which asks for the display of a handle that is not empty. -/
def externalWindowWaylandNew (gdk : Gdk kind ω) (handleStr : String) (s : Displays δ) :
    Except Warning (ExternalWindow δ ω) × Displays δ :=
  if handleStr.toList = [] then (.error .emptyHandle, s)
  else
    let (display, s) := getWaylandDisplay gdk s
    (External.externalWindowWaylandNew display handleStr, s)

/-- The return from a constructor, after its warning. -/
def finish (r : Except Warning (ExternalWindow δ ω) × Displays δ) :
    Option (ExternalWindow δ ω) × Displays δ :=
  match r.1 with
  | .ok window => (some window, r.2)
  | .error warning => (none, r.2.warn warning.text)

/-- `create_external_window_from_handle`. -/
def createExternalWindowFromHandle (gdk : Gdk kind ω) (handleStr : Option String)
    (s : Displays δ) : Option (ExternalWindow δ ω) × Displays δ :=
  match handleStr with
  | none => (none, s)
  | some str =>
      if str.toList = [] then (none, s)
      else if "x11:".toList.isPrefixOf str.toList then
        finish (externalWindowX11New gdk (String.ofList (str.toList.drop 4)) s)
      else if "wayland:".toList.isPrefixOf str.toList then
        finish (externalWindowWaylandNew gdk (String.ofList (str.toList.drop 8)) s)
      else (none, s.warn (Warning.unhandledType str).text)

/-- Before any lookup. -/
def initial : Displays δ := ⟨fun _ => none, none, [], []⟩

/-- The lookups of parent windows, in the course of the process. -/
def lookups (kind : δ → Option Backend) (ω : Type) :
    Machine (Displays δ) (Gdk kind ω × Option String) where
  init := initial
  step s e := (createExternalWindowFromHandle e.1 e.2 s).2

/-- The lookups find the windows that `create_external_window_from_handle` makes of the displays
that are found. -/
lemma createExternalWindowFromHandle_fst (gdk : Gdk kind ω) (handleStr : Option String)
    (s : Displays δ) :
    (createExternalWindowFromHandle gdk handleStr s).1
      = (External.createExternalWindowFromHandle (getX11Display gdk s).1
          (getWaylandDisplay gdk s).1 gdk.foreignNew handleStr).bind Except.toOption := by
  have hfinish : ∀ r : Except Warning (ExternalWindow δ ω) × Displays δ,
      (finish r).1 = r.1.toOption := by
    rintro ⟨_ | _, s⟩ <;> rfl
  cases handleStr with
  | none => rfl
  | some str =>
    rw [createExternalWindowFromHandle, External.createExternalWindowFromHandle]
    split
    · rfl
    · split
      · rw [hfinish, externalWindowX11New]
        cases hxid : validXid (String.ofList (str.toList.drop 4)) with
        | none => simp [External.externalWindowX11New, hxid]
        | some xid => rw [Option.bind_some]
      · split
        · rw [hfinish, externalWindowWaylandNew]
          split
          · next hempty => simp [External.externalWindowWaylandNew, hempty]
          · rw [Option.bind_some]
        · rfl

/-! ## One lookup -/

/-- What holds between lookups. -/
structure Sound (kind : δ → Option Backend) (s : Displays δ) : Prop where
  allowed : s.allowed = none
  /-- The displays that are kept are of the right kind. -/
  static : ∀ b display, s.static b = some display → kind display = some b
  /-- Displays are opened with GDK restricted to one backend. -/
  restricted : ∀ o ∈ s.opened, ∃ b, o.1 = some b
  /-- At most one display has been opened for a backend, and then one is kept. -/
  once : ∀ b, s.opened.countP (fun o => o.1 = some b && o.2.isSome)
    ≤ if (s.static b).isSome then 1 else 0

/-- No display has been forgotten from `s` to `s'`. -/
def Extends (s s' : Displays δ) : Prop :=
  ∀ b display, s.static b = some display → s'.static b = some display

lemma Extends.refl (s : Displays δ) : Extends s s := fun _ _ hb => hb

lemma Extends.trans {s s' s'' : Displays δ} (h : Extends s s') (h' : Extends s' s'') :
    Extends s s'' :=
  fun b display hb => h' b display (h b display hb)

variable {gdk : Gdk kind ω} {s : Displays δ} {b : Backend} {failed : String}

lemma Sound.warn (h : Sound kind s) (text : String) : Sound kind (s.warn text) :=
  ⟨h.allowed, h.static, h.restricted, h.once⟩

lemma static_assign (display : Option δ) (c : Backend) :
    (s.assign b display).static c = if c = b then display else s.static c := by
  show Function.update s.static b display c = _
  rw [Function.update_apply]

/-- A static variable that is not set gets a display of its kind, or stays as it is. -/
lemma Sound.assign (h : Sound kind s) (hnone : s.static b = none) {display : Option δ}
    (hkind : ∀ d, display = some d → kind d = some b) : Sound kind (s.assign b display) where
  allowed := h.allowed
  static c d hc := by
    rw [static_assign] at hc
    split at hc
    · next heq =>
      rw [heq]
      exact hkind d hc
    · exact h.static c d hc
  restricted := h.restricted
  once c := by
    have honce := h.once c
    rw [static_assign]
    split
    · next heq =>
      rw [heq, hnone] at honce
      exact (heq ▸ honce).trans (Nat.zero_le _)
    · exact honce

lemma extends_assign (hnone : s.static b = none) (display : Option δ) :
    Extends s (s.assign b display) := by
  intro c d hc
  rw [static_assign]
  split
  · next heq =>
    rw [heq, hnone] at hc
    cases hc
  · exact hc

/-- What a search for a display does: it keeps what holds between lookups and returns what the
static variable holds then. -/
structure Found (kind : δ → Option Backend) (b : Backend) (s : Displays δ)
    (r : Option δ × Displays δ) : Prop where
  sound : Sound kind r.2
  forgets : Extends s r.2
  static : r.2.static b = r.1

lemma openDisplay_eq (b : Backend) (failed : String) (gdk : Gdk kind ω) (h : s.allowed = none) :
    openDisplay b failed gdk s =
      (gdk.displayOpen (some b),
        let s' := { s.assign b (gdk.displayOpen (some b)) with
          opened := s.opened ++ [(some b, gdk.displayOpen (some b))] }
        if (gdk.displayOpen (some b)).isNone then s'.warn failed else s') := by
  simp only [openDisplay, setAllowedBackends, assign, h]
  rfl

lemma found_openDisplay (h : Sound kind s) (hnone : s.static b = none) :
    Found kind b s (openDisplay b failed gdk s) := by
  have hkind := gdk.displayOpen_allowed b
  rw [openDisplay_eq b failed gdk h.allowed]
  obtain ⟨display, hdisplay⟩ : ∃ display, gdk.displayOpen (some b) = display := ⟨_, rfl⟩
  rw [hdisplay] at hkind ⊢
  have hassign := h.assign hnone hkind
  have hstatic : (s.assign b display).static b = display := by rw [static_assign, if_pos rfl]
  have hsound : Sound kind
      { s.assign b display with opened := s.opened ++ [(some b, display)] } := by
    refine ⟨h.allowed, hassign.static, fun o ho => ?_, fun c => ?_⟩
    · rcases List.mem_append.mp ho with ho | ho
      · exact h.restricted o ho
      · obtain rfl := List.mem_singleton.mp ho
        exact ⟨b, rfl⟩
    · rw [List.countP_append, List.countP_singleton]
      rcases eq_or_ne b c with rfl | hne
      · -- no display has been opened for this backend before
        have honce := h.once b
        rw [hnone] at honce
        show _ ≤ if ((s.assign b display).static b).isSome then 1 else 0
        rw [hstatic, Nat.le_zero.mp honce]
        cases display <;> simp
      · rw [if_neg (by simp [hne])]
        exact hassign.once c
  dsimp only
  split
  · exact ⟨hsound.warn failed, extends_assign hnone display, hstatic⟩
  · exact ⟨hsound, extends_assign hnone display, hstatic⟩

lemma found_getDisplay (h : Sound kind s) : Found kind b s (getDisplay b failed gdk s) := by
  rw [getDisplay]
  cases hb : s.static b with
  | some display => exact ⟨h, Extends.refl s, hb⟩
  | none =>
    dsimp only
    split
    · next hdefault =>
      refine ⟨h.assign hb fun d hd => ?_, extends_assign hb _, ?_⟩
      · rwa [hd] at hdefault
      · rw [static_assign, if_pos rfl]
    · exact found_openDisplay h hb

/-- What a lookup does: a window that it creates is on the display that is kept for its kind. -/
structure LooksUp (kind : δ → Option Backend) (s : Displays δ)
    (r : Option (ExternalWindow δ ω) × Displays δ) : Prop where
  sound : Sound kind r.2
  forgets : Extends s r.2
  display : ∀ window, r.1 = some window →
    r.2.static window.backend = some (externalWindowGetDisplay window)

lemma LooksUp.of_none (h : Sound kind s) :
    LooksUp kind s ((none : Option (ExternalWindow δ ω)), s) :=
  ⟨h, Extends.refl s, by simp⟩

/-- A constructor that has not asked for a display. -/
lemma LooksUp.of_error (h : Sound kind s) (warning : Warning) :
    LooksUp kind s (finish ((.error warning : Except Warning (ExternalWindow δ ω)), s)) :=
  ⟨h.warn _, Extends.refl s, by simp [finish]⟩

/-- A constructor that has found its display. -/
lemma LooksUp.of_found {r : Option δ × Displays δ} (hr : Found kind b s r)
    {result : Except Warning (ExternalWindow δ ω)}
    (hresult : ∀ window, result = .ok window →
      window.backend = b ∧ r.1 = some (externalWindowGetDisplay window)) :
    LooksUp kind s (finish (result, r.2)) := by
  cases result with
  | ok window =>
    refine ⟨hr.sound, hr.forgets, fun w hw => ?_⟩
    obtain rfl : window = w := Option.some.inj hw
    obtain ⟨hbackend, hdisplay⟩ := hresult window rfl
    rw [hbackend, ← hdisplay]
    exact hr.static
  | error warning => exact ⟨hr.sound.warn _, hr.forgets, by simp [finish]⟩

/-- A window is on the display that its constructor has been given. -/
lemma display_of_x11New {display : Option δ} {foreignNew : δ → UInt64 → Option ω}
    {handleStr : String} {window : ExternalWindow δ ω}
    (h : External.externalWindowX11New display foreignNew handleStr = .ok window) :
    window.backend = .x11 ∧ display = some (externalWindowGetDisplay window) := by
  unfold External.externalWindowX11New at h
  split at h
  · cases h
  · split at h
    · cases h
    · split at h
      · cases h
      · cases h
        exact ⟨rfl, rfl⟩

lemma display_of_waylandNew {display : Option δ} {handleStr : String}
    {window : ExternalWindow δ ω}
    (h : External.externalWindowWaylandNew display handleStr = .ok window) :
    window.backend = .wayland ∧ display = some (externalWindowGetDisplay window) := by
  unfold External.externalWindowWaylandNew at h
  split at h
  · cases h
  · split at h
    · cases h
    · cases h
      exact ⟨rfl, rfl⟩

lemma looksUp_x11 (h : Sound kind s) (gdk : Gdk kind ω) (handleStr : String) :
    LooksUp kind s (finish (externalWindowX11New gdk handleStr s)) := by
  unfold externalWindowX11New
  split
  · exact .of_error h _
  · exact .of_found (found_getDisplay h) fun _ hwindow => display_of_x11New hwindow

lemma looksUp_wayland (h : Sound kind s) (gdk : Gdk kind ω) (handleStr : String) :
    LooksUp kind s (finish (externalWindowWaylandNew gdk handleStr s)) := by
  unfold externalWindowWaylandNew
  split
  · exact .of_error h _
  · exact .of_found (found_getDisplay h) fun _ hwindow => display_of_waylandNew hwindow

lemma looksUp_createExternalWindowFromHandle (h : Sound kind s) (gdk : Gdk kind ω)
    (handleStr : Option String) :
    LooksUp kind s (createExternalWindowFromHandle gdk handleStr s) := by
  unfold createExternalWindowFromHandle
  cases handleStr with
  | none => exact .of_none h
  | some str =>
    dsimp only
    split
    · exact .of_none h
    · split
      · exact looksUp_x11 h gdk _
      · split
        · exact looksUp_wayland h gdk _
        · exact .of_error h _

/-! ## All lookups -/

lemma sound_initial : Sound kind (initial : Displays δ) :=
  ⟨rfl, fun _ _ h => (by cases h), fun _ h => (by cases h), fun _ => Nat.zero_le _⟩

lemma sound_run (evs : List (Gdk kind ω × Option String)) : Sound kind ((lookups kind ω).run evs) :=
  Machine.inv_run (I := Sound kind) (P := fun _ _ => True) sound_initial
    (fun _ e hs _ => (looksUp_createExternalWindowFromHandle hs e.1 e.2).sound)
    (Machine.along_of_mem fun _ _ _ => trivial)

lemma extends_runFrom (h : Sound kind s) (evs : List (Gdk kind ω × Option String)) :
    Extends s ((lookups kind ω).runFrom s evs) := by
  induction evs generalizing s with
  | nil => exact Extends.refl s
  | cons e evs ih =>
    have hstep := looksUp_createExternalWindowFromHandle h e.1 e.2
    exact hstep.forgets.trans (ih hstep.sound)

/-- **All windows of a kind are on one display of that kind**: the one that is kept in the static
variable, from the lookup that created the window on and for ever; and between lookups GDK is not
restricted, whatever came of them. -/
theorem windows_share_displays (kind : δ → Option Backend)
    (before after : List (Gdk kind ω × Option String)) (gdk : Gdk kind ω)
    (handleStr : Option String) :
    let s := (lookups kind ω).run before
    let s' := (lookups kind ω).run (before ++ (gdk, handleStr) :: after)
    Sound kind s' ∧
      ∀ window, (createExternalWindowFromHandle gdk handleStr s).1 = some window →
        s'.static window.backend = some (externalWindowGetDisplay window) ∧
        kind (externalWindowGetDisplay window) = some window.backend := by
  intro s s'
  have hsound : Sound kind s' := sound_run _
  refine ⟨hsound, fun window hwindow => ?_⟩
  have hlookup := looksUp_createExternalWindowFromHandle (sound_run before) gdk handleStr
  have hs' : s' = (lookups kind ω).runFrom (createExternalWindowFromHandle gdk handleStr s).2
      after := Machine.runFrom_append ..
  have hstatic : s'.static window.backend = some (externalWindowGetDisplay window) := by
    rw [hs']
    exact extends_runFrom hlookup.sound after _ _ (hlookup.display window hwindow)
  exact ⟨hstatic, hsound.static _ _ hstatic⟩

end Displays

end XappPortal.External
