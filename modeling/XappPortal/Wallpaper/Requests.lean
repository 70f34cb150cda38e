/-
# Wallpaper requests

`wallpaper.c`, with the asynchronous creation of the preview from `wallpaperdialog.c`.  A call
loads an image; if a preview is wanted, the image is decoded in another thread and shown in a
dialog, and the user's answer decides whether the image is stored.  What is stored are the bytes
that were loaded.
-/
import Mathlib.Data.Int.Notation
import Mathlib.Data.List.DropRight
import XappPortal.Request.Handle
import XappPortal.Request.Service
import XappPortal.Utils

namespace XappPortal.Wallpaper

open XappPortal Request

/-- The contents of a file. -/
abbrev Bytes := List UInt8

/-- `ExternalWindow`, with the number of its display. -/
structure ExternalWindow where
  display : Option ℕ
deriving DecidableEq, Repr

/-- A preview dialog, with the image whose decoding it shows. -/
structure Dialog where
  image : Bytes
  display : ℕ
deriving DecidableEq, Repr

/-- `WallpaperDialogHandle`. -/
structure WallpaperDialogHandle where
  cancellable : Cancellable
  parent : Option ExternalWindow
  dialog : Option Dialog
  image : Option Bytes
  showPreview : Bool
  response : ℕ
deriving DecidableEq, Repr

/-- The callbacks that have the handle as their data, beside the one for the dialog's response. -/
inductive Callback where
  | onImageLoaded
  /-- The end of a task that decodes an image for a display. -/
  | onDialogReady (image : Bytes) (display : ℕ)
  | sendResponseIdle
deriving DecidableEq, Repr

/-- The result of loading the image. -/
inductive LoadResult where
  | error (cancelled : Bool)
  | contents (bytes : Bytes)
deriving DecidableEq, Repr

/-- The result of decoding the image. -/
inductive DecodeResult where
  | error (cancelled : Bool)
  | pixbuf
deriving DecidableEq, Repr

/-- What a callback finds in its environment, beside the desktop mode. -/
structure Environment where
  userConfigDir : String
  /-- The result of `g_file_set_contents`. -/
  stored : Bool
  /-- The result of `g_filename_to_uri`. -/
  uri : Option String
  /-- Whether the file of that URI is native. -/
  native : Bool
  /-- The result of `g_file_peek_path` on that file. -/
  path : String
  /-- The results of the two calls of `g_settings_set_*`. -/
  stringSet : Bool
  enumSet : Bool
  /-- Whether the program could be spawned. -/
  spawned : Bool
  defaultDisplay : Option ℕ
deriving DecidableEq, Repr

/-- What the main loop delivers for a request. -/
inductive Delivery where
  | loaded (result : LoadResult) (env : Environment)
  | decoded (result : DecodeResult)
  | dialogResponse (response : ℤ) (env : Environment)
  | idle
deriving DecidableEq, Repr

/-- What the portal sends, writes and runs, with the outcomes. -/
inductive Message where
  /-- `g_file_load_contents_async`. -/
  | loadContents (uri : String)
  /-- `g_file_set_contents`. -/
  | setContents (path : String) (contents : Bytes) (ok : Bool)
  /-- `g_settings_set_string`. -/
  | setString (schema key value : String) (ok : Bool)
  /-- `g_settings_set_enum`. -/
  | setEnum (schema key : String) (value : ℤ) (ok : Bool)
  /-- `g_spawn_async`. -/
  | spawn (argv : List String) (ok : Bool)
  | completeSetWallpaperUri (response : ℕ)
  | completeClose
deriving DecidableEq, Repr

/-- A wallpaper request. -/
abbrev WallpaperRequest := Handled WallpaperDialogHandle Callback Delivery

/-! ## Storing the wallpaper -/

/-- `MATE_ZOOMED_WALLPAPER_ENUM`. -/
def mateZoomedWallpaperEnum : ℤ := 1

/-- `CINNAMON_ZOOMED_WALLPAPER_ENUM`. -/
def cinnamonZoomedWallpaperEnum : ℤ := 5

/-- The two writes of a settings schema, the second of which is only made if the first succeeds. -/
def setBackground (schema key value : String) (zoomed : ℤ) (env : Environment) :
    Bool × List Message :=
  let set := .setString schema key value env.stringSet
  if env.stringSet then
    (env.enumSet, [set, .setEnum schema "picture-options" zoomed env.enumSet])
  else (false, [set])

/-- `set_gsettings`. -/
def setGsettings (mode uri : String) (env : Environment) : Bool × List Message :=
  if !env.native then (false, [])
  else if cinnamonMode mode then
    setBackground "org.cinnamon.desktop.background" "picture-uri" uri cinnamonZoomedWallpaperEnum env
  else if mateMode mode then
    setBackground "org.mate.background" "picture-filename" env.path mateZoomedWallpaperEnum env
  else if xfceMode mode then
    (env.spawned, [.spawn ["xfce4-set-wallpaper", env.path] env.spawned])
  else (false, [])

/-- `g_build_filename (g_get_user_config_dir (), "background", NULL)`. -/
def backgroundPath (userConfigDir : String) : String :=
  String.ofList (userConfigDir.toList.rdropWhile (· == '/')) ++ "/background"

/-- `store_wallpaper`; a path without a URI is not the path of a native file. -/
def storeWallpaper (mode : String) (env : Environment) (handle : WallpaperDialogHandle) :
    ℕ × List Message :=
  -- the stored copy comes from the same bytes the preview showed
  let contents := handle.image.getD []
  let set := .setContents (backgroundPath env.userConfigDir) contents env.stored
  if !env.stored then (2, [set])
  else
    match env.uri with
    | none => (2, [set])
    | some uri =>
        let (ok, out) := setGsettings mode uri env
        (if ok then 0 else 2, set :: out)

/-! ## The callbacks -/

/-- `send_response`, ending with `wallpaper_dialog_handle_free`. -/
def sendResponse (x : WallpaperRequest) : WallpaperRequest × List Message :=
  x.sendResponse fun handle => .completeSetWallpaperUri handle.response

/-- `send_response_idle`. -/
def sendResponseIdle (x : WallpaperRequest) : WallpaperRequest × List Message := sendResponse x

/-- The assignment of `handle->response` before a `send_response`. -/
def respond (response : ℕ) (x : WallpaperRequest) : WallpaperRequest × List Message :=
  sendResponse (x.write fun handle => { handle with response := response })

/-- The assignment of the result of `store_wallpaper` before a `send_response`. -/
def storeAndRespond (mode : String) (env : Environment) (x : WallpaperRequest) :
    WallpaperRequest × List Message :=
  x.access fun handle =>
    let (response, out) := storeWallpaper mode env handle
    let (x, out') := respond response x
    (x, out ++ out')

/-- `GTK_RESPONSE_APPLY`. -/
def gtkResponseApply : ℤ := -10

/-- `GTK_RESPONSE_CANCEL`. -/
def gtkResponseCancel : ℤ := -6

/-- `GTK_RESPONSE_DELETE_EVENT`. -/
def gtkResponseDeleteEvent : ℤ := -4

/-- `on_dialog_response`. -/
def onDialogResponse (mode : String) (env : Environment) (response : ℤ) (x : WallpaperRequest) :
    WallpaperRequest × List Message :=
  if response = gtkResponseApply then storeAndRespond mode env x
  else if response = gtkResponseCancel ∨ response = gtkResponseDeleteEvent then respond 1 x
  else respond 2 x

/-- `on_dialog_ready`, for a task that has decoded `image`. -/
def onDialogReady (image : Bytes) (display : ℕ) (result : DecodeResult) (x : WallpaperRequest) :
    WallpaperRequest × List Message :=
  match result with
  | .error _ => respond 2 (x.write fun handle => { handle with dialog := none })
  | .pixbuf => (x.write fun handle => { handle with dialog := some ⟨image, display⟩ }, [])

/-- The display for the preview. -/
def previewDisplay (env : Environment) (handle : WallpaperDialogHandle) : Option ℕ :=
  match handle.parent with
  | some parent => parent.display
  | none => env.defaultDisplay

/-- `on_image_loaded`. -/
def onImageLoaded (mode : String) (env : Environment) (result : LoadResult)
    (x : WallpaperRequest) : WallpaperRequest × List Message :=
  match result with
  | .error _ => respond 2 x
  | .contents bytes =>
      let x := x.write fun handle => { handle with image := some bytes }
      x.access fun handle =>
        if !handle.showPreview then storeAndRespond mode env x
        else
          match previewDisplay env handle with
          | none => respond 2 x
          | some display => (x.start (.onDialogReady bytes display), [])

/-- `handle_close`. -/
def handleClose (x : WallpaperRequest) : WallpaperRequest × List Message :=
  x.access fun handle =>
    let x := x.write fun handle => { handle with cancellable := ⟨true⟩ }
    -- loading and decoding respond from their own callbacks; a dialog that is destroyed does not
    if handle.dialog.isSome then
      let x := x.write fun handle => { handle with dialog := none, response := 2 }
      (x.start .sendResponseIdle, [])
    else (x, [])

/-! ## The method call -/

/-- The arguments of a `SetWallpaperURI` call; `showPreview` is the option of that name, and
`parent` the result of `create_external_window_from_handle` for the parent window. -/
structure SetWallpaperCall where
  sender : String
  handle : String
  appId : String
  parent : Option ExternalWindow
  uri : String
  showPreview : Option Bool
deriving DecidableEq, Repr

/-- `handle_set_wallpaper_uri`. -/
def handleSetWallpaperUri (n : SetWallpaperCall) (exportOk : Bool) :
    WallpaperRequest × List Message :=
  let showPreview := n.showPreview.getD false
  let parent := if showPreview then n.parent else none
  let x : WallpaperRequest :=
    .create (requestNew n.sender n.appId n.handle) exportOk
      { cancellable := ⟨false⟩, parent := parent, dialog := none, image := none,
        showPreview := showPreview, response := 0 }
  ((x.start .onImageLoaded).leave, [.loadContents n.uri])

/-! ## The service -/

/-- Whether the cancellable of the handle has been cancelled; the finish functions then report an
error. -/
def isCancelled (x : WallpaperRequest) : Bool :=
  match x.handle with
  | none => false
  | some handle => handle.cancellable.cancelled

/-- The task that decodes an image for the request. -/
def decoding (x : WallpaperRequest) : Option (Bytes × ℕ) :=
  x.pending.findSome? fun
    | .onDialogReady image display => some (image, display)
    | _ => none

/-- The dialog of a request, which emits responses until it is destroyed. -/
def liveDialog (x : WallpaperRequest) : Option Dialog :=
  x.handle.bind WallpaperDialogHandle.dialog

/-- The delivery of a result to the callback that waits for it. -/
def deliver (mode : String) (d : Delivery) (x : WallpaperRequest) :
    WallpaperRequest × List Message :=
  match d with
  | .loaded result env =>
      let result := if isCancelled x then .error true else result
      x.receive .onImageLoaded (.loaded result env) (onImageLoaded mode env result)
  | .decoded result =>
      let result := if isCancelled x then .error true else result
      match decoding x with
      | none => (x, [])
      | some (image, display) =>
          x.receive (.onDialogReady image display) (.decoded result)
            (onDialogReady image display result)
  | .dialogResponse response env =>
      match liveDialog x with
      | none => (x, [])
      | some _ =>
          onDialogResponse mode env response
            { x with delivered := x.delivered ++ [.dialogResponse response env] }
  | .idle => x.receive .sendResponseIdle .idle sendResponseIdle

/-- The interface, with the handler that `wallpaper_init` connects. -/
def service (mode : String) : Service WallpaperRequest SetWallpaperCall Delivery Message where
  request := Handled.request
  path := SetWallpaperCall.handle
  call n exportOk := .ok (handleSetWallpaperUri n exportOk)
  close := Handled.dispatchClose handleClose .completeClose
  deliver := deliver mode

/-- The events of the service. -/
abbrev Event := Service.Event SetWallpaperCall Delivery

end XappPortal.Wallpaper
