/-
# Screenshot requests

`screenshot.c`, which takes screenshots by running a program of the desktop and picks colors
through a method of Cinnamon.  Both kinds of calls have the same handle, `Close` handler and
`send_response`.
-/
import Mathlib.Data.Int.Notation
import XappPortal.Request.Handle
import XappPortal.Request.Service
import XappPortal.Utils

namespace XappPortal.Screenshot

open XappPortal Request

/-- The bits of a `double`. -/
abbrev Double := UInt64

/-- `ScreenshotHandle`; `proc` are the arguments of the subprocess. -/
structure ScreenshotHandle where
  response : ℤ
  uri : Option String
  red : Double
  green : Double
  blue : Double
  retval : String
  savePath : Option String
  proc : Option (List String)
  cancellable : Option Cancellable
  closed : Bool
deriving DecidableEq, Repr

/-- The callbacks of the operations that are started for a call. -/
inductive Callback where
  | xfce4ScreenshooterFinished
  | cinnamonScreenshotFinished
  | cinnamonColorPickDone
deriving DecidableEq, Repr

/-- The end of the wait for a subprocess. -/
inductive WaitResult where
  | waitError
  | exited (successful : Bool)
deriving DecidableEq, Repr

/-- The reply of Cinnamon's `PickColor`. -/
inductive PickColorResult where
  | error (cancelled : Bool)
  /-- A result without a color. -/
  | noColor
  | color (red green blue : Double)
deriving DecidableEq, Repr

/-- The results of the operations. -/
inductive Result where
  | wait (result : WaitResult)
  | pickColor (result : PickColorResult)
deriving DecidableEq, Repr

/-- A value of a result dictionary. -/
inductive Value where
  | string (s : String)
  | color (red green blue : Double)
deriving DecidableEq, Repr

/-- What the portal sends, and the programs it runs. -/
inductive Message where
  /-- `g_subprocess_newv`. -/
  | spawn (argv : List String)
  /-- A `SIGTERM` to the subprocess. -/
  | terminate
  /-- `org.cinnamon.Screenshot.PickColor`. -/
  | callPickColor
  | completeScreenshot (response : ℤ) (results : List (String × Value))
  | completePickColor (response : ℤ) (results : List (String × Value))
  | completeClose
deriving DecidableEq, Repr

/-- A screenshot or pick-color request. -/
abbrev ScreenshotRequest := Handled ScreenshotHandle Callback Result

/-! ## The response -/

/-- The answer that `send_response` completes the invocation with. -/
def completion (handle : ScreenshotHandle) : Message :=
  if handle.retval = "url" then
    .completeScreenshot handle.response
      (match handle.uri with
      | some uri => if handle.response = 0 then [("uri", .string uri)] else []
      | none => [])
  else
    .completePickColor handle.response
      (if handle.response = 0 then
        [("color", .color handle.red handle.green handle.blue)]
      else [])

/-- `send_response`, ending with `screenshot_handle_free`. -/
def sendResponse (x : ScreenshotRequest) : ScreenshotRequest × List Message :=
  x.sendResponse completion

/-- The assignment of `handle->response` before a `send_response`. -/
def respond (response : ℤ) (x : ScreenshotRequest) : ScreenshotRequest × List Message :=
  sendResponse (x.write fun handle => { handle with response := response })

/-- The body of the callbacks of the two screenshot programs, for the response to an unsuccessful
exit. -/
def screenshotFinished (unsuccessful : ℤ) (result : WaitResult) (x : ScreenshotRequest) :
    ScreenshotRequest × List Message :=
  x.access fun handle =>
    match result with
    | .waitError => respond 2 x
    | .exited successful =>
        if handle.closed then respond 1 x
        else if !successful then respond unsuccessful x
        else respond 0 x

/-- `xfce4_screenshooter_finished`. -/
def xfce4ScreenshooterFinished : WaitResult → ScreenshotRequest → ScreenshotRequest × List Message :=
  screenshotFinished 2

/-- `cinnamon_screenshot_finished`, which takes an unsuccessful exit for a cancel by the user. -/
def cinnamonScreenshotFinished : WaitResult → ScreenshotRequest → ScreenshotRequest × List Message :=
  screenshotFinished 1

/-- `cinnamon_color_pick_done`. -/
def cinnamonColorPickDone (result : PickColorResult) (x : ScreenshotRequest) :
    ScreenshotRequest × List Message :=
  match result with
  | .error cancelled => if cancelled then respond 1 x else respond 2 x
  | .noColor => respond 2 x
  | .color red green blue =>
      respond 0 (x.write fun handle =>
        { handle with red := red, green := green, blue := blue })

/-- `handle_close`. -/
def handleClose (x : ScreenshotRequest) : ScreenshotRequest × List Message :=
  x.access fun handle =>
    -- the response is left to the callback of the operation
    let x := x.write fun handle =>
      { handle with closed := true, cancellable := handle.cancellable.map fun _ => ⟨true⟩ }
    (x, if handle.proc.isSome then [.terminate] else [])

/-! ## The method calls -/

/-- What a call finds in its environment, beside the desktop mode. -/
structure Environment where
  /-- The directory for pictures, if the user has one. -/
  picturesDir : Option String
  homeDir : String
  /-- The local time, as `%Y-%m-%d %H-%M-%S`. -/
  timestamp : String
  /-- The result of `g_filename_to_uri`. -/
  uri : Option String
  /-- Whether the program is found in the path. -/
  programFound : Bool
  /-- Whether the program could be spawned. -/
  spawned : Bool
deriving DecidableEq, Repr

/-- The arguments of a call; `interactive` and `target` are the options of these names. -/
structure Arguments where
  sender : String
  handle : String
  appId : String
  interactive : Option Bool
  target : Option UInt32
deriving DecidableEq, Repr

/-- The method calls. -/
inductive Call where
  | screenshot (arg : Arguments) (env : Environment)
  | pickColor (arg : Arguments)
deriving DecidableEq, Repr

/-- The arguments of a call of either method. -/
def Call.arguments : Call → Arguments
  | .screenshot arg _ => arg
  | .pickColor arg => arg

/-- `construct_filename`. -/
def constructFilename (env : Environment) : String :=
  env.picturesDir.getD env.homeDir ++ "/Screenshot from " ++ env.timestamp ++ ".png"

/-- The arguments for xfce4-screenshooter. -/
def xfceArgv (arg : Arguments) (savePath : String) : List String :=
  let target := arg.target.getD 0
  let targetFlag :=
    if target = 4 then "-r"
    else if target = 8 ∨ target = 2 then "-w"
    else "-f"
  ["xfce4-screenshooter", targetFlag, "--save", savePath]

/-- The arguments for cinnamon-screenshot. -/
def cinnamonArgv (arg : Arguments) (savePath : String) : List String :=
  let interactive := arg.interactive.getD false
  let target := arg.target.getD 0
  let targetFlag : Option String :=
    if target = 2 then some "--select-window"
    else if target = 8 then some "--window"
    else if target = 4 then some "--area"
    else none
  ["cinnamon-screenshot", "-f", savePath] ++ (if interactive then ["-i"] else [])
    ++ targetFlag.toList

/-- The branch of `handle_screenshot` for a program: it is spawned if it is found in the path, and
waited for. -/
def runProgram (argv : List String) (callback : Callback) (env : Environment)
    (x : ScreenshotRequest) : ScreenshotRequest × List Message :=
  if env.programFound then
    if !env.spawned then
      let (x, out) := respond 2 x
      (x, .spawn argv :: out)
    else
      ((x.write fun handle => { handle with proc := some argv }).start callback, [.spawn argv])
  else respond 2 x

/-- `handle_screenshot`. -/
def handleScreenshot (mode : String) (arg : Arguments) (env : Environment) (exportOk : Bool) :
    ScreenshotRequest × List Message :=
  let savePath := constructFilename env
  let x : ScreenshotRequest :=
    .create (requestNew arg.sender arg.appId arg.handle) exportOk
      { response := 0, uri := env.uri, red := 0, green := 0, blue := 0, retval := "url",
        savePath := some savePath, proc := none, cancellable := none, closed := false }
  let (x, out) :=
    if xfceMode mode then
      runProgram (xfceArgv arg savePath) .xfce4ScreenshooterFinished env x
    else if cinnamonMode mode then
      runProgram (cinnamonArgv arg savePath) .cinnamonScreenshotFinished env x
    else respond 2 x
  (x.leave, out)

/-- `handle_pick_color`; `cinnamon` tells whether there is a proxy for Cinnamon. -/
def handlePickColor (mode : String) (cinnamon : Bool) (arg : Arguments) (exportOk : Bool) :
    ScreenshotRequest × List Message :=
  let x : ScreenshotRequest :=
    .create (requestNew arg.sender arg.appId arg.handle) exportOk
      { response := 2, uri := none, red := 0, green := 0, blue := 0, retval := "color",
        savePath := none, proc := none, cancellable := none, closed := false }
  let (x, out) :=
    if !cinnamonMode mode || !cinnamon then respond 2 x
    else
      ((x.write fun handle => { handle with cancellable := some ⟨false⟩ }).start
        .cinnamonColorPickDone, [.callPickColor])
  (x.leave, out)

/-! ## The service -/

/-- The result of a `PickColor` call, as its finish function reports it: a call whose cancellable
was cancelled fails. -/
def finishPickColor (result : PickColorResult) (x : ScreenshotRequest) : PickColorResult :=
  match x.handle.bind ScreenshotHandle.cancellable with
  | some ⟨true⟩ => .error true
  | _ => result

/-- The delivery of a result to the callback that waits for it. -/
def deliver (result : Result) (x : ScreenshotRequest) : ScreenshotRequest × List Message :=
  match result with
  | .wait result =>
      if .xfce4ScreenshooterFinished ∈ x.pending then
        x.receive .xfce4ScreenshooterFinished (.wait result) (xfce4ScreenshooterFinished result)
      else
        x.receive .cinnamonScreenshotFinished (.wait result) (cinnamonScreenshotFinished result)
  | .pickColor result =>
      let result := finishPickColor result x
      x.receive .cinnamonColorPickDone (.pickColor result) (cinnamonColorPickDone result)

/-- The interface, with the handlers that `screenshot_init` connects. -/
def service (mode : String) (cinnamon : Bool) : Service ScreenshotRequest Call Result Message where
  request := Handled.request
  path n := n.arguments.handle
  call n exportOk :=
    match n with
    | .screenshot arg env => .ok (handleScreenshot mode arg env exportOk)
    | .pickColor arg => .ok (handlePickColor mode cinnamon arg exportOk)
  close := Handled.dispatchClose handleClose .completeClose
  deliver := deliver

/-- The events of the service. -/
abbrev Event := Service.Event Call Result

end XappPortal.Screenshot
