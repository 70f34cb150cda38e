import XappPortal.Monitor.Sessions
import XappPortal.Monitor.Rounds
import XappPortal.Inhibit.Balance
import XappPortal.Inhibit.Release
import XappPortal.Screenshot.Completion
import XappPortal.Screenshot.Transcript
import XappPortal.Wallpaper.Consent
import XappPortal.Monitor.Waiting
import XappPortal.Monitor.Board
import XappPortal.Monitor.Views
import XappPortal.Lib.Shell
import XappPortal.Monitor.Startup
import XappPortal.Background.Autostart
import XappPortal.Background.Exec
import XappPortal.Background.AppClients
import XappPortal.Background.Confinement
import XappPortal.Background.Entries
import XappPortal.Wallpaper.Effects
import XappPortal.Wallpaper.Outcome
import XappPortal.Wallpaper.Parents
import XappPortal.Distance
import XappPortal.Screenshot.Paths
import XappPortal.ExternalWindow
import XappPortal.Lib.Grouping
import XappPortal.Replies
import XappPortal.Settings.Read
import XappPortal.Settings.Signals
import XappPortal.Wallpaper.Drawing
import XappPortal.Startup
