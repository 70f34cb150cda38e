/-
# Autostart entries

The half of `background.c` that serves `EnableAutostart`: it writes or removes the desktop entry of
an application in the user's autostart directory.  Texts are strings of bytes, and the files are
known by the components of their paths, read from the root on as they are written (there are no
symbolic links).
-/
import Mathlib.Logic.Function.Basic
import XappPortal.Lib.Path
import XappPortal.Lib.Shell

namespace XappPortal.Background

open XappPortal.Lib
open Lib.Path (buildFilename resolve slash)

/-- The UTF-8 bytes of a text. -/
def utf8 (s : String) : List UInt8 := s.toByteArray.data.toList

/-! ## Quoting the command line -/

/-- `g_ascii_isalnum`. -/
def isAlnum (c : UInt8) : Bool :=
  (48 ≤ c && c ≤ 57) || (65 ≤ c && c ≤ 90) || (97 ≤ c && c ≤ 122)

/-- The other bytes that `needs_quoting` lets pass. -/
def unquotedPunctuation : List UInt8 := utf8 "-/~:._=@"

/-- `needs_quoting`. -/
def needsQuoting : List UInt8 → Bool
  | [] => false
  | c :: arg => if !isAlnum c && c ∉ unquotedPunctuation then true else needsQuoting arg

/-- What `flatpak_quote_argv` writes for one argument. -/
def quoteArg (arg : List UInt8) : List UInt8 :=
  if needsQuoting arg then Shell.quote arg else arg

/-- `flatpak_quote_argv`, for all the arguments. -/
def flatpakQuoteArgv (argv : List (List UInt8)) : List UInt8 :=
  [Shell.space].intercalate (argv.map quoteArg)

/-! ## Desktop entries -/

/-- The keys that are set in the group `Desktop Entry`, with their values. -/
structure DesktopEntry where
  type : List UInt8
  name : List UInt8
  exec : List UInt8
  /-- `DBusActivatable`, if it is set. -/
  dbusActivatable : Option Bool
  /-- `X-Flatpak`. -/
  xFlatpak : List UInt8
deriving DecidableEq, Repr

/-- A file: a key file that has been saved, or whatever else was there. -/
inductive File where
  | keyFile (entry : DesktopEntry)
  | other (contents : List UInt8)
deriving DecidableEq, Repr

/-- The files, by the components of their paths. -/
abbrev Files := List (List UInt8) → Option File

/-- The outcomes of the system calls that one `EnableAutostart` call makes.  They are given with the
call: what a directory that was made, or an entry that was removed, does to the outcomes of later
calls is left out. -/
structure Environment where
  /-- Whether `g_mkdir_with_parents` succeeds. -/
  dirsMade : Bool
  /-- Whether `g_key_file_save_to_file` succeeds. -/
  saved : Bool
  /-- Whether `g_unlink` can remove the file. -/
  unlinked : Bool
deriving DecidableEq, Repr

/-- The arguments of an `EnableAutostart` call. -/
structure EnableAutostartCall where
  appId : List UInt8
  enable : Bool
  commandline : List (List UInt8)
  flags : UInt32
deriving DecidableEq, Repr

/-- `AUTOSTART_FLAGS_ACTIVATABLE`. -/
def autostartFlagsActivatable : UInt32 := 1

/-- The directory of the autostart entries. -/
def autostartDir (userConfigDir : List UInt8) : List UInt8 :=
  buildFilename [userConfigDir, utf8 "autostart"]

/-- The file name of an application's entry. -/
def desktopFile (appId : List UInt8) : List UInt8 := appId ++ utf8 ".desktop"

/-- The path of an application's entry. -/
def autostartPath (userConfigDir appId : List UInt8) : List UInt8 :=
  buildFilename [autostartDir userConfigDir, desktopFile appId]

/-- Where the file of an application's entry is. -/
def autostartFile (userConfigDir appId : List UInt8) : List (List UInt8) :=
  resolve [] (autostartPath userConfigDir appId)

/-- The key file that is written. -/
def autostartEntry (n : EnableAutostartCall) : DesktopEntry where
  type := utf8 "Application"
  name := n.appId
  exec := flatpakQuoteArgv n.commandline
  dbusActivatable := if n.flags &&& autostartFlagsActivatable ≠ 0 then some true else none
  xFlatpak := n.appId

/-- `handle_enable_autostart`; the result that is returned to the caller, and the files after the
call. -/
def handleEnableAutostart (userConfigDir : List UInt8) (n : EnableAutostartCall)
    (env : Environment) (files : Files) : Bool × Files :=
  let file := autostartFile userConfigDir n.appId
  if n.enable then
    if !env.dirsMade then (false, files)
    else if !env.saved then (false, files)
    else (true, Function.update files file (some (.keyFile (autostartEntry n))))
  else
    -- the result of `g_unlink` is ignored, and FALSE is returned
    (false, if env.unlinked then Function.update files file none else files)

/-- A call that reports success has written the entry. -/
lemma handleEnableAutostart_written {userConfigDir : List UInt8} {n : EnableAutostartCall}
    {env : Environment} {files : Files}
    (h : (handleEnableAutostart userConfigDir n env files).1 = true) :
    (handleEnableAutostart userConfigDir n env files).2 (autostartFile userConfigDir n.appId)
      = some (.keyFile (autostartEntry n)) := by
  rw [handleEnableAutostart] at h ⊢
  split at h
  · next henable =>
    rw [if_pos henable]
    split at h
    · exact absurd h (by simp)
    · next hdirs =>
      rw [if_neg hdirs]
      split at h
      · exact absurd h (by simp)
      · next hsaved =>
        rw [if_neg hsaved]
        exact Function.update_self ..
  · exact absurd h (by simp)

end XappPortal.Background
