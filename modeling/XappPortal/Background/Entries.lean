/-
# Autostart entries on disk

What becomes of the calls of `EnableAutostart`.

* The text that is written for a call has the five keys of the entry and no others, whatever the
  application id and the command line contain, and a reader of key files gets their values back; the
  application id is lost only if it begins with a form feed (`autostart_reads_back`).
* After any sequence of calls every file is what the last call that had an effect on it has made of
  it (`autostart_directory`).
-/
import XappPortal.Background.Confinement
import XappPortal.Background.Exec
import XappPortal.Lib.KeyFile
import XappPortal.Lib.Machine

namespace XappPortal.Background

open XappPortal.Lib
open Lib.KeyFile (escape unescape formFeed isPlainKey isOneLine isOneLine_escape getValue getString)
open Lib.Path (slash)

/-! ## The text of an entry -/

/-- `G_KEY_FILE_DESKTOP_GROUP`. -/
def desktopGroup : List UInt8 := utf8 "Desktop Entry"

/-- `G_KEY_FILE_DESKTOP_KEY_TYPE`. -/
def keyType : List UInt8 := utf8 "Type"

/-- `G_KEY_FILE_DESKTOP_KEY_NAME`. -/
def keyName : List UInt8 := utf8 "Name"

/-- `G_KEY_FILE_DESKTOP_KEY_EXEC`. -/
def keyExec : List UInt8 := utf8 "Exec"

/-- `G_KEY_FILE_DESKTOP_KEY_DBUS_ACTIVATABLE`. -/
def keyDBusActivatable : List UInt8 := utf8 "DBusActivatable"

/-- The key that marks an entry of the portal. -/
def keyXFlatpak : List UInt8 := utf8 "X-Flatpak"

/-- The value of a boolean. -/
def booleanValue (b : Bool) : List UInt8 := if b then utf8 "true" else utf8 "false"

/-- The keys of an entry in the order in which they are set, with their values. -/
def entryKeys (e : DesktopEntry) : List (List UInt8 × List UInt8) :=
  [(keyType, escape e.type), (keyName, escape e.name), (keyExec, escape e.exec)]
    ++ (e.dbusActivatable.map fun b => (keyDBusActivatable, booleanValue b)).toList
    ++ [(keyXFlatpak, escape e.xFlatpak)]

lemma mem_entryKeys {e : DesktopEntry} {key value : List UInt8}
    (h : (key, value) ∈ entryKeys e) :
    isPlainKey key = true ∧ isOneLine value = true := by
  have hboolean : ∀ b, isOneLine (booleanValue b) = true := by decide
  simp only [entryKeys, List.mem_append, List.mem_cons, List.not_mem_nil, or_false,
    Option.mem_toList, Option.map_eq_some_iff, Prod.mk.injEq] at h
  rcases h with ((⟨rfl, rfl⟩ | ⟨rfl, rfl⟩ | ⟨rfl, rfl⟩) | ⟨b, -, rfl, rfl⟩) | ⟨rfl, rfl⟩
  · exact ⟨by decide, isOneLine_escape _⟩
  · exact ⟨by decide, isOneLine_escape _⟩
  · exact ⟨by decide, isOneLine_escape _⟩
  · exact ⟨by decide, hboolean b⟩
  · exact ⟨by decide, isOneLine_escape _⟩

lemma nodup_entryKeys (e : DesktopEntry) : ((entryKeys e).map Prod.fst).Nodup := by
  rw [entryKeys]
  cases e.dbusActivatable with
  | none => exact (by decide : [keyType, keyName, keyExec, keyXFlatpak].Nodup)
  | some b =>
    exact (by decide : [keyType, keyName, keyExec, keyDBusActivatable, keyXFlatpak].Nodup)

/-- The group of an entry. -/
def entryGroup (e : DesktopEntry) : KeyFile.Group where
  name := desktopGroup
  keys := entryKeys e
  name_ok := by decide
  keys_ok _ hp := (mem_entryKeys hp).1
  values_ok _ hp := (mem_entryKeys hp).2

/-- The text of an entry. -/
def entryText (e : DesktopEntry) : List UInt8 := KeyFile.write [entryGroup e]

example : entryText (autostartEntry ⟨utf8 "org.a\n[b]", true, [utf8 "a b"], 1⟩)
    = utf8 ("[Desktop Entry]\nType=Application\nName=org.a\\n[b]\nExec='a b'\n" ++
      "DBusActivatable=true\nX-Flatpak=org.a\\n[b]\n") := by decide

/-! ## Reading an entry -/

lemma read_entryText (e : DesktopEntry) :
    KeyFile.read (entryText e) = some (entryGroup e).entries := by
  rw [entryText, KeyFile.read_write]
  simp

/-- What is written for a command line never begins with a form feed. -/
lemma head_flatpakQuoteArgv (argv : List (List UInt8)) :
    (flatpakQuoteArgv argv).head? ≠ some formFeed := by
  have hword : ∀ arg, (quoteArg arg).head? ≠ some formFeed := by
    intro arg
    cases hneeds : needsQuoting arg with
    | true =>
      rw [quoteArg, if_pos hneeds]
      exact (by decide : some Shell.singleQuote ≠ some formFeed)
    | false =>
      rw [quoteArg, if_neg (by simp [hneeds])]
      cases arg with
      | nil => simp
      | cons c arg =>
        rw [List.head?_cons]
        rintro ⟨⟩
        rw [needsQuoting, if_pos (by decide)] at hneeds
        exact absurd hneeds (by simp)
  cases argv with
  | nil => simp [flatpakQuoteArgv]
  | cons arg argv =>
    cases argv with
    | nil => simpa [flatpakQuoteArgv] using hword arg
    | cons arg' argv =>
      rw [flatpakQuoteArgv, List.map_cons, List.map_cons, List.intercalate_cons_cons]
      cases hquote : quoteArg arg with
      | nil => exact (by decide : some Shell.space ≠ some formFeed)
      | cons c s =>
        have := hword arg
        rw [hquote] at this
        exact this

/-- What a reader of key files finds in the text that is written for a call. -/
structure ReadsBack (n : EnableAutostartCall) (entries : List KeyFile.Entry) : Prop where
  /-- There is one group, and it has these keys in this order. -/
  keys : entries.map (fun e => (e.group, e.key)) =
    ([keyType, keyName, keyExec] ++
        (if n.flags &&& autostartFlagsActivatable ≠ 0 then [keyDBusActivatable] else []) ++
        [keyXFlatpak]).map fun key => (desktopGroup, key)
  type : getString entries desktopGroup keyType = some (utf8 "Application")
  exec : getString entries desktopGroup keyExec = some (flatpakQuoteArgv n.commandline)
  dbusActivatable : getValue entries desktopGroup keyDBusActivatable =
    if n.flags &&& autostartFlagsActivatable ≠ 0 then some (utf8 "true") else none
  /-- The application id is read back unless it begins with a form feed. -/
  name : getString entries desktopGroup keyName = some n.appId ↔ n.appId.head? ≠ some formFeed
  xFlatpak : getString entries desktopGroup keyXFlatpak = some n.appId ↔
    n.appId.head? ≠ some formFeed

/-- **What is written for a call is read back**: whatever the application id and the command line
contain, a reader of key files accepts the text and finds the keys of the entry and no others, with
their values; only an application id that begins with a form feed is not read as it was. -/
theorem autostart_reads_back (n : EnableAutostartCall) :
    ∃ entries, KeyFile.read (entryText (autostartEntry n)) = some entries ∧
      ReadsBack n entries := by
  refine ⟨_, read_entryText (autostartEntry n), ?_⟩
  have hnodup : ((entryGroup (autostartEntry n)).keys.map Prod.fst).Nodup :=
    nodup_entryKeys (autostartEntry n)
  have hstring : ∀ key s, (key, escape s) ∈ entryKeys (autostartEntry n) →
      (getString (entryGroup (autostartEntry n)).entries desktopGroup key = some s ↔
        s.head? ≠ some formFeed) :=
    fun key s h => KeyFile.getString_escape_iff hnodup h
  refine ⟨?_, ?_, ?_, ?_, ?_, ?_⟩
  · have hkeys : (entryGroup (autostartEntry n)).entries.map (fun e => (e.group, e.key))
        = ((entryKeys (autostartEntry n)).map Prod.fst).map fun key => (desktopGroup, key) := by
      simp [KeyFile.Group.entries, entryGroup]
    rw [hkeys]
    by_cases hflag : n.flags &&& autostartFlagsActivatable ≠ 0
    · simp [entryKeys, autostartEntry, hflag]
    · simp [entryKeys, autostartEntry, not_not.mp hflag]
  · exact (hstring keyType (utf8 "Application") (by simp [entryKeys, autostartEntry])).mpr
      (by decide)
  · exact (hstring keyExec (flatpakQuoteArgv n.commandline)
      (by simp [entryKeys, autostartEntry])).mpr (head_flatpakQuoteArgv n.commandline)
  · by_cases hflag : n.flags &&& autostartFlagsActivatable ≠ 0
    · rw [if_pos hflag]
      have hmem : (keyDBusActivatable, booleanValue true) ∈ entryKeys (autostartEntry n) := by
        simp [entryKeys, autostartEntry, hflag]
      exact KeyFile.getValue_of_mem hnodup hmem
    · rw [if_neg hflag]
      refine KeyFile.getValue_of_notMem (g := entryGroup (autostartEntry n)) ?_
      have hkeys : (entryGroup (autostartEntry n)).keys.map Prod.fst
          = [keyType, keyName, keyExec, keyXFlatpak] := by
        simp [entryGroup, entryKeys, autostartEntry, not_not.mp hflag]
      rw [hkeys]
      decide
  · exact hstring keyName n.appId (by simp [entryKeys, autostartEntry])
  · exact hstring keyXFlatpak n.appId (by simp [entryKeys, autostartEntry])

/-! ## The directory after any calls -/

/-- The files as a machine that serves calls in the environments they find. -/
def directory (userConfigDir : List UInt8) (files : Files) :
    Machine Files (EnableAutostartCall × Environment) where
  init := files
  step files call := (handleEnableAutostart userConfigDir call.1 call.2 files).2

/-- Whether a call can do what it asks for: make the directories and save the file, or remove it. -/
def Effective (call : EnableAutostartCall × Environment) : Bool :=
  if call.1.enable then call.2.dirsMade && call.2.saved else call.2.unlinked

/-- What an effective call makes of the file of its application id. -/
def outcome (n : EnableAutostartCall) : Option File :=
  if n.enable then some (.keyFile (autostartEntry n)) else none

/-- The last effective call for the application ids that satisfy `p`. -/
def lastEffective (p : List UInt8 → Bool) (calls : List (EnableAutostartCall × Environment)) :
    Option EnableAutostartCall :=
  (calls.reverse.find? fun call => p call.1.appId && Effective call).map Prod.fst

section Directory

variable {userConfigDir : List UInt8} {files : Files}

lemma handleEnableAutostart_snd (n : EnableAutostartCall) (env : Environment) :
    (handleEnableAutostart userConfigDir n env files).2
      = if Effective (n, env) then
          Function.update files (autostartFile userConfigDir n.appId) (outcome n)
        else files := by
  obtain ⟨dirsMade, saved, unlinked⟩ := env
  cases hn : n.enable with
  | true =>
    cases dirsMade <;> cases saved <;> simp [handleEnableAutostart, Effective, outcome, hn]
  | false => cases unlinked <;> simp [handleEnableAutostart, Effective, outcome, hn]

lemma lastEffective_concat (p : List UInt8 → Bool)
    (calls : List (EnableAutostartCall × Environment)) (call : EnableAutostartCall × Environment) :
    lastEffective p (calls ++ [call])
      = if p call.1.appId && Effective call then some call.1 else lastEffective p calls := by
  rw [lastEffective, List.reverse_concat, List.find?_cons]
  cases p call.1.appId && Effective call <;> rfl

/-- Every file is what the last effective call for it has made of it. -/
lemma directory_run (calls : List (EnableAutostartCall × Environment))
    (path : List (List UInt8)) :
    (directory userConfigDir files).run calls path
      = ((lastEffective (fun appId => autostartFile userConfigDir appId = path) calls).map
          outcome).getD (files path) := by
  induction calls using List.reverseRecOn with
  | nil => rfl
  | append_singleton calls call ih =>
    rw [Machine.run_concat, lastEffective_concat]
    show (handleEnableAutostart userConfigDir call.1 call.2 _).2 path = _
    rw [handleEnableAutostart_snd]
    cases heff : Effective call with
    | false => simpa [heff] using ih
    | true =>
      by_cases hpath : autostartFile userConfigDir call.1.appId = path
      · subst hpath
        simp
      · simp only [hpath, if_true, decide_false, Bool.false_and]
        rw [Function.update_of_ne (Ne.symm hpath), ih]
        simp

end Directory

/-- **The autostart directory is what the last effective calls have made of it**: after any sequence
of calls every file is as it was before or as the last effective call that concerns it has left it;
and among application ids without slashes that is the last effective call of the id itself. -/
theorem autostart_directory (userConfigDir : List UInt8) (files : Files)
    (calls : List (EnableAutostartCall × Environment)) :
    (∀ path, (directory userConfigDir files).run calls path
      = ((lastEffective (fun appId => autostartFile userConfigDir appId = path) calls).map
          outcome).getD (files path)) ∧
    ((∀ call ∈ calls, slash ∉ call.1.appId) → ∀ appId, slash ∉ appId →
      (directory userConfigDir files).run calls (autostartFile userConfigDir appId)
        = ((lastEffective (· = appId) calls).map outcome).getD
            (files (autostartFile userConfigDir appId))) := by
  refine ⟨directory_run calls, fun hcalls appId hid => ?_⟩
  rw [directory_run]
  have hsame : lastEffective
      (fun appId' => autostartFile userConfigDir appId' = autostartFile userConfigDir appId) calls
      = lastEffective (· = appId) calls := by
    rw [lastEffective, lastEffective, ← List.head?_filter, ← List.head?_filter]
    congr 2
    refine List.filter_congr fun call hcall => ?_
    have hcall' := hcalls call (List.mem_reverse.mp hcall)
    have hiff : autostartFile userConfigDir call.1.appId = autostartFile userConfigDir appId ↔
        call.1.appId = appId := by
      rw [sameFile_iff, (parts_of_slashFree hcall').1, (parts_of_slashFree hcall').2,
        (parts_of_slashFree hid).1, (parts_of_slashFree hid).2]
      simp
    simp [hiff]
  rw [hsame]

end XappPortal.Background
